/-
# States of the automaton of Java

The states, in the order of their numbers. A row is of a mode of the lexicon, a map from tokens to
states, a map from constructs to states, the reductions with the index of the set of tokens that
allow each, and the index of the set of tokens that go on with a repetition. Maps and sets of index 0
are empty.

Key definition: `rows`.
-/
import Testsmith.Parsing.Automaton

namespace Testsmith.Java

open Parsing

def rowsFrom0 : Array Row := #[
  ⟨0, 0, 0, [], 0⟩, ⟨0, 2, 1, [⟨0, 0, 1⟩], 0⟩, ⟨0, 2, 2, [⟨0, 1, 1⟩], 0⟩,
  ⟨0, 2, 2, [⟨144, 2, 2⟩], 3⟩, ⟨0, 12, 3, [⟨38, 1, 4⟩], 0⟩, ⟨0, 1, 4, [], 0⟩,
  ⟨0, 9, 5, [⟨157, 2, 5⟩], 6⟩, ⟨0, 12, 5, [⟨38, 2, 4⟩], 0⟩, ⟨0, 3, 6, [], 0⟩, ⟨0, 4, 5, [], 0⟩,
  ⟨0, 5, 7, [], 0⟩, ⟨0, 5, 5, [], 0⟩, ⟨0, 6, 5, [], 0⟩, ⟨0, 7, 8, [], 0⟩, ⟨0, 8, 5, [], 0⟩,
  ⟨0, 10, 9, [], 0⟩, ⟨0, 11, 10, [], 0⟩, ⟨0, 11, 11, [], 0⟩, ⟨0, 11, 12, [], 0⟩, ⟨0, 11, 13, [], 0⟩,
  ⟨0, 11, 14, [], 0⟩, ⟨0, 11, 15, [], 0⟩, ⟨0, 11, 16, [], 0⟩, ⟨0, 11, 17, [], 0⟩,
  ⟨0, 11, 18, [], 0⟩, ⟨0, 11, 19, [], 0⟩, ⟨0, 11, 20, [], 0⟩, ⟨0, 11, 21, [], 0⟩,
  ⟨0, 11, 22, [], 0⟩, ⟨0, 11, 23, [], 0⟩, ⟨0, 11, 24, [], 0⟩, ⟨0, 11, 25, [], 0⟩,
  ⟨0, 11, 26, [], 0⟩, ⟨0, 11, 27, [], 0⟩, ⟨0, 11, 28, [], 0⟩, ⟨0, 11, 29, [], 0⟩,
  ⟨0, 11, 30, [], 0⟩, ⟨0, 11, 31, [], 0⟩, ⟨0, 11, 32, [], 0⟩, ⟨0, 11, 33, [], 0⟩,
  ⟨0, 11, 34, [], 0⟩, ⟨0, 11, 35, [], 0⟩, ⟨0, 11, 36, [], 0⟩, ⟨0, 11, 37, [], 0⟩,
  ⟨0, 11, 38, [], 0⟩, ⟨0, 11, 39, [], 0⟩, ⟨0, 9, 40, [], 0⟩, ⟨0, 9, 41, [], 0⟩, ⟨0, 9, 42, [], 0⟩,
  ⟨0, 9, 43, [], 0⟩, ⟨0, 9, 44, [], 0⟩, ⟨0, 9, 45, [], 0⟩, ⟨0, 9, 46, [], 0⟩, ⟨0, 9, 47, [], 0⟩,
  ⟨0, 9, 48, [], 0⟩, ⟨0, 9, 49, [], 0⟩, ⟨0, 9, 50, [], 0⟩, ⟨0, 9, 51, [], 0⟩, ⟨0, 9, 52, [], 0⟩,
  ⟨0, 9, 53, [], 0⟩, ⟨0, 9, 54, [], 0⟩, ⟨0, 9, 55, [], 0⟩, ⟨0, 9, 56, [], 0⟩, ⟨0, 9, 57, [], 0⟩]

def rowsFrom64 : Array Row := #[
  ⟨0, 9, 58, [], 0⟩, ⟨0, 9, 59, [], 0⟩, ⟨0, 9, 60, [], 0⟩, ⟨0, 9, 61, [], 0⟩, ⟨0, 9, 62, [], 0⟩,
  ⟨0, 9, 63, [], 0⟩, ⟨0, 9, 64, [], 0⟩, ⟨0, 9, 65, [], 0⟩, ⟨0, 9, 66, [], 0⟩, ⟨0, 9, 67, [], 0⟩,
  ⟨0, 9, 68, [], 0⟩, ⟨0, 9, 69, [], 0⟩, ⟨0, 10, 70, [], 0⟩, ⟨0, 10, 71, [], 0⟩, ⟨0, 10, 72, [], 0⟩,
  ⟨0, 10, 73, [], 0⟩, ⟨0, 10, 74, [], 0⟩, ⟨0, 10, 75, [], 0⟩, ⟨0, 10, 76, [], 0⟩,
  ⟨0, 10, 77, [], 0⟩, ⟨0, 10, 78, [], 0⟩, ⟨0, 10, 79, [], 0⟩, ⟨0, 10, 80, [], 0⟩,
  ⟨0, 10, 81, [], 0⟩, ⟨0, 10, 82, [], 0⟩, ⟨0, 10, 83, [], 0⟩, ⟨0, 10, 84, [], 0⟩,
  ⟨0, 10, 85, [], 0⟩, ⟨0, 10, 86, [], 0⟩, ⟨0, 10, 87, [], 0⟩, ⟨0, 10, 88, [], 0⟩,
  ⟨0, 10, 89, [], 0⟩, ⟨0, 10, 90, [], 0⟩, ⟨0, 10, 91, [], 0⟩, ⟨0, 10, 92, [], 0⟩,
  ⟨0, 10, 93, [], 0⟩, ⟨0, 10, 94, [], 0⟩, ⟨0, 10, 95, [], 0⟩, ⟨0, 10, 96, [], 0⟩,
  ⟨0, 10, 97, [], 0⟩, ⟨0, 10, 98, [], 0⟩, ⟨0, 10, 99, [], 0⟩, ⟨1, 79, 123, [⟨143, 1, 7⟩], 0⟩,
  ⟨2, 0, 0, [⟨104, 2, 8⟩], 0⟩, ⟨2, 0, 0, [⟨104, 3, 8⟩], 0⟩, ⟨2, 0, 0, [⟨48, 2, 9⟩], 0⟩,
  ⟨2, 0, 0, [⟨22, 3, 10⟩], 0⟩, ⟨2, 0, 0, [⟨36, 3, 9⟩], 0⟩, ⟨2, 0, 0, [⟨48, 3, 9⟩], 0⟩,
  ⟨2, 0, 0, [⟨37, 2, 9⟩], 0⟩, ⟨2, 0, 0, [⟨37, 3, 9⟩], 0⟩, ⟨3, 13, 100, [], 0⟩, ⟨3, 14, 101, [], 0⟩,
  ⟨3, 13, 102, [], 0⟩, ⟨3, 15, 103, [], 0⟩, ⟨3, 16, 104, [], 0⟩, ⟨3, 17, 105, [], 0⟩,
  ⟨2, 0, 0, [⟨9, 1, 11⟩, ⟨47, 1, 12⟩], 0⟩, ⟨2, 0, 0, [⟨9, 1, 11⟩, ⟨47, 1, 13⟩], 0⟩,
  ⟨1, 23, 106, [], 0⟩, ⟨1, 21, 112, [], 0⟩, ⟨1, 24, 107, [], 0⟩, ⟨1, 25, 108, [], 0⟩,
  ⟨1, 26, 109, [], 0⟩]

def rowsFrom128 : Array Row := #[
  ⟨1, 22, 118, [], 0⟩, ⟨1, 27, 113, [], 0⟩, ⟨1, 28, 114, [], 0⟩, ⟨1, 29, 114, [], 0⟩,
  ⟨1, 30, 113, [], 0⟩, ⟨0, 0, 0, [⟨143, 1, 14⟩], 0⟩, ⟨0, 0, 0, [⟨143, 1, 14⟩], 0⟩,
  ⟨1, 80, 110, [], 0⟩, ⟨1, 33, 115, [], 0⟩, ⟨1, 31, 119, [], 0⟩, ⟨1, 32, 119, [], 0⟩,
  ⟨1, 33, 116, [], 0⟩, ⟨1, 33, 114, [], 0⟩, ⟨1, 33, 117, [], 0⟩, ⟨1, 81, 111, [], 0⟩,
  ⟨1, 34, 120, [], 0⟩, ⟨1, 35, 121, [], 0⟩, ⟨1, 35, 119, [], 0⟩, ⟨1, 36, 122, [], 0⟩,
  ⟨1, 37, 124, [], 0⟩, ⟨1, 38, 125, [], 0⟩, ⟨1, 39, 126, [], 0⟩, ⟨0, 337, 370, [⟨59, 3, 15⟩], 0⟩,
  ⟨0, 337, 371, [⟨64, 3, 15⟩], 0⟩, ⟨1, 40, 127, [], 0⟩, ⟨1, 41, 128, [], 0⟩, ⟨1, 42, 129, [], 0⟩,
  ⟨0, 337, 372, [⟨64, 4, 15⟩], 0⟩, ⟨1, 43, 130, [], 0⟩, ⟨1, 44, 131, [], 0⟩, ⟨1, 45, 132, [], 0⟩,
  ⟨1, 46, 133, [], 0⟩, ⟨1, 47, 134, [], 0⟩, ⟨1, 48, 135, [], 0⟩, ⟨1, 49, 136, [], 0⟩,
  ⟨1, 50, 137, [], 0⟩, ⟨1, 51, 138, [], 0⟩, ⟨1, 52, 139, [], 0⟩, ⟨1, 53, 126, [], 0⟩,
  ⟨1, 54, 129, [], 0⟩, ⟨1, 55, 140, [], 0⟩, ⟨1, 56, 141, [], 0⟩, ⟨1, 57, 142, [], 0⟩,
  ⟨1, 58, 143, [], 0⟩, ⟨1, 59, 144, [], 0⟩, ⟨1, 60, 145, [], 0⟩, ⟨1, 61, 146, [], 0⟩,
  ⟨1, 62, 147, [], 0⟩, ⟨1, 63, 148, [], 0⟩, ⟨1, 64, 149, [], 0⟩, ⟨1, 65, 150, [], 0⟩,
  ⟨1, 66, 151, [], 0⟩, ⟨1, 67, 152, [], 0⟩, ⟨1, 68, 153, [], 0⟩, ⟨1, 69, 154, [], 0⟩,
  ⟨1, 70, 155, [], 0⟩, ⟨1, 71, 156, [], 0⟩, ⟨1, 72, 157, [], 0⟩, ⟨1, 73, 158, [], 0⟩,
  ⟨1, 74, 159, [], 0⟩, ⟨1, 75, 160, [], 0⟩, ⟨1, 76, 161, [], 0⟩, ⟨1, 77, 162, [], 0⟩,
  ⟨1, 78, 163, [], 0⟩]

def rowsFrom192 : Array Row := #[
  ⟨1, 79, 164, [], 0⟩, ⟨1, 79, 165, [], 0⟩, ⟨1, 79, 166, [], 0⟩, ⟨1, 79, 167, [], 0⟩,
  ⟨1, 79, 168, [], 0⟩, ⟨1, 79, 169, [], 0⟩, ⟨1, 79, 170, [], 0⟩, ⟨1, 79, 171, [], 0⟩,
  ⟨1, 79, 172, [], 0⟩, ⟨1, 79, 173, [], 0⟩, ⟨1, 79, 174, [], 0⟩, ⟨1, 79, 175, [], 0⟩,
  ⟨1, 79, 176, [], 0⟩, ⟨1, 79, 177, [], 0⟩, ⟨1, 79, 178, [], 0⟩, ⟨1, 79, 179, [], 0⟩,
  ⟨1, 79, 180, [], 0⟩, ⟨1, 79, 181, [], 0⟩, ⟨1, 79, 182, [], 0⟩, ⟨1, 79, 183, [], 0⟩,
  ⟨1, 79, 184, [], 0⟩, ⟨0, 477, 386, [⟨159, 2, 16⟩], 17⟩, ⟨1, 79, 185, [], 0⟩, ⟨1, 79, 186, [], 0⟩,
  ⟨1, 79, 187, [], 0⟩, ⟨1, 79, 126, [], 0⟩, ⟨1, 79, 188, [], 0⟩, ⟨1, 79, 189, [], 0⟩,
  ⟨1, 79, 129, [], 0⟩, ⟨1, 82, 190, [], 0⟩, ⟨1, 79, 191, [], 0⟩, ⟨1, 79, 192, [], 0⟩,
  ⟨1, 79, 193, [], 0⟩, ⟨1, 82, 194, [], 0⟩, ⟨1, 82, 195, [], 0⟩, ⟨1, 82, 196, [], 0⟩,
  ⟨1, 82, 197, [], 0⟩, ⟨1, 82, 198, [], 0⟩, ⟨1, 82, 199, [], 0⟩, ⟨1, 82, 200, [], 0⟩,
  ⟨1, 82, 201, [], 0⟩, ⟨1, 82, 202, [], 0⟩, ⟨1, 82, 203, [], 0⟩, ⟨1, 82, 204, [], 0⟩,
  ⟨1, 82, 205, [], 0⟩, ⟨1, 82, 206, [], 0⟩, ⟨1, 82, 207, [], 0⟩, ⟨1, 79, 208, [], 0⟩,
  ⟨1, 82, 209, [], 0⟩, ⟨1, 82, 210, [], 0⟩, ⟨1, 79, 211, [], 0⟩, ⟨1, 79, 212, [], 0⟩,
  ⟨1, 79, 213, [], 0⟩, ⟨1, 79, 214, [], 0⟩, ⟨1, 79, 215, [], 0⟩, ⟨1, 79, 216, [], 0⟩,
  ⟨1, 79, 217, [], 0⟩, ⟨3, 18, 218, [], 0⟩, ⟨3, 19, 218, [], 0⟩, ⟨0, 0, 0, [⟨60, 5, 16⟩], 0⟩,
  ⟨0, 0, 0, [⟨48, 2, 16⟩], 0⟩, ⟨0, 0, 0, [⟨48, 3, 16⟩], 0⟩, ⟨3, 20, 219, [], 0⟩, ⟨3, 20, 218, [], 0⟩]

def rowsFrom256 : Array Row := #[
  ⟨0, 0, 0, [⟨47, 1, 15⟩], 0⟩, ⟨0, 0, 0, [⟨78, 1, 15⟩], 0⟩, ⟨0, 0, 0, [⟨53, 2, 15⟩], 0⟩,
  ⟨0, 0, 0, [⟨54, 2, 15⟩], 0⟩, ⟨0, 0, 0, [⟨55, 2, 15⟩], 0⟩, ⟨0, 0, 0, [⟨49, 2, 15⟩], 0⟩,
  ⟨0, 0, 0, [⟨95, 3, 15⟩], 0⟩, ⟨0, 0, 0, [⟨51, 3, 15⟩], 0⟩, ⟨0, 0, 0, [⟨68, 3, 15⟩], 0⟩,
  ⟨0, 0, 0, [⟨53, 3, 15⟩], 0⟩, ⟨0, 0, 0, [⟨54, 3, 15⟩], 0⟩, ⟨0, 0, 0, [⟨55, 3, 15⟩], 0⟩,
  ⟨0, 0, 0, [⟨56, 3, 15⟩], 0⟩, ⟨0, 0, 0, [⟨57, 3, 15⟩], 0⟩, ⟨0, 0, 0, [⟨58, 3, 15⟩], 0⟩,
  ⟨0, 0, 0, [⟨59, 3, 15⟩], 0⟩, ⟨0, 0, 0, [⟨79, 3, 15⟩], 0⟩, ⟨0, 0, 0, [⟨88, 3, 15⟩], 0⟩,
  ⟨0, 0, 0, [⟨89, 3, 15⟩], 0⟩, ⟨0, 0, 0, [⟨91, 3, 15⟩], 0⟩, ⟨0, 0, 0, [⟨113, 3, 15⟩], 0⟩,
  ⟨0, 0, 0, [⟨117, 3, 15⟩], 0⟩, ⟨0, 0, 0, [⟨50, 3, 15⟩], 0⟩, ⟨0, 0, 0, [⟨140, 3, 15⟩], 0⟩,
  ⟨0, 0, 0, [⟨95, 4, 15⟩], 0⟩, ⟨0, 0, 0, [⟨95, 4, 15⟩], 0⟩, ⟨0, 0, 0, [⟨95, 4, 15⟩], 0⟩,
  ⟨0, 0, 0, [⟨95, 4, 15⟩], 0⟩, ⟨0, 0, 0, [⟨63, 2, 15⟩], 0⟩, ⟨0, 0, 0, [⟨59, 4, 15⟩], 0⟩,
  ⟨0, 0, 0, [⟨64, 4, 15⟩], 0⟩, ⟨0, 0, 0, [⟨79, 4, 15⟩], 0⟩, ⟨0, 0, 0, [⟨80, 2, 15⟩], 0⟩,
  ⟨0, 0, 0, [⟨89, 4, 15⟩], 0⟩, ⟨0, 0, 0, [⟨92, 2, 15⟩], 0⟩, ⟨0, 0, 0, [⟨91, 4, 15⟩], 0⟩,
  ⟨0, 0, 0, [⟨112, 4, 15⟩], 0⟩, ⟨0, 0, 0, [⟨114, 2, 15⟩], 0⟩, ⟨0, 0, 0, [⟨119, 2, 15⟩], 0⟩,
  ⟨0, 0, 0, [⟨117, 4, 15⟩], 0⟩, ⟨0, 0, 0, [⟨117, 4, 15⟩], 0⟩, ⟨0, 0, 0, [⟨117, 4, 15⟩], 0⟩,
  ⟨0, 0, 0, [⟨95, 4, 15⟩], 0⟩, ⟨0, 0, 0, [⟨91, 4, 15⟩], 0⟩, ⟨0, 0, 0, [⟨113, 4, 15⟩], 0⟩,
  ⟨0, 0, 0, [⟨117, 4, 15⟩], 0⟩, ⟨0, 0, 0, [⟨140, 4, 15⟩], 0⟩, ⟨0, 0, 0, [⟨88, 4, 15⟩], 0⟩,
  ⟨0, 0, 0, [⟨95, 5, 15⟩], 0⟩, ⟨0, 0, 0, [⟨95, 5, 15⟩], 0⟩, ⟨0, 0, 0, [⟨95, 5, 15⟩], 0⟩,
  ⟨0, 0, 0, [⟨95, 5, 15⟩], 0⟩, ⟨0, 0, 0, [⟨95, 5, 15⟩], 0⟩, ⟨0, 0, 0, [⟨95, 5, 15⟩], 0⟩,
  ⟨0, 0, 0, [⟨51, 5, 15⟩], 0⟩, ⟨0, 0, 0, [⟨52, 5, 15⟩], 0⟩, ⟨0, 0, 0, [⟨64, 5, 15⟩], 0⟩,
  ⟨0, 0, 0, [⟨67, 5, 15⟩], 0⟩, ⟨0, 0, 0, [⟨80, 3, 15⟩], 0⟩, ⟨0, 0, 0, [⟨89, 5, 15⟩], 0⟩,
  ⟨0, 0, 0, [⟨92, 3, 15⟩], 0⟩, ⟨0, 0, 0, [⟨112, 5, 15⟩], 0⟩, ⟨0, 0, 0, [⟨112, 5, 15⟩], 0⟩,
  ⟨0, 0, 0, [⟨114, 3, 15⟩], 0⟩]

def rowsFrom320 : Array Row := #[
  ⟨0, 0, 0, [⟨119, 3, 15⟩], 0⟩, ⟨0, 0, 0, [⟨117, 5, 15⟩], 0⟩, ⟨0, 0, 0, [⟨117, 5, 15⟩], 0⟩,
  ⟨0, 0, 0, [⟨117, 5, 15⟩], 0⟩, ⟨0, 0, 0, [⟨95, 5, 15⟩], 0⟩, ⟨0, 0, 0, [⟨95, 5, 15⟩], 0⟩,
  ⟨0, 0, 0, [⟨95, 5, 15⟩], 0⟩, ⟨0, 0, 0, [⟨95, 5, 15⟩], 0⟩, ⟨0, 0, 0, [⟨91, 5, 15⟩], 0⟩,
  ⟨0, 0, 0, [⟨112, 5, 15⟩], 0⟩, ⟨0, 0, 0, [⟨117, 5, 15⟩], 0⟩, ⟨0, 0, 0, [⟨117, 5, 15⟩], 0⟩,
  ⟨0, 0, 0, [⟨117, 5, 15⟩], 0⟩, ⟨0, 0, 0, [⟨79, 5, 15⟩], 0⟩, ⟨0, 0, 0, [⟨95, 6, 15⟩], 0⟩,
  ⟨0, 0, 0, [⟨95, 6, 15⟩], 0⟩, ⟨0, 0, 0, [⟨95, 6, 15⟩], 0⟩, ⟨0, 0, 0, [⟨95, 6, 15⟩], 0⟩,
  ⟨0, 0, 0, [⟨69, 6, 15⟩], 0⟩, ⟨0, 0, 0, [⟨69, 6, 15⟩], 0⟩, ⟨0, 0, 0, [⟨89, 6, 15⟩], 0⟩,
  ⟨0, 0, 0, [⟨92, 4, 15⟩], 0⟩, ⟨0, 0, 0, [⟨112, 6, 15⟩], 0⟩, ⟨0, 0, 0, [⟨117, 6, 15⟩], 0⟩,
  ⟨0, 0, 0, [⟨95, 6, 15⟩], 0⟩, ⟨0, 0, 0, [⟨95, 6, 15⟩], 0⟩, ⟨0, 0, 0, [⟨95, 6, 15⟩], 0⟩,
  ⟨0, 0, 0, [⟨95, 6, 15⟩], 0⟩, ⟨0, 0, 0, [⟨95, 6, 15⟩], 0⟩, ⟨0, 0, 0, [⟨95, 6, 15⟩], 0⟩,
  ⟨0, 0, 0, [⟨112, 6, 15⟩], 0⟩, ⟨0, 0, 0, [⟨112, 6, 15⟩], 0⟩, ⟨0, 0, 0, [⟨117, 6, 15⟩], 0⟩,
  ⟨0, 0, 0, [⟨117, 6, 15⟩], 0⟩, ⟨0, 0, 0, [⟨117, 6, 15⟩], 0⟩, ⟨0, 0, 0, [⟨95, 7, 15⟩], 0⟩,
  ⟨0, 0, 0, [⟨69, 7, 15⟩], 0⟩, ⟨0, 0, 0, [⟨69, 7, 15⟩], 0⟩, ⟨0, 0, 0, [⟨69, 7, 15⟩], 0⟩,
  ⟨0, 0, 0, [⟨69, 7, 15⟩], 0⟩, ⟨0, 0, 0, [⟨69, 7, 15⟩], 0⟩, ⟨0, 0, 0, [⟨92, 5, 15⟩], 0⟩,
  ⟨0, 0, 0, [⟨95, 7, 15⟩], 0⟩, ⟨0, 0, 0, [⟨95, 7, 15⟩], 0⟩, ⟨0, 0, 0, [⟨95, 7, 15⟩], 0⟩,
  ⟨0, 0, 0, [⟨95, 7, 15⟩], 0⟩, ⟨0, 0, 0, [⟨112, 7, 15⟩], 0⟩, ⟨0, 0, 0, [⟨117, 7, 15⟩], 0⟩,
  ⟨0, 0, 0, [⟨69, 8, 15⟩], 0⟩, ⟨0, 0, 0, [⟨69, 8, 15⟩], 0⟩, ⟨0, 0, 0, [⟨69, 8, 15⟩], 0⟩,
  ⟨0, 0, 0, [⟨69, 8, 15⟩], 0⟩, ⟨0, 0, 0, [⟨69, 8, 15⟩], 0⟩, ⟨0, 0, 0, [⟨70, 8, 15⟩], 0⟩,
  ⟨0, 0, 0, [⟨69, 8, 15⟩], 0⟩, ⟨0, 0, 0, [⟨69, 8, 15⟩], 0⟩, ⟨0, 0, 0, [⟨92, 6, 15⟩], 0⟩,
  ⟨0, 0, 0, [⟨95, 8, 15⟩], 0⟩, ⟨0, 0, 0, [⟨69, 9, 15⟩], 0⟩, ⟨0, 0, 0, [⟨69, 9, 15⟩], 0⟩,
  ⟨0, 0, 0, [⟨69, 9, 15⟩], 0⟩, ⟨0, 0, 0, [⟨69, 9, 15⟩], 0⟩, ⟨0, 0, 0, [⟨69, 9, 15⟩], 0⟩,
  ⟨0, 0, 0, [⟨70, 9, 15⟩], 0⟩]

def rowsFrom384 : Array Row := #[
  ⟨0, 0, 0, [⟨69, 9, 15⟩], 0⟩, ⟨0, 0, 0, [⟨69, 10, 15⟩], 0⟩, ⟨0, 0, 0, [⟨69, 10, 15⟩], 0⟩,
  ⟨0, 0, 0, [⟨69, 10, 15⟩], 0⟩, ⟨0, 0, 0, [⟨69, 11, 15⟩], 0⟩, ⟨0, 338, 387, [⟨156, 2, 5⟩], 18⟩,
  ⟨0, 0, 0, [⟨141, 2, 19⟩], 0⟩, ⟨0, 0, 0, [⟨141, 2, 19⟩], 0⟩, ⟨0, 478, 0, [⟨67, 3, 2⟩], 0⟩,
  ⟨0, 0, 0, [⟨141, 3, 19⟩], 0⟩, ⟨0, 0, 0, [⟨141, 3, 19⟩], 0⟩, ⟨0, 479, 0, [⟨67, 3, 5⟩], 0⟩,
  ⟨0, 0, 0, [⟨156, 2, 5⟩], 0⟩, ⟨0, 0, 0, [⟨109, 3, 20⟩], 0⟩, ⟨0, 0, 0, [⟨109, 4, 20⟩], 0⟩,
  ⟨0, 0, 0, [⟨109, 5, 20⟩], 0⟩, ⟨0, 0, 0, [⟨109, 6, 20⟩], 0⟩,
  ⟨0, 0, 0, [⟨143, 1, 21⟩, ⟨172, 1, 22⟩], 0⟩, ⟨0, 0, 0, [⟨143, 1, 7⟩, ⟨172, 1, 23⟩], 0⟩,
  ⟨3, 0, 0, [⟨143, 1, 24⟩, ⟨172, 1, 25⟩], 0⟩, ⟨1, 85, 220, [], 0⟩, ⟨1, 86, 221, [], 0⟩,
  ⟨4, 0, 0, [⟨143, 1, 26⟩], 0⟩, ⟨4, 0, 0, [⟨143, 1, 26⟩], 0⟩, ⟨0, 83, 222, [], 0⟩,
  ⟨0, 84, 223, [], 0⟩, ⟨0, 87, 224, [⟨93, 1, 27⟩], 0⟩, ⟨0, 88, 223, [⟨171, 2, 28⟩], 29⟩,
  ⟨0, 88, 223, [⟨93, 2, 27⟩], 0⟩, ⟨1, 185, 388, [⟨19, 1, 30⟩, ⟨126, 1, 31⟩], 0⟩,
  ⟨1, 171, 373, [⟨19, 1, 32⟩, ⟨126, 1, 33⟩], 0⟩, ⟨1, 171, 373, [⟨19, 1, 32⟩, ⟨126, 1, 34⟩], 0⟩,
  ⟨0, 89, 225, [], 0⟩, ⟨0, 90, 226, [], 0⟩, ⟨1, 186, 374, [⟨19, 1, 35⟩, ⟨126, 1, 36⟩], 0⟩,
  ⟨0, 91, 226, [⟨177, 2, 37⟩], 38⟩, ⟨1, 187, 374, [⟨19, 1, 39⟩, ⟨126, 1, 36⟩], 0⟩,
  ⟨1, 178, 388, [⟨19, 1, 40⟩, ⟨126, 1, 31⟩], 0⟩, ⟨1, 188, 374, [⟨19, 1, 41⟩, ⟨126, 1, 36⟩], 0⟩,
  ⟨1, 179, 388, [⟨19, 1, 40⟩, ⟨126, 1, 31⟩], 0⟩, ⟨1, 180, 388, [⟨19, 1, 40⟩, ⟨126, 1, 31⟩], 0⟩,
  ⟨1, 257, 389, [⟨143, 1, 7⟩], 0⟩, ⟨0, 92, 227, [], 0⟩, ⟨0, 93, 228, [], 0⟩,
  ⟨0, 94, 228, [⟨176, 2, 42⟩], 43⟩, ⟨1, 200, 466, [⟨19, 1, 30⟩], 0⟩,
  ⟨1, 480, 467, [⟨26, 3, 44⟩], 0⟩, ⟨1, 480, 468, [⟨26, 5, 44⟩], 0⟩, ⟨5, 339, 347, [⟨35, 1, 45⟩], 0⟩,
  ⟨5, 339, 347, [⟨153, 2, 46⟩], 47⟩, ⟨1, 0, 0, [⟨26, 3, 44⟩], 0⟩, ⟨1, 0, 0, [⟨28, 4, 44⟩], 0⟩,
  ⟨1, 0, 0, [⟨26, 5, 44⟩], 0⟩, ⟨1, 189, 388, [⟨19, 1, 35⟩, ⟨126, 1, 48⟩], 0⟩,
  ⟨5, 339, 329, [⟨127, 2, 49⟩], 0⟩, ⟨5, 339, 329, [⟨125, 1, 49⟩], 0⟩, ⟨1, 214, 0, [⟨19, 1, 30⟩], 0⟩,
  ⟨1, 201, 390, [⟨19, 1, 35⟩], 0⟩, ⟨1, 202, 390, [⟨19, 1, 39⟩], 0⟩, ⟨1, 190, 391, [⟨19, 1, 32⟩], 0⟩,
  ⟨5, 305, 392, [⟨126, 1, 50⟩], 0⟩, ⟨1, 191, 388, [⟨19, 1, 32⟩, ⟨126, 1, 48⟩], 0⟩,
  ⟨1, 203, 466, [⟨19, 1, 35⟩], 0⟩, ⟨1, 204, 390, [⟨19, 1, 41⟩], 0⟩]

def rowsFrom448 : Array Row := #[
  ⟨5, 340, 292, [⟨20, 3, 51⟩], 0⟩, ⟨5, 340, 293, [⟨20, 3, 51⟩], 0⟩,
  ⟨5, 341, 469, [⟨126, 1, 50⟩], 0⟩, ⟨5, 340, 294, [⟨20, 4, 51⟩], 0⟩,
  ⟨5, 340, 295, [⟨20, 4, 51⟩], 0⟩, ⟨1, 481, 0, [⟨143, 1, 7⟩], 0⟩, ⟨1, 482, 0, [⟨143, 1, 7⟩], 0⟩,
  ⟨1, 205, 466, [⟨19, 1, 32⟩], 0⟩, ⟨5, 0, 0, [⟨129, 2, 52⟩], 0⟩, ⟨5, 342, 470, [⟨126, 1, 50⟩], 0⟩,
  ⟨5, 0, 0, [⟨129, 2, 52⟩], 0⟩, ⟨5, 0, 0, [⟨32, 2, 52⟩], 0⟩, ⟨5, 0, 0, [⟨153, 2, 46⟩], 0⟩,
  ⟨5, 0, 0, [⟨32, 3, 52⟩], 0⟩, ⟨5, 0, 0, [⟨153, 3, 46⟩], 0⟩, ⟨5, 0, 0, [⟨32, 4, 52⟩], 0⟩,
  ⟨5, 343, 471, [⟨126, 1, 50⟩], 0⟩, ⟨1, 215, 0, [⟨19, 1, 35⟩], 0⟩, ⟨3, 95, 229, [], 0⟩,
  ⟨5, 344, 330, [⟨150, 2, 53⟩], 47⟩, ⟨0, 0, 0, [⟨110, 3, 54⟩], 0⟩, ⟨5, 0, 0, [⟨128, 3, 55⟩], 0⟩,
  ⟨1, 0, 0, [⟨140, 3, 56⟩], 0⟩, ⟨5, 0, 0, [⟨128, 3, 55⟩], 0⟩, ⟨5, 0, 0, [⟨128, 4, 55⟩], 0⟩,
  ⟨1, 0, 0, [⟨140, 4, 56⟩], 0⟩, ⟨5, 0, 0, [⟨128, 4, 55⟩], 0⟩, ⟨5, 483, 0, [⟨126, 1, 50⟩], 0⟩,
  ⟨5, 0, 0, [⟨131, 1, 50⟩], 0⟩, ⟨5, 0, 0, [⟨132, 1, 50⟩], 0⟩, ⟨5, 0, 0, [⟨126, 1, 50⟩], 0⟩,
  ⟨5, 0, 0, [⟨130, 2, 50⟩], 0⟩, ⟨3, 96, 232, [], 0⟩, ⟨5, 258, 472, [⟨13, 3, 57⟩], 0⟩,
  ⟨5, 259, 473, [⟨13, 4, 57⟩], 0⟩, ⟨3, 97, 233, [], 0⟩, ⟨3, 97, 234, [], 0⟩,
  ⟨5, 294, 388, [⟨19, 1, 30⟩, ⟨126, 1, 48⟩], 0⟩, ⟨5, 0, 0, [⟨125, 1, 49⟩], 0⟩,
  ⟨0, 345, 474, [⟨72, 2, 58⟩], 0⟩, ⟨5, 484, 475, [⟨25, 3, 59⟩], 0⟩, ⟨5, 484, 476, [⟨25, 3, 59⟩], 0⟩,
  ⟨5, 484, 477, [⟨25, 4, 59⟩], 0⟩, ⟨5, 484, 478, [⟨25, 4, 59⟩], 0⟩, ⟨5, 484, 479, [⟨25, 4, 59⟩], 0⟩,
  ⟨5, 484, 480, [⟨25, 4, 59⟩], 0⟩, ⟨5, 346, 466, [⟨19, 1, 30⟩], 0⟩, ⟨5, 484, 481, [⟨25, 5, 59⟩], 0⟩,
  ⟨5, 484, 482, [⟨25, 5, 59⟩], 0⟩, ⟨5, 484, 483, [⟨25, 5, 59⟩], 0⟩, ⟨5, 484, 484, [⟨25, 5, 59⟩], 0⟩,
  ⟨5, 484, 485, [⟨25, 6, 59⟩], 0⟩, ⟨5, 484, 486, [⟨25, 6, 59⟩], 0⟩, ⟨5, 480, 467, [⟨26, 3, 59⟩], 0⟩,
  ⟨5, 480, 468, [⟨26, 5, 59⟩], 0⟩, ⟨0, 195, 353, [⟨96, 1, 60⟩], 0⟩,
  ⟨0, 195, 353, [⟨172, 2, 22⟩], 61⟩, ⟨6, 0, 0, [⟨32, 2, 62⟩], 0⟩, ⟨5, 0, 0, [⟨30, 2, 63⟩], 0⟩,
  ⟨6, 0, 0, [⟨32, 3, 62⟩], 0⟩, ⟨5, 0, 0, [⟨30, 3, 63⟩], 0⟩, ⟨6, 0, 0, [⟨32, 4, 62⟩], 0⟩,
  ⟨5, 0, 0, [⟨21, 3, 53⟩], 0⟩, ⟨5, 0, 0, [⟨30, 4, 63⟩], 0⟩]

def rowsFrom512 : Array Row := #[
  ⟨5, 0, 0, [⟨21, 4, 53⟩], 0⟩, ⟨5, 0, 0, [⟨2, 1, 59⟩], 0⟩, ⟨5, 0, 0, [⟨19, 1, 59⟩], 0⟩,
  ⟨5, 0, 0, [⟨3, 1, 59⟩], 0⟩, ⟨5, 306, 0, [⟨9, 1, 57⟩], 0⟩, ⟨5, 0, 0, [⟨24, 1, 59⟩], 0⟩,
  ⟨0, 0, 0, [⟨149, 1, 64⟩, ⟨172, 1, 22⟩], 0⟩, ⟨5, 0, 0, [⟨4, 2, 59⟩], 0⟩,
  ⟨5, 0, 0, [⟨5, 2, 59⟩], 0⟩, ⟨5, 0, 0, [⟨29, 2, 59⟩], 0⟩, ⟨5, 0, 0, [⟨4, 3, 59⟩], 0⟩,
  ⟨5, 0, 0, [⟨5, 3, 59⟩], 0⟩, ⟨0, 0, 0, [⟨73, 3, 58⟩], 0⟩, ⟨5, 0, 0, [⟨31, 3, 59⟩], 0⟩,
  ⟨5, 0, 0, [⟨27, 3, 59⟩], 0⟩, ⟨5, 0, 0, [⟨24, 3, 59⟩], 0⟩, ⟨5, 0, 0, [⟨23, 3, 59⟩], 0⟩,
  ⟨5, 306, 0, [⟨10, 4, 57⟩], 0⟩, ⟨5, 0, 0, [⟨25, 4, 59⟩], 0⟩, ⟨5, 0, 0, [⟨20, 4, 59⟩], 0⟩,
  ⟨5, 0, 0, [⟨20, 4, 59⟩], 0⟩, ⟨5, 0, 0, [⟨25, 4, 59⟩], 0⟩, ⟨5, 0, 0, [⟨20, 4, 59⟩], 0⟩,
  ⟨5, 0, 0, [⟨20, 4, 59⟩], 0⟩, ⟨0, 0, 0, [⟨74, 2, 58⟩], 0⟩, ⟨5, 0, 0, [⟨29, 4, 59⟩], 0⟩,
  ⟨5, 0, 0, [⟨31, 4, 59⟩], 0⟩, ⟨5, 307, 0, [⟨10, 5, 57⟩], 0⟩, ⟨5, 0, 0, [⟨124, 2, 59⟩], 0⟩,
  ⟨5, 0, 0, [⟨25, 5, 59⟩], 0⟩, ⟨5, 0, 0, [⟨25, 5, 59⟩], 0⟩, ⟨5, 0, 0, [⟨25, 5, 59⟩], 0⟩,
  ⟨5, 0, 0, [⟨20, 5, 59⟩], 0⟩, ⟨5, 0, 0, [⟨20, 5, 59⟩], 0⟩, ⟨5, 0, 0, [⟨25, 5, 59⟩], 0⟩,
  ⟨5, 0, 0, [⟨20, 5, 59⟩], 0⟩, ⟨5, 0, 0, [⟨20, 5, 59⟩], 0⟩, ⟨0, 0, 0, [⟨105, 2, 28⟩], 0⟩,
  ⟨0, 0, 0, [⟨142, 2, 28⟩], 0⟩, ⟨0, 0, 0, [⟨106, 2, 28⟩], 0⟩, ⟨0, 0, 0, [⟨74, 3, 58⟩], 0⟩,
  ⟨5, 0, 0, [⟨29, 5, 59⟩], 0⟩, ⟨5, 0, 0, [⟨124, 3, 59⟩], 0⟩, ⟨5, 0, 0, [⟨25, 6, 59⟩], 0⟩,
  ⟨5, 0, 0, [⟨25, 6, 59⟩], 0⟩, ⟨5, 0, 0, [⟨25, 6, 59⟩], 0⟩, ⟨5, 0, 0, [⟨25, 6, 59⟩], 0⟩,
  ⟨0, 0, 0, [⟨142, 3, 28⟩], 0⟩, ⟨0, 0, 0, [⟨106, 3, 28⟩], 0⟩, ⟨0, 0, 0, [⟨108, 2, 28⟩], 0⟩,
  ⟨0, 0, 0, [⟨106, 3, 28⟩], 0⟩, ⟨0, 0, 0, [⟨111, 3, 28⟩], 0⟩, ⟨0, 0, 0, [⟨74, 4, 58⟩], 0⟩,
  ⟨5, 0, 0, [⟨29, 6, 59⟩], 0⟩, ⟨5, 0, 0, [⟨124, 4, 59⟩], 0⟩, ⟨5, 0, 0, [⟨25, 7, 59⟩], 0⟩,
  ⟨5, 0, 0, [⟨25, 7, 59⟩], 0⟩, ⟨0, 0, 0, [⟨106, 4, 28⟩], 0⟩, ⟨0, 0, 0, [⟨111, 4, 28⟩], 0⟩,
  ⟨0, 0, 0, [⟨108, 3, 28⟩], 0⟩, ⟨5, 0, 0, [⟨29, 7, 59⟩], 0⟩, ⟨5, 0, 0, [⟨124, 5, 59⟩], 0⟩,
  ⟨0, 0, 0, [⟨108, 4, 28⟩], 0⟩, ⟨5, 0, 0, [⟨26, 3, 59⟩], 0⟩]

def rowsFrom576 : Array Row := #[
  ⟨5, 0, 0, [⟨28, 4, 59⟩], 0⟩, ⟨5, 295, 388, [⟨19, 1, 35⟩, ⟨126, 1, 48⟩], 0⟩,
  ⟨5, 0, 0, [⟨26, 5, 59⟩], 0⟩, ⟨0, 485, 487, [⟨172, 1, 22⟩], 0⟩, ⟨0, 486, 488, [⟨172, 1, 22⟩], 0⟩,
  ⟨0, 0, 0, [⟨120, 3, 37⟩], 0⟩, ⟨0, 0, 0, [⟨120, 4, 37⟩], 0⟩, ⟨1, 172, 230, [], 0⟩,
  ⟨6, 347, 348, [⟨35, 1, 65⟩], 0⟩, ⟨6, 347, 348, [⟨153, 2, 66⟩], 47⟩,
  ⟨5, 348, 466, [⟨19, 1, 35⟩], 0⟩, ⟨5, 0, 0, [⟨9, 1, 57⟩], 0⟩, ⟨5, 0, 0, [⟨17, 2, 57⟩], 0⟩,
  ⟨5, 0, 0, [⟨18, 2, 57⟩], 0⟩, ⟨5, 0, 0, [⟨18, 2, 57⟩], 0⟩, ⟨5, 0, 0, [⟨14, 3, 57⟩], 0⟩,
  ⟨5, 349, 0, [⟨12, 3, 67⟩], 0⟩, ⟨1, 181, 231, [], 0⟩, ⟨5, 0, 0, [⟨13, 3, 57⟩], 0⟩,
  ⟨5, 349, 0, [⟨10, 4, 67⟩], 0⟩, ⟨5, 0, 0, [⟨10, 4, 57⟩], 0⟩, ⟨5, 0, 0, [⟨13, 4, 57⟩], 0⟩,
  ⟨5, 0, 0, [⟨43, 2, 57⟩], 0⟩, ⟨5, 0, 0, [⟨13, 4, 57⟩], 0⟩, ⟨5, 0, 0, [⟨10, 5, 57⟩], 0⟩,
  ⟨5, 0, 0, [⟨13, 5, 57⟩], 0⟩, ⟨5, 0, 0, [⟨44, 2, 57⟩], 0⟩, ⟨5, 0, 0, [⟨44, 3, 57⟩], 0⟩,
  ⟨5, 0, 0, [⟨44, 4, 57⟩], 0⟩, ⟨0, 0, 0, [⟨115, 5, 42⟩], 0⟩, ⟨0, 0, 0, [⟨115, 6, 42⟩], 0⟩,
  ⟨0, 0, 0, [⟨115, 6, 42⟩], 0⟩, ⟨0, 0, 0, [⟨115, 6, 42⟩], 0⟩, ⟨0, 0, 0, [⟨115, 7, 42⟩], 0⟩,
  ⟨0, 0, 0, [⟨115, 7, 42⟩], 0⟩, ⟨0, 0, 0, [⟨115, 7, 42⟩], 0⟩, ⟨0, 0, 0, [⟨115, 8, 42⟩], 0⟩,
  ⟨5, 162, 0, [⟨11, 3, 68⟩], 0⟩, ⟨5, 162, 0, [⟨14, 3, 68⟩], 0⟩, ⟨5, 182, 0, [⟨12, 3, 69⟩], 0⟩,
  ⟨5, 236, 0, [⟨12, 3, 70⟩], 0⟩, ⟨5, 196, 0, [⟨12, 3, 71⟩], 0⟩, ⟨5, 166, 0, [⟨12, 3, 72⟩], 0⟩,
  ⟨5, 164, 0, [⟨12, 3, 73⟩], 0⟩, ⟨5, 287, 0, [⟨12, 3, 74⟩], 0⟩, ⟨5, 168, 0, [⟨12, 3, 75⟩], 0⟩,
  ⟨5, 173, 0, [⟨12, 3, 76⟩], 0⟩, ⟨5, 260, 0, [⟨12, 3, 77⟩], 0⟩, ⟨5, 162, 0, [⟨16, 5, 68⟩], 0⟩,
  ⟨5, 0, 0, [⟨30, 2, 35⟩, ⟨44, 2, 78⟩], 0⟩, ⟨5, 98, 393, [⟨40, 2, 79⟩], 0⟩,
  ⟨5, 480, 489, [⟨19, 1, 40⟩], 0⟩, ⟨3, 197, 354, [⟨96, 1, 80⟩], 0⟩, ⟨3, 350, 490, [⟨72, 2, 81⟩], 0⟩,
  ⟨3, 197, 354, [⟨172, 2, 25⟩], 61⟩, ⟨3, 0, 0, [⟨110, 3, 82⟩], 0⟩, ⟨5, 99, 394, [⟨40, 2, 83⟩], 0⟩,
  ⟨5, 0, 0, [⟨30, 2, 41⟩, ⟨44, 2, 84⟩], 0⟩, ⟨1, 351, 491, [⟨72, 2, 85⟩], 0⟩,
  ⟨6, 0, 0, [⟨153, 2, 66⟩], 0⟩, ⟨5, 162, 0, [⟨76, 1, 86⟩], 0⟩, ⟨1, 174, 278, [], 0⟩,
  ⟨6, 0, 0, [⟨153, 3, 66⟩], 0⟩, ⟨5, 162, 0, [⟨151, 2, 87⟩], 0⟩]

def rowsFrom640 : Array Row := #[
  ⟨5, 308, 0, [⟨9, 1, 11⟩], 0⟩, ⟨5, 163, 0, [⟨11, 3, 88⟩], 0⟩, ⟨5, 163, 0, [⟨14, 3, 88⟩], 0⟩,
  ⟨5, 183, 0, [⟨12, 3, 89⟩], 0⟩, ⟨5, 237, 0, [⟨12, 3, 90⟩], 0⟩, ⟨5, 198, 0, [⟨12, 3, 91⟩], 0⟩,
  ⟨5, 167, 0, [⟨12, 3, 92⟩], 0⟩, ⟨5, 165, 0, [⟨12, 3, 93⟩], 0⟩, ⟨5, 288, 0, [⟨12, 3, 94⟩], 0⟩,
  ⟨5, 169, 0, [⟨12, 3, 95⟩], 0⟩, ⟨5, 175, 0, [⟨12, 3, 96⟩], 0⟩, ⟨5, 261, 0, [⟨12, 3, 97⟩], 0⟩,
  ⟨5, 163, 0, [⟨151, 2, 88⟩], 0⟩, ⟨5, 163, 0, [⟨16, 5, 88⟩], 0⟩, ⟨1, 0, 0, [⟨143, 1, 98⟩], 0⟩,
  ⟨1, 0, 0, [⟨143, 1, 98⟩], 0⟩, ⟨1, 0, 0, [⟨110, 3, 98⟩], 0⟩, ⟨6, 208, 235, [], 0⟩,
  ⟨5, 100, 492, [], 0⟩, ⟨3, 170, 312, [], 0⟩, ⟨5, 101, 493, [], 0⟩, ⟨5, 162, 0, [⟨122, 3, 99⟩], 0⟩,
  ⟨5, 102, 494, [], 0⟩, ⟨5, 103, 495, [], 0⟩, ⟨5, 104, 496, [], 0⟩, ⟨5, 105, 497, [], 0⟩,
  ⟨5, 106, 498, [], 0⟩, ⟨5, 107, 499, [], 0⟩, ⟨1, 184, 279, [], 0⟩, ⟨5, 108, 500, [], 0⟩,
  ⟨5, 109, 501, [], 0⟩, ⟨5, 110, 502, [], 0⟩, ⟨3, 0, 0, [⟨73, 3, 81⟩], 0⟩,
  ⟨3, 0, 0, [⟨74, 2, 81⟩], 0⟩, ⟨3, 0, 0, [⟨74, 3, 81⟩], 0⟩, ⟨3, 0, 0, [⟨74, 4, 81⟩], 0⟩,
  ⟨5, 0, 0, [⟨9, 1, 11⟩, ⟨47, 1, 100⟩], 0⟩, ⟨6, 209, 236, [], 0⟩, ⟨5, 111, 503, [], 0⟩,
  ⟨5, 112, 504, [], 0⟩, ⟨5, 113, 505, [], 0⟩, ⟨5, 114, 506, [], 0⟩, ⟨5, 115, 507, [], 0⟩,
  ⟨5, 116, 508, [], 0⟩, ⟨5, 117, 509, [], 0⟩, ⟨5, 118, 510, [], 0⟩, ⟨5, 119, 511, [], 0⟩,
  ⟨5, 120, 512, [], 0⟩, ⟨5, 121, 513, [], 0⟩, ⟨5, 122, 514, [], 0⟩, ⟨5, 123, 515, [], 0⟩,
  ⟨5, 124, 516, [], 0⟩, ⟨5, 125, 517, [], 0⟩, ⟨5, 126, 518, [], 0⟩, ⟨5, 127, 519, [], 0⟩,
  ⟨5, 128, 520, [], 0⟩, ⟨1, 210, 280, [⟨125, 1, 101⟩], 0⟩, ⟨5, 129, 0, [], 0⟩,
  ⟨6, 352, 521, [⟨126, 1, 102⟩], 0⟩, ⟨1, 487, 355, [⟨149, 2, 103⟩], 104⟩,
  ⟨6, 0, 0, [⟨128, 3, 105⟩], 0⟩, ⟨6, 0, 0, [⟨128, 3, 105⟩], 0⟩, ⟨1, 216, 237, [], 0⟩,
  ⟨7, 192, 281, [], 0⟩]

def rowsFrom704 : Array Row := #[
  ⟨6, 0, 0, [⟨128, 4, 105⟩], 0⟩, ⟨6, 0, 0, [⟨128, 4, 105⟩], 0⟩, ⟨5, 162, 0, [⟨162, 2, 106⟩], 0⟩,
  ⟨3, 176, 313, [], 0⟩, ⟨5, 162, 0, [⟨66, 4, 107⟩], 0⟩, ⟨5, 162, 0, [⟨76, 1, 84⟩], 0⟩,
  ⟨3, 177, 314, [], 0⟩, ⟨5, 162, 0, [⟨179, 2, 108⟩], 0⟩, ⟨5, 163, 0, [⟨46, 2, 79⟩], 0⟩,
  ⟨5, 162, 0, [⟨66, 5, 107⟩], 0⟩, ⟨5, 162, 0, [⟨163, 2, 84⟩], 0⟩,
  ⟨3, 0, 0, [⟨149, 1, 109⟩, ⟨172, 1, 25⟩], 0⟩, ⟨6, 353, 522, [⟨126, 1, 102⟩], 0⟩,
  ⟨1, 0, 0, [⟨73, 3, 85⟩], 0⟩, ⟨1, 0, 0, [⟨74, 2, 85⟩], 0⟩, ⟨1, 0, 0, [⟨74, 3, 85⟩], 0⟩,
  ⟨1, 0, 0, [⟨74, 4, 85⟩], 0⟩, ⟨6, 0, 0, [⟨131, 1, 110⟩], 0⟩, ⟨6, 0, 0, [⟨132, 1, 110⟩], 0⟩,
  ⟨5, 130, 0, [], 0⟩, ⟨7, 193, 296, [], 0⟩, ⟨1, 206, 254, [], 0⟩, ⟨5, 131, 0, [], 0⟩,
  ⟨5, 132, 0, [], 0⟩, ⟨5, 133, 0, [], 0⟩, ⟨5, 134, 0, [], 0⟩, ⟨6, 0, 0, [⟨129, 2, 110⟩], 0⟩,
  ⟨6, 0, 0, [⟨129, 2, 110⟩], 0⟩, ⟨5, 135, 0, [], 0⟩, ⟨1, 225, 238, [], 0⟩, ⟨1, 225, 239, [], 0⟩,
  ⟨1, 225, 240, [], 0⟩, ⟨5, 136, 0, [], 0⟩, ⟨5, 137, 0, [], 0⟩, ⟨5, 138, 0, [], 0⟩,
  ⟨5, 139, 0, [], 0⟩, ⟨5, 140, 0, [], 0⟩, ⟨5, 141, 0, [], 0⟩, ⟨7, 193, 297, [], 0⟩,
  ⟨5, 142, 0, [], 0⟩, ⟨5, 143, 0, [], 0⟩, ⟨5, 144, 0, [], 0⟩, ⟨5, 145, 0, [], 0⟩,
  ⟨5, 146, 0, [], 0⟩, ⟨5, 162, 0, [⟨46, 2, 83⟩], 0⟩, ⟨5, 147, 0, [], 0⟩, ⟨5, 148, 0, [], 0⟩,
  ⟨5, 149, 0, [], 0⟩, ⟨5, 150, 0, [], 0⟩, ⟨5, 151, 0, [], 0⟩, ⟨5, 152, 0, [], 0⟩,
  ⟨5, 153, 0, [], 0⟩, ⟨5, 154, 0, [], 0⟩, ⟨5, 155, 0, [], 0⟩, ⟨5, 156, 0, [], 0⟩,
  ⟨5, 157, 0, [], 0⟩, ⟨5, 158, 0, [], 0⟩, ⟨5, 159, 0, [], 0⟩, ⟨5, 160, 0, [], 0⟩,
  ⟨5, 161, 0, [], 0⟩, ⟨6, 0, 0, [⟨126, 1, 111⟩], 0⟩, ⟨1, 226, 248, [⟨125, 1, 112⟩], 0⟩,
  ⟨6, 0, 0, [⟨130, 2, 111⟩], 0⟩, ⟨1, 225, 241, [], 0⟩]

def rowsFrom768 : Array Row := #[
  ⟨1, 225, 242, [], 0⟩, ⟨1, 225, 243, [], 0⟩, ⟨1, 225, 244, [], 0⟩, ⟨1, 225, 245, [], 0⟩,
  ⟨1, 225, 246, [], 0⟩, ⟨1, 225, 247, [], 0⟩, ⟨6, 488, 0, [⟨126, 1, 102⟩], 0⟩,
  ⟨1, 227, 255, [⟨125, 1, 112⟩], 0⟩, ⟨1, 217, 254, [], 0⟩, ⟨1, 227, 256, [⟨125, 1, 112⟩], 0⟩,
  ⟨3, 194, 331, [], 0⟩, ⟨1, 227, 257, [⟨125, 1, 112⟩], 0⟩, ⟨1, 227, 258, [⟨125, 1, 112⟩], 0⟩,
  ⟨1, 218, 282, [], 0⟩, ⟨1, 225, 259, [], 0⟩, ⟨1, 225, 260, [], 0⟩, ⟨1, 225, 254, [], 0⟩,
  ⟨1, 219, 283, [], 0⟩, ⟨7, 199, 332, [], 0⟩, ⟨1, 238, 249, [], 0⟩, ⟨1, 225, 261, [], 0⟩,
  ⟨1, 220, 284, [], 0⟩, ⟨1, 228, 259, [], 0⟩, ⟨1, 238, 250, [], 0⟩, ⟨1, 221, 280, [], 0⟩,
  ⟨1, 225, 262, [], 0⟩, ⟨1, 238, 251, [], 0⟩, ⟨1, 222, 285, [], 0⟩, ⟨1, 238, 252, [], 0⟩,
  ⟨1, 238, 253, [], 0⟩, ⟨1, 229, 263, [], 0⟩, ⟨1, 223, 286, [], 0⟩, ⟨1, 224, 287, [], 0⟩,
  ⟨1, 239, 264, [], 0⟩, ⟨1, 227, 298, [⟨125, 1, 112⟩], 0⟩, ⟨1, 239, 265, [], 0⟩,
  ⟨7, 207, 333, [], 0⟩, ⟨1, 240, 266, [], 0⟩, ⟨1, 241, 267, [], 0⟩, ⟨1, 239, 268, [], 0⟩,
  ⟨1, 239, 269, [], 0⟩, ⟨1, 230, 299, [], 0⟩, ⟨1, 211, 334, [], 0⟩, ⟨1, 231, 300, [], 0⟩,
  ⟨1, 232, 301, [], 0⟩, ⟨1, 233, 302, [], 0⟩, ⟨1, 234, 303, [], 0⟩, ⟨1, 235, 304, [], 0⟩,
  ⟨1, 212, 335, [], 0⟩, ⟨1, 213, 336, [], 0⟩, ⟨1, 353, 522, [⟨126, 1, 33⟩], 0⟩,
  ⟨1, 309, 388, [⟨19, 1, 113⟩, ⟨126, 1, 31⟩, ⟨66, 1, 107⟩], 0⟩, ⟨1, 239, 305, [], 0⟩,
  ⟨1, 242, 315, [⟨125, 1, 112⟩], 0⟩, ⟨1, 310, 316, [⟨62, 1, 114⟩], 0⟩,
  ⟨1, 243, 317, [⟨125, 1, 112⟩], 0⟩, ⟨1, 247, 306, [], 0⟩, ⟨6, 347, 337, [⟨127, 2, 115⟩], 0⟩,
  ⟨1, 247, 307, [], 0⟩, ⟨1, 296, 375, [⟨126, 1, 116⟩], 0⟩, ⟨1, 296, 376, [⟨126, 1, 116⟩], 0⟩,
  ⟨1, 244, 318, [], 0⟩, ⟨1, 347, 337, [⟨160, 2, 117⟩], 0⟩, ⟨1, 488, 0, [⟨126, 1, 33⟩], 0⟩]

def rowsFrom832 : Array Row := #[
  ⟨1, 244, 338, [], 0⟩, ⟨1, 248, 319, [], 0⟩, ⟨1, 0, 0, [⟨97, 3, 118⟩], 0⟩,
  ⟨6, 347, 337, [⟨125, 1, 119⟩], 0⟩, ⟨1, 244, 339, [], 0⟩, ⟨1, 244, 340, [], 0⟩,
  ⟨1, 248, 320, [], 0⟩, ⟨1, 248, 321, [], 0⟩, ⟨1, 0, 0, [⟨97, 4, 118⟩], 0⟩, ⟨1, 248, 322, [], 0⟩,
  ⟨1, 249, 317, [], 0⟩, ⟨1, 244, 341, [], 0⟩, ⟨1, 244, 342, [], 0⟩, ⟨1, 244, 343, [], 0⟩,
  ⟨1, 289, 270, [], 0⟩, ⟨1, 290, 271, [], 0⟩, ⟨1, 289, 272, [], 0⟩, ⟨1, 290, 273, [], 0⟩,
  ⟨1, 0, 0, [⟨76, 1, 86⟩, ⟨149, 1, 109⟩], 0⟩, ⟨1, 289, 274, [], 0⟩, ⟨1, 290, 275, [], 0⟩,
  ⟨1, 289, 276, [], 0⟩, ⟨1, 290, 277, [], 0⟩, ⟨1, 297, 323, [⟨127, 2, 101⟩], 0⟩,
  ⟨1, 311, 395, [⟨126, 1, 120⟩], 0⟩, ⟨1, 312, 396, [⟨126, 1, 120⟩], 0⟩, ⟨1, 298, 288, [], 0⟩,
  ⟨1, 347, 344, [⟨123, 1, 121⟩], 0⟩, ⟨1, 313, 324, [⟨123, 1, 122⟩], 0⟩, ⟨1, 298, 289, [], 0⟩,
  ⟨1, 283, 325, [], 0⟩, ⟨1, 250, 356, [], 0⟩, ⟨1, 284, 326, [], 0⟩, ⟨1, 251, 357, [], 0⟩,
  ⟨1, 291, 326, [⟨166, 2, 123⟩], 124⟩, ⟨1, 354, 469, [⟨126, 1, 36⟩], 0⟩, ⟨1, 298, 290, [], 0⟩,
  ⟨1, 298, 291, [], 0⟩, ⟨1, 314, 288, [], 0⟩, ⟨1, 245, 397, [], 0⟩, ⟨1, 314, 289, [], 0⟩,
  ⟨1, 315, 344, [⟨123, 1, 122⟩], 0⟩, ⟨1, 316, 344, [⟨123, 1, 122⟩], 0⟩, ⟨1, 246, 398, [], 0⟩,
  ⟨1, 355, 308, [⟨20, 3, 125⟩], 0⟩, ⟨1, 355, 309, [⟨20, 3, 125⟩], 0⟩,
  ⟨1, 354, 469, [⟨126, 1, 120⟩], 0⟩, ⟨1, 355, 310, [⟨20, 4, 125⟩], 0⟩,
  ⟨1, 355, 311, [⟨20, 4, 125⟩], 0⟩, ⟨1, 314, 290, [], 0⟩, ⟨1, 314, 291, [], 0⟩,
  ⟨1, 317, 344, [⟨123, 1, 84⟩], 0⟩, ⟨1, 347, 345, [⟨134, 2, 126⟩], 0⟩, ⟨1, 254, 377, [], 0⟩,
  ⟨1, 252, 399, [], 0⟩, ⟨1, 297, 323, [], 0⟩, ⟨1, 356, 400, [⟨167, 2, 127⟩], 128⟩,
  ⟨1, 299, 327, [], 0⟩, ⟨1, 300, 328, [], 0⟩, ⟨1, 253, 401, [], 0⟩, ⟨8, 285, 358, [], 0⟩,
  ⟨1, 255, 402, [], 0⟩, ⟨8, 286, 359, [], 0⟩, ⟨1, 318, 337, [⟨125, 1, 112⟩], 0⟩]

def rowsFrom896 : Array Row := #[
  ⟨1, 292, 349, [], 0⟩, ⟨8, 293, 359, [⟨146, 2, 129⟩], 130⟩, ⟨1, 292, 350, [], 0⟩,
  ⟨1, 254, 403, [], 0⟩, ⟨1, 254, 404, [], 0⟩, ⟨1, 489, 523, [⟨62, 2, 114⟩], 0⟩,
  ⟨1, 489, 523, [⟨160, 2, 117⟩], 131⟩, ⟨1, 262, 405, [], 0⟩, ⟨1, 263, 406, [], 0⟩,
  ⟨6, 0, 0, [⟨125, 1, 115⟩], 0⟩, ⟨1, 264, 407, [], 0⟩, ⟨1, 265, 408, [], 0⟩, ⟨1, 266, 409, [], 0⟩,
  ⟨1, 319, 346, [], 0⟩, ⟨1, 267, 410, [], 0⟩, ⟨1, 268, 411, [], 0⟩, ⟨1, 269, 412, [], 0⟩,
  ⟨1, 270, 413, [], 0⟩, ⟨1, 271, 414, [], 0⟩, ⟨1, 272, 415, [], 0⟩, ⟨1, 0, 0, [⟨83, 1, 127⟩], 0⟩,
  ⟨1, 0, 0, [⟨167, 1, 127⟩], 0⟩, ⟨1, 273, 416, [], 0⟩, ⟨1, 274, 417, [], 0⟩, ⟨1, 275, 418, [], 0⟩,
  ⟨1, 256, 524, [], 0⟩, ⟨1, 276, 419, [], 0⟩, ⟨1, 277, 420, [], 0⟩, ⟨1, 278, 421, [], 0⟩,
  ⟨1, 279, 422, [], 0⟩, ⟨1, 301, 360, [], 0⟩, ⟨1, 280, 525, [], 0⟩, ⟨1, 302, 361, [], 0⟩,
  ⟨1, 281, 524, [], 0⟩, ⟨1, 301, 362, [], 0⟩, ⟨1, 302, 363, [], 0⟩, ⟨1, 282, 526, [], 0⟩,
  ⟨1, 357, 351, [], 0⟩, ⟨1, 0, 0, [⟨135, 2, 132⟩], 0⟩, ⟨1, 0, 0, [⟨135, 3, 132⟩], 0⟩,
  ⟨1, 357, 352, [], 0⟩, ⟨1, 0, 0, [⟨135, 4, 132⟩], 0⟩, ⟨1, 320, 364, [], 0⟩,
  ⟨0, 358, 423, [⟨94, 1, 133⟩], 0⟩, ⟨1, 0, 0, [⟨135, 5, 132⟩], 0⟩, ⟨1, 338, 364, [⟨154, 2, 4⟩], 18⟩,
  ⟨0, 358, 424, [⟨94, 2, 133⟩], 0⟩, ⟨1, 0, 0, [⟨135, 6, 132⟩], 0⟩, ⟨9, 303, 425, [], 0⟩,
  ⟨9, 304, 426, [], 0⟩, ⟨8, 0, 0, [⟨6, 1, 129⟩], 0⟩, ⟨1, 359, 355, [], 0⟩, ⟨1, 360, 365, [], 0⟩,
  ⟨1, 361, 366, [], 0⟩, ⟨1, 362, 367, [], 0⟩, ⟨9, 321, 426, [⟨145, 2, 134⟩], 135⟩,
  ⟨1, 363, 366, [], 0⟩, ⟨1, 322, 378, [], 0⟩, ⟨1, 323, 379, [], 0⟩, ⟨1, 364, 355, [], 0⟩,
  ⟨1, 365, 355, [], 0⟩, ⟨1, 322, 380, [], 0⟩, ⟨1, 324, 381, [], 0⟩, ⟨1, 0, 0, [⟨81, 1, 123⟩], 0⟩]

def rowsFrom960 : Array Row := #[
  ⟨1, 322, 382, [], 0⟩, ⟨1, 323, 383, [], 0⟩, ⟨1, 366, 366, [], 0⟩,
  ⟨1, 367, 381, [⟨155, 2, 4⟩], 18⟩, ⟨1, 322, 384, [], 0⟩, ⟨1, 368, 427, [⟨40, 3, 79⟩], 0⟩,
  ⟨1, 0, 0, [⟨82, 3, 123⟩], 0⟩, ⟨1, 0, 0, [⟨84, 3, 123⟩], 0⟩, ⟨1, 0, 0, [⟨85, 3, 123⟩], 0⟩,
  ⟨1, 0, 0, [⟨86, 3, 123⟩], 0⟩, ⟨1, 0, 0, [⟨82, 4, 123⟩], 0⟩, ⟨1, 0, 0, [⟨82, 4, 123⟩], 0⟩,
  ⟨1, 0, 0, [⟨82, 4, 123⟩], 0⟩, ⟨1, 0, 0, [⟨84, 5, 123⟩], 0⟩, ⟨1, 0, 0, [⟨85, 5, 123⟩], 0⟩,
  ⟨1, 0, 0, [⟨87, 5, 123⟩], 0⟩, ⟨1, 0, 0, [⟨84, 6, 123⟩], 0⟩, ⟨1, 0, 0, [⟨85, 6, 123⟩], 0⟩,
  ⟨1, 0, 0, [⟨87, 6, 123⟩], 0⟩, ⟨8, 0, 0, [⟨7, 3, 129⟩], 0⟩, ⟨1, 369, 368, [], 0⟩,
  ⟨1, 370, 369, [], 0⟩, ⟨1, 490, 366, [⟨149, 2, 47⟩], 104⟩, ⟨1, 371, 355, [], 0⟩,
  ⟨1, 372, 355, [], 0⟩, ⟨1, 373, 366, [], 0⟩, ⟨1, 374, 366, [], 0⟩, ⟨1, 337, 385, [], 0⟩,
  ⟨6, 375, 527, [⟨33, 1, 136⟩], 0⟩, ⟨0, 309, 428, [], 0⟩, ⟨0, 325, 429, [], 0⟩,
  ⟨0, 0, 0, [⟨19, 1, 113⟩, ⟨66, 1, 107⟩], 0⟩, ⟨0, 480, 466, [⟨19, 1, 113⟩], 0⟩,
  ⟨0, 0, 0, [⟨123, 2, 121⟩], 0⟩, ⟨6, 375, 528, [⟨33, 2, 136⟩], 0⟩, ⟨0, 309, 430, [], 0⟩,
  ⟨0, 325, 431, [], 0⟩, ⟨0, 309, 432, [], 0⟩, ⟨0, 325, 433, [], 0⟩, ⟨0, 326, 434, [], 0⟩,
  ⟨0, 309, 435, [], 0⟩, ⟨0, 325, 436, [], 0⟩, ⟨0, 309, 437, [], 0⟩, ⟨0, 325, 438, [], 0⟩,
  ⟨0, 484, 529, [⟨94, 2, 133⟩], 0⟩, ⟨0, 327, 439, [], 0⟩, ⟨1, 491, 530, [⟨151, 2, 87⟩], 137⟩,
  ⟨0, 309, 440, [], 0⟩, ⟨0, 325, 441, [], 0⟩, ⟨1, 492, 531, [⟨175, 2, 138⟩], 137⟩,
  ⟨0, 484, 532, [⟨94, 3, 133⟩], 0⟩, ⟨1, 493, 533, [⟨151, 2, 88⟩], 137⟩,
  ⟨1, 376, 442, [⟨40, 3, 83⟩], 0⟩, ⟨0, 377, 443, [], 0⟩, ⟨0, 328, 534, [], 0⟩,
  ⟨6, 494, 535, [⟨98, 1, 136⟩], 0⟩, ⟨1, 378, 444, [], 0⟩, ⟨0, 379, 445, [], 0⟩,
  ⟨1, 329, 536, [], 0⟩, ⟨0, 495, 0, [⟨122, 1, 99⟩], 0⟩, ⟨1, 496, 537, [⟨133, 2, 139⟩], 0⟩,
  ⟨6, 494, 538, [⟨98, 2, 136⟩], 0⟩, ⟨1, 380, 446, [], 0⟩, ⟨1, 381, 447, [], 0⟩]

def rowsFrom1024 : Array Row := #[
  ⟨1, 382, 448, [], 0⟩, ⟨1, 378, 449, [], 0⟩, ⟨0, 379, 450, [], 0⟩,
  ⟨1, 496, 539, [⟨133, 3, 139⟩], 0⟩, ⟨9, 0, 0, [⟨7, 3, 134⟩], 0⟩, ⟨6, 497, 540, [⟨99, 2, 136⟩], 0⟩,
  ⟨1, 383, 451, [], 0⟩, ⟨1, 492, 541, [⟨102, 1, 140⟩], 0⟩, ⟨1, 380, 452, [], 0⟩,
  ⟨1, 380, 453, [], 0⟩, ⟨0, 384, 0, [⟨122, 1, 106⟩], 0⟩, ⟨1, 381, 454, [], 0⟩, ⟨1, 382, 455, [], 0⟩,
  ⟨1, 380, 456, [], 0⟩, ⟨1, 381, 457, [], 0⟩, ⟨1, 382, 458, [], 0⟩,
  ⟨1, 496, 542, [⟨133, 4, 139⟩], 0⟩, ⟨0, 492, 543, [⟨139, 2, 139⟩], 0⟩,
  ⟨6, 497, 544, [⟨99, 3, 136⟩], 0⟩, ⟨1, 383, 459, [], 0⟩, ⟨1, 492, 531, [⟨102, 2, 140⟩], 0⟩,
  ⟨1, 380, 460, [], 0⟩, ⟨1, 498, 545, [⟨40, 2, 79⟩], 0⟩, ⟨0, 385, 0, [⟨122, 1, 106⟩], 0⟩,
  ⟨0, 0, 0, [⟨77, 2, 86⟩], 0⟩, ⟨1, 380, 461, [], 0⟩, ⟨1, 380, 462, [], 0⟩, ⟨1, 381, 463, [], 0⟩,
  ⟨1, 382, 464, [], 0⟩, ⟨0, 492, 531, [⟨139, 3, 139⟩], 0⟩, ⟨6, 497, 544, [⟨174, 2, 141⟩], 142⟩,
  ⟨0, 330, 489, [], 0⟩, ⟨1, 0, 0, [⟨175, 2, 138⟩], 0⟩, ⟨0, 0, 0, [⟨77, 3, 86⟩], 0⟩,
  ⟨0, 499, 546, [⟨170, 2, 133⟩], 137⟩, ⟨1, 380, 465, [], 0⟩, ⟨0, 0, 0, [⟨77, 4, 86⟩], 0⟩,
  ⟨0, 331, 547, [], 0⟩, ⟨0, 332, 548, [], 0⟩, ⟨0, 333, 549, [], 0⟩, ⟨0, 0, 0, [⟨77, 5, 86⟩], 0⟩,
  ⟨0, 334, 550, [], 0⟩, ⟨0, 386, 0, [⟨122, 1, 106⟩], 0⟩, ⟨0, 387, 0, [⟨122, 1, 106⟩], 0⟩,
  ⟨0, 388, 0, [⟨122, 1, 106⟩], 0⟩, ⟨0, 389, 0, [⟨122, 1, 106⟩], 0⟩, ⟨0, 390, 551, [], 0⟩,
  ⟨0, 391, 552, [], 0⟩, ⟨6, 392, 553, [], 0⟩, ⟨0, 393, 554, [], 0⟩, ⟨0, 394, 555, [], 0⟩,
  ⟨0, 500, 556, [⟨121, 1, 143⟩], 0⟩, ⟨0, 395, 557, [], 0⟩, ⟨0, 396, 558, [], 0⟩,
  ⟨1, 397, 559, [], 0⟩, ⟨0, 398, 560, [], 0⟩, ⟨6, 399, 561, [], 0⟩, ⟨6, 400, 562, [], 0⟩,
  ⟨0, 401, 563, [], 0⟩, ⟨0, 306, 0, [], 0⟩, ⟨0, 402, 564, [], 0⟩, ⟨0, 393, 565, [], 0⟩,
  ⟨1, 403, 566, [], 0⟩, ⟨0, 500, 567, [⟨121, 2, 143⟩], 0⟩]

def rowsFrom1088 : Array Row := #[
  ⟨0, 501, 557, [⟨148, 2, 84⟩], 137⟩, ⟨0, 502, 558, [⟨147, 2, 144⟩], 142⟩,
  ⟨1, 503, 559, [⟨181, 2, 145⟩], 146⟩, ⟨0, 504, 560, [⟨180, 2, 84⟩], 137⟩, ⟨0, 404, 568, [], 0⟩,
  ⟨1, 405, 559, [], 0⟩, ⟨6, 505, 561, [⟨173, 2, 136⟩], 137⟩, ⟨6, 406, 569, [], 0⟩,
  ⟨0, 401, 570, [], 0⟩, ⟨0, 401, 571, [], 0⟩, ⟨1, 0, 0, [⟨100, 2, 147⟩], 0⟩, ⟨0, 407, 572, [], 0⟩,
  ⟨0, 408, 573, [], 0⟩, ⟨0, 409, 574, [], 0⟩, ⟨1, 403, 575, [], 0⟩, ⟨0, 410, 576, [], 0⟩,
  ⟨0, 411, 530, [], 0⟩, ⟨0, 401, 577, [], 0⟩, ⟨1, 0, 0, [⟨134, 3, 126⟩], 0⟩,
  ⟨0, 500, 567, [⟨178, 2, 106⟩], 137⟩, ⟨0, 0, 0, [⟨122, 3, 99⟩], 0⟩, ⟨0, 393, 578, [], 0⟩,
  ⟨0, 412, 560, [], 0⟩, ⟨6, 506, 569, [⟨152, 2, 136⟩], 137⟩, ⟨0, 413, 494, [], 0⟩,
  ⟨0, 401, 579, [], 0⟩, ⟨1, 0, 0, [⟨41, 1, 78⟩], 0⟩, ⟨0, 507, 572, [⟨161, 2, 107⟩], 143⟩,
  ⟨0, 508, 573, [⟨162, 2, 106⟩], 137⟩, ⟨0, 414, 580, [], 0⟩, ⟨0, 415, 581, [], 0⟩,
  ⟨1, 335, 0, [], 0⟩, ⟨1, 336, 0, [], 0⟩, ⟨0, 0, 0, [⟨94, 2, 133⟩], 0⟩, ⟨0, 416, 582, [], 0⟩,
  ⟨0, 401, 583, [], 0⟩, ⟨6, 0, 0, [⟨174, 2, 141⟩], 0⟩, ⟨0, 417, 584, [], 0⟩,
  ⟨1, 0, 0, [⟨42, 2, 78⟩], 0⟩, ⟨1, 0, 0, [⟨39, 3, 4⟩], 0⟩, ⟨0, 418, 585, [], 0⟩,
  ⟨0, 419, 585, [], 0⟩, ⟨0, 420, 586, [], 0⟩, ⟨0, 509, 581, [⟨164, 2, 84⟩], 137⟩,
  ⟨0, 0, 0, [⟨94, 3, 133⟩], 0⟩, ⟨0, 0, 0, [⟨170, 2, 133⟩], 0⟩, ⟨0, 0, 0, [⟨94, 3, 133⟩], 0⟩,
  ⟨0, 421, 587, [], 0⟩, ⟨0, 510, 584, [⟨179, 2, 108⟩], 137⟩, ⟨0, 511, 585, [⟨163, 2, 84⟩], 137⟩,
  ⟨0, 422, 585, [], 0⟩, ⟨0, 423, 585, [], 0⟩, ⟨0, 424, 585, [], 0⟩,
  ⟨0, 512, 586, [⟨165, 2, 108⟩], 137⟩, ⟨0, 0, 0, [⟨94, 4, 133⟩], 0⟩,
  ⟨0, 513, 587, [⟨158, 2, 84⟩], 137⟩, ⟨0, 425, 588, [], 0⟩, ⟨0, 426, 585, [], 0⟩,
  ⟨0, 427, 585, [], 0⟩, ⟨0, 428, 589, [], 0⟩, ⟨0, 429, 589, [], 0⟩, ⟨0, 430, 590, [], 0⟩,
  ⟨1, 431, 591, [], 0⟩, ⟨0, 432, 585, [], 0⟩]

def rowsFrom1152 : Array Row := #[
  ⟨0, 514, 0, [⟨168, 2, 106⟩], 0⟩, ⟨0, 515, 589, [⟨168, 2, 106⟩], 137⟩,
  ⟨0, 514, 0, [⟨169, 2, 106⟩], 0⟩, ⟨0, 516, 590, [⟨169, 2, 106⟩], 137⟩, ⟨1, 433, 592, [], 0⟩,
  ⟨6, 434, 593, [], 0⟩, ⟨6, 435, 569, [], 0⟩, ⟨0, 436, 594, [], 0⟩, ⟨1, 517, 545, [⟨40, 2, 83⟩], 0⟩,
  ⟨0, 437, 581, [], 0⟩, ⟨0, 438, 595, [], 0⟩, ⟨0, 439, 581, [], 0⟩, ⟨0, 440, 558, [], 0⟩,
  ⟨0, 441, 585, [], 0⟩, ⟨0, 442, 585, [], 0⟩, ⟨0, 443, 585, [], 0⟩, ⟨0, 444, 585, [], 0⟩,
  ⟨0, 445, 585, [], 0⟩, ⟨0, 446, 585, [], 0⟩, ⟨0, 447, 585, [], 0⟩, ⟨0, 448, 585, [], 0⟩,
  ⟨0, 449, 585, [], 0⟩, ⟨0, 450, 585, [], 0⟩, ⟨0, 451, 585, [], 0⟩, ⟨0, 452, 585, [], 0⟩,
  ⟨0, 453, 585, [], 0⟩, ⟨0, 454, 585, [], 0⟩, ⟨0, 455, 585, [], 0⟩, ⟨0, 456, 585, [], 0⟩,
  ⟨0, 457, 573, [], 0⟩, ⟨0, 458, 573, [], 0⟩, ⟨0, 485, 596, [], 0⟩, ⟨0, 485, 597, [], 0⟩,
  ⟨1, 459, 0, [], 0⟩, ⟨1, 460, 0, [], 0⟩, ⟨0, 485, 598, [], 0⟩, ⟨0, 461, 0, [], 0⟩,
  ⟨0, 462, 0, [], 0⟩, ⟨0, 518, 599, [], 0⟩, ⟨0, 486, 600, [], 0⟩, ⟨0, 519, 601, [], 0⟩,
  ⟨0, 463, 0, [], 0⟩, ⟨0, 464, 0, [], 0⟩, ⟨0, 520, 602, [], 0⟩, ⟨0, 0, 0, [⟨137, 2, 84⟩], 0⟩,
  ⟨0, 0, 0, [⟨136, 2, 84⟩], 0⟩, ⟨6, 0, 0, [⟨98, 2, 136⟩], 0⟩, ⟨0, 521, 603, [], 0⟩,
  ⟨0, 521, 604, [], 0⟩, ⟨0, 480, 563, [], 0⟩, ⟨0, 484, 605, [], 0⟩, ⟨0, 485, 606, [], 0⟩,
  ⟨0, 486, 607, [], 0⟩, ⟨0, 465, 0, [], 0⟩, ⟨0, 522, 608, [], 0⟩, ⟨0, 523, 609, [], 0⟩,
  ⟨0, 524, 610, [], 0⟩, ⟨1, 466, 0, [], 0⟩, ⟨0, 525, 469, [], 0⟩, ⟨0, 520, 611, [], 0⟩,
  ⟨0, 523, 612, [], 0⟩, ⟨0, 0, 0, [⟨133, 3, 139⟩], 0⟩, ⟨0, 467, 0, [], 0⟩,
  ⟨0, 0, 0, [⟨148, 2, 84⟩], 0⟩]

def rowsFrom1216 : Array Row := #[
  ⟨0, 0, 0, [⟨136, 3, 84⟩], 0⟩, ⟨0, 0, 0, [⟨147, 2, 144⟩], 0⟩, ⟨0, 0, 0, [⟨138, 3, 84⟩], 0⟩,
  ⟨1, 0, 0, [⟨181, 2, 145⟩], 0⟩, ⟨0, 0, 0, [⟨137, 3, 84⟩], 0⟩, ⟨0, 0, 0, [⟨180, 2, 84⟩], 0⟩,
  ⟨6, 0, 0, [⟨173, 2, 136⟩], 0⟩, ⟨6, 0, 0, [⟨98, 3, 136⟩], 0⟩, ⟨6, 0, 0, [⟨33, 2, 136⟩], 0⟩,
  ⟨0, 480, 570, [], 0⟩, ⟨0, 521, 613, [], 0⟩, ⟨0, 521, 614, [], 0⟩, ⟨0, 480, 571, [], 0⟩,
  ⟨1, 0, 0, [⟨101, 2, 140⟩], 0⟩, ⟨0, 484, 615, [], 0⟩, ⟨0, 484, 616, [], 0⟩, ⟨0, 484, 617, [], 0⟩,
  ⟨0, 0, 0, [⟨40, 1, 79⟩], 0⟩, ⟨0, 468, 0, [], 0⟩, ⟨0, 484, 618, [], 0⟩,
  ⟨1, 0, 0, [⟨118, 2, 140⟩], 0⟩, ⟨0, 524, 619, [], 0⟩, ⟨0, 524, 620, [], 0⟩, ⟨0, 480, 621, [], 0⟩,
  ⟨0, 480, 577, [], 0⟩, ⟨0, 484, 622, [], 0⟩, ⟨0, 522, 623, [], 0⟩, ⟨0, 523, 624, [], 0⟩,
  ⟨0, 524, 625, [], 0⟩, ⟨0, 0, 0, [⟨133, 4, 139⟩], 0⟩, ⟨0, 0, 0, [⟨178, 2, 106⟩], 0⟩,
  ⟨0, 0, 0, [⟨138, 4, 84⟩], 0⟩, ⟨0, 0, 0, [⟨137, 4, 84⟩], 0⟩, ⟨6, 0, 0, [⟨34, 2, 136⟩], 0⟩,
  ⟨6, 0, 0, [⟨152, 2, 136⟩], 0⟩, ⟨6, 0, 0, [⟨33, 3, 136⟩], 0⟩, ⟨0, 480, 579, [], 0⟩,
  ⟨1, 0, 0, [⟨107, 2, 148⟩], 0⟩, ⟨0, 526, 626, [], 0⟩, ⟨0, 484, 627, [], 0⟩, ⟨0, 484, 628, [], 0⟩,
  ⟨0, 484, 629, [], 0⟩, ⟨0, 0, 0, [⟨161, 2, 107⟩], 0⟩, ⟨0, 469, 0, [], 0⟩, ⟨0, 470, 0, [], 0⟩,
  ⟨1, 471, 0, [], 0⟩, ⟨0, 484, 630, [], 0⟩, ⟨0, 524, 631, [], 0⟩, ⟨0, 0, 0, [⟨45, 1, 84⟩], 0⟩,
  ⟨0, 480, 583, [], 0⟩, ⟨0, 484, 632, [], 0⟩, ⟨0, 484, 633, [], 0⟩, ⟨0, 484, 634, [], 0⟩,
  ⟨0, 484, 635, [], 0⟩, ⟨0, 524, 636, [], 0⟩, ⟨0, 524, 637, [], 0⟩, ⟨0, 0, 0, [⟨133, 5, 139⟩], 0⟩,
  ⟨0, 0, 0, [⟨138, 5, 84⟩], 0⟩, ⟨0, 526, 638, [], 0⟩, ⟨1, 0, 0, [⟨107, 3, 148⟩], 0⟩,
  ⟨1, 472, 0, [], 0⟩, ⟨0, 484, 639, [], 0⟩, ⟨0, 0, 0, [⟨40, 3, 79⟩], 0⟩, ⟨0, 519, 640, [], 0⟩]

def rowsFrom1280 : Array Row := #[
  ⟨0, 0, 0, [⟨75, 3, 84⟩], 0⟩, ⟨0, 0, 0, [⟨164, 2, 84⟩], 0⟩, ⟨0, 473, 0, [], 0⟩, ⟨0, 474, 0, [], 0⟩,
  ⟨0, 475, 0, [], 0⟩, ⟨0, 480, 641, [], 0⟩, ⟨0, 0, 0, [⟨45, 2, 84⟩], 0⟩, ⟨0, 484, 642, [], 0⟩,
  ⟨0, 484, 643, [], 0⟩, ⟨0, 484, 644, [], 0⟩, ⟨0, 484, 645, [], 0⟩, ⟨0, 524, 646, [], 0⟩,
  ⟨0, 0, 0, [⟨179, 2, 108⟩], 0⟩, ⟨0, 480, 647, [], 0⟩, ⟨0, 0, 0, [⟨40, 4, 79⟩], 0⟩,
  ⟨0, 0, 0, [⟨165, 2, 108⟩], 0⟩, ⟨0, 0, 0, [⟨158, 2, 84⟩], 0⟩, ⟨0, 484, 648, [], 0⟩,
  ⟨0, 480, 649, [], 0⟩, ⟨0, 476, 0, [], 0⟩, ⟨0, 485, 650, [], 0⟩, ⟨0, 485, 651, [], 0⟩,
  ⟨0, 485, 652, [], 0⟩, ⟨0, 485, 653, [], 0⟩, ⟨1, 527, 0, [⟨67, 3, 149⟩], 0⟩, ⟨1, 528, 0, [], 0⟩,
  ⟨0, 529, 0, [], 0⟩, ⟨1, 530, 0, [], 0⟩, ⟨1, 531, 0, [], 0⟩, ⟨1, 532, 0, [], 0⟩, ⟨0, 0, 0, [], 0⟩,
  ⟨0, 533, 0, [], 0⟩, ⟨0, 534, 0, [], 0⟩, ⟨1, 535, 0, [], 0⟩, ⟨0, 536, 0, [], 0⟩,
  ⟨0, 537, 0, [], 0⟩, ⟨1, 538, 0, [], 0⟩, ⟨1, 539, 0, [], 0⟩, ⟨1, 540, 0, [], 0⟩,
  ⟨1, 541, 0, [], 0⟩, ⟨1, 542, 0, [], 0⟩, ⟨0, 543, 0, [], 0⟩, ⟨1, 544, 0, [], 0⟩,
  ⟨0, 545, 0, [], 0⟩, ⟨1, 546, 0, [], 0⟩, ⟨0, 0, 0, [⟨15, 3, 150⟩], 0⟩, ⟨0, 547, 0, [], 0⟩,
  ⟨1, 548, 0, [], 0⟩, ⟨0, 549, 0, [], 0⟩, ⟨0, 550, 0, [], 0⟩, ⟨0, 551, 0, [], 0⟩,
  ⟨0, 0, 0, [⟨15, 4, 150⟩], 0⟩, ⟨0, 552, 0, [], 0⟩, ⟨1, 482, 0, [], 0⟩,
  ⟨0, 0, 0, [⟨103, 2, 151⟩], 0⟩, ⟨0, 553, 0, [], 0⟩, ⟨0, 0, 0, [⟨65, 3, 151⟩], 0⟩,
  ⟨0, 554, 0, [], 0⟩, ⟨0, 555, 0, [], 0⟩, ⟨0, 0, 0, [⟨90, 1, 143⟩], 0⟩, ⟨0, 556, 0, [], 0⟩,
  ⟨0, 557, 0, [], 0⟩, ⟨1, 558, 0, [], 0⟩, ⟨0, 559, 0, [], 0⟩]

def rowsFrom1344 : Array Row := #[
  ⟨0, 560, 0, [], 0⟩, ⟨0, 561, 0, [], 0⟩, ⟨0, 562, 0, [], 0⟩, ⟨0, 0, 0, [⟨65, 4, 151⟩], 0⟩,
  ⟨0, 563, 0, [], 0⟩, ⟨0, 564, 0, [], 0⟩, ⟨0, 565, 0, [], 0⟩, ⟨0, 566, 0, [], 0⟩,
  ⟨0, 567, 0, [], 0⟩, ⟨0, 568, 0, [], 0⟩, ⟨0, 569, 0, [], 0⟩, ⟨0, 0, 0, [⟨65, 5, 151⟩], 0⟩,
  ⟨0, 0, 0, [⟨61, 2, 152⟩], 0⟩, ⟨0, 570, 0, [], 0⟩, ⟨0, 571, 0, [], 0⟩, ⟨0, 572, 0, [], 0⟩,
  ⟨0, 573, 0, [], 0⟩, ⟨0, 574, 0, [], 0⟩, ⟨0, 0, 0, [⟨61, 3, 152⟩], 0⟩, ⟨0, 575, 0, [], 0⟩,
  ⟨0, 576, 0, [], 0⟩, ⟨0, 577, 0, [], 0⟩, ⟨0, 578, 0, [], 0⟩, ⟨0, 579, 0, [], 0⟩,
  ⟨0, 580, 0, [], 0⟩, ⟨0, 0, 0, [⟨116, 2, 143⟩], 0⟩, ⟨0, 581, 0, [], 0⟩, ⟨0, 582, 0, [], 0⟩,
  ⟨0, 583, 0, [], 0⟩, ⟨0, 584, 0, [], 0⟩, ⟨0, 585, 0, [], 0⟩, ⟨0, 586, 0, [], 0⟩,
  ⟨1, 587, 0, [], 0⟩, ⟨0, 588, 0, [], 0⟩, ⟨0, 589, 0, [], 0⟩, ⟨0, 590, 0, [], 0⟩,
  ⟨0, 591, 0, [], 0⟩, ⟨1, 592, 0, [], 0⟩, ⟨0, 593, 0, [], 0⟩, ⟨0, 594, 0, [], 0⟩, ⟨0, 595, 0, [], 0⟩]

/-- The states. -/
def rows : Chunks Row :=
  ⟨#[
    rowsFrom0, rowsFrom64, rowsFrom128, rowsFrom192, rowsFrom256, rowsFrom320, rowsFrom384,
    rowsFrom448, rowsFrom512, rowsFrom576, rowsFrom640, rowsFrom704, rowsFrom768, rowsFrom832,
    rowsFrom896, rowsFrom960, rowsFrom1024, rowsFrom1088, rowsFrom1152, rowsFrom1216, rowsFrom1280,
    rowsFrom1344]⟩

end Testsmith.Java
