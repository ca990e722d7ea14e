/-
# Keywords of the test frameworks

Pieces of text that show that a test uses something of a framework, and what it has to import then.
A keyword counts where it is not part of a longer identifier.

Key definitions: `keywordImports`, `isIdentifierChar`, `containsKeyword`.
-/
import Testsmith.Text.Alphanumeric
import Testsmith.Text.Lines

namespace Testsmith

/-- Keywords, and what each takes to import. -/
def keywordImports : List (String × String) :=
  [("@BeforeEach", "org.junit.jupiter.api.BeforeEach"),
   ("@AfterEach", "org.junit.jupiter.api.AfterEach"),
   ("@BeforeAll", "org.junit.jupiter.api.BeforeAll"),
   ("@AfterAll", "org.junit.jupiter.api.AfterAll"),
   ("@DisplayName", "org.junit.jupiter.api.DisplayName"),
   ("@Nested", "org.junit.jupiter.api.Nested"),
   ("@ParameterizedTest", "org.junit.jupiter.params.ParameterizedTest"),
   ("@ValueSource", "org.junit.jupiter.params.provider.ValueSource"),
   ("@CsvSource", "org.junit.jupiter.params.provider.CsvSource"),
   ("@ExtendWith", "org.junit.jupiter.api.extension.ExtendWith"),
   ("MockitoExtension", "org.mockito.junit.jupiter.MockitoExtension"),
   ("@Mock", "org.mockito.Mock"),
   ("@InjectMocks", "org.mockito.InjectMocks"),
   ("@Spy", "org.mockito.Spy"),
   ("@Captor", "org.mockito.Captor"),
   ("ArgumentCaptor", "org.mockito.ArgumentCaptor"),
   ("Mockito.", "org.mockito.Mockito"),
   ("when(", "static org.mockito.Mockito.when"),
   ("verify(", "static org.mockito.Mockito.verify"),
   ("mock(", "static org.mockito.Mockito.mock"),
   ("any(", "static org.mockito.ArgumentMatchers.any"),
   ("anyInt(", "static org.mockito.ArgumentMatchers.anyInt"),
   ("anyLong(", "static org.mockito.ArgumentMatchers.anyLong"),
   ("anyString(", "static org.mockito.ArgumentMatchers.anyString"),
   ("eq(", "static org.mockito.ArgumentMatchers.eq")]

/-- A character that an identifier may hold. -/
def isIdentifierChar (c : Char) : Bool := Text.isAlphanumeric c || c == '_' || c == '$'

/-- The next character does not go on with the identifier at the end of the keyword. -/
def endsClear (keyword rest : List Char) : Bool :=
  !keyword.getLast?.any isIdentifierChar || !rest.head?.any isIdentifierChar

/-- The character before does not begin the identifier at the start of the keyword. -/
def startsClear (keyword : List Char) (before : Option Char) : Bool :=
  !keyword.head?.any isIdentifierChar || !before.any isIdentifierChar

/-- The keyword occurs in the text, clear on both sides. `before` is the character before the text.
Occurrences are looked for from left to right, and the next one begins after the last has ended:
`skip` characters of the text still belong to it. -/
def occursClear (keyword : List Char) : (skip : Nat) → (before : Option Char) → List Char → Bool
  | _, _, [] => false
  | skip + 1, _, c :: cs => occursClear keyword skip (some c) cs
  | 0, before, c :: cs =>
    match Text.afterStart? keyword (c :: cs) with
    | some rest =>
      (startsClear keyword before && endsClear keyword rest) ||
        occursClear keyword (keyword.length - 1) (some c) cs
    | none => occursClear keyword 0 (some c) cs

/-- The keyword occurs in the text, not glued to a longer identifier. -/
def containsKeyword (text keyword : String) : Bool := occursClear keyword.toList 0 none text.toList

end Testsmith
