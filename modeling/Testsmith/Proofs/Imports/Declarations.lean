/-
# The declarations of generated code

What telling headers and body apart does to what the code declares by the grammar of Java. It goes
by lines: a declaration on lines none of which reads as a header stays in the body as it is, up to
the ends of lines; a header alone on a line that reads as one is gone, and if it imports something
this is declared; and no header of the body stands alone on a line that reads as one
(`splitGenerated_separates`). Where a declaration stands is known from the declarations around it,
for these spell the code. A header that is spelled otherwise stays (`not_separates_tab`).

Key definitions: `SeparatesHeaders`.
Key theorems: `splitGenerated_separates`.
-/
import Testsmith.Java.Mentions
import Testsmith.Proofs.Imports.Separation
import Testsmith.Proofs.Java.Source

namespace Testsmith

open Text Java

/-- How a text is told apart into imports and body. -/
structure SeparatesHeaders (text : String) (declared : StringSet) (body : String) : Prop where
  /-- What lies on no line that reads as a header is in the body, with its inner line ends as line
  feeds. -/
  kept : ∀ n before after, StandsAt text n before after →
    (∀ line ∈ linesOn before n.text.toList after, ¬ReadsAsHeader (trimList line)) →
      lineFeeds (trimList n.text.toList) <:+: body.toList
  /-- A header alone on a line that reads as one is as if its line were not there. -/
  dropped : ∀ n before after, StandsAt text n before after →
    Alone before n.text.toList after → ReadsAsHeader n.text.toList →
      body.toList = bodyList (linesAbove before ++ linesBelow after)
  /-- What is imported on such a line is declared. -/
  declared : ∀ n before after target, StandsAt text n before after →
    Alone before n.text.toList after → n.text.toList = importLine target →
      String.ofList (normalizeBlanks target) ∈ declared
  /-- No header of the body stands alone on a line that reads as one. -/
  headers : ∀ n before after, StandsAt body n before after →
    Alone before n.text.toList after → ¬ReadsAsHeader n.text.toList

/-- **Headers are told apart by their lines.** -/
theorem splitGenerated_separates (text : String) :
    SeparatesHeaders text (splitGenerated text).1 (splitGenerated text).2 where
  kept := by
    intro n before after hn h
    rw [splitGenerated, String.toList_ofList, hn.place]
    exact lineFeeds_infix_bodyList h
  dropped := by
    intro n before after hn halone hreads
    rw [splitGenerated, String.toList_ofList, hn.place]
    exact bodyList_alone halone hreads
  declared := by
    intro n before after target hn halone htarget
    rw [htarget] at halone
    rw [splitGenerated, StringSet.mem_ofList, hn.place, htarget]
    exact List.mem_map_of_mem (mem_declaredTargets_alone halone)
  headers := by
    intro n before after hn halone
    have hbody : bodyList text.toList = before ++ n.text.toList ++ after := by
      rw [← hn.place, splitGenerated, String.toList_ofList]
    exact not_readsAsHeader_of_alone hbody halone

/-- A tab after the word: code that parses, and its body still has the header. -/
theorem not_separates_tab :
    (parse "import\ta.B;\nclass C \x7b\x7d").broken = false ∧
      (parse (splitGenerated "import\ta.B;\nclass C \x7b\x7d").2).root.children.any Node.isHeader =
        true := by
  decide +kernel

end Testsmith
