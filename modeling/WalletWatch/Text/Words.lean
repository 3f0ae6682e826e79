import WalletWatch.Text.Blank
import WalletWatch.Text.Cut
/-!
# Words and trimming

The words of a text are the pieces between its blanks that are not empty; a blank between two texts
separates their words (`wordsOf_append_cons`). Trimming drops the blanks at both ends of a text and
keeps those inside (`trim_eq_iff`), and nothing is left of a text of blanks (`isBlankText_iff`).
-/

namespace WalletWatch.Text

/-! ## Words -/

/-- The words of a list of characters, in order. -/
def wordsOf (cs : List Char) : List (List Char) :=
  (pieces isBlank cs).filter (! ·.isEmpty)

def words (s : String) : List String :=
  (wordsOf s.toList).map String.ofList

theorem wordsOf_append_cons (before : List Char) {c : Char} (hc : isBlank c = true)
    (after : List Char) : wordsOf (before ++ c :: after) = wordsOf before ++ wordsOf after := by
  simp only [wordsOf, pieces_append_cons before hc, List.filter_append]

/-! ## Trimming -/

/-- A text without the blanks at both ends. -/
def trim (s : String) : String :=
  String.ofList (dropEnds isBlank s.toList)

/-- Whether nothing but white space is in a text. -/
def isBlankText (s : String) : Bool :=
  (trim s).isEmpty

theorem trim_eq_iff {s t : String} : trim s = t ↔
    ∃ before after, s.toList = before ++ t.toList ++ after ∧ (∀ c ∈ before, isBlank c = true) ∧
      (∀ c ∈ after, isBlank c = true) ∧ (∀ c ∈ t.toList.head?, isBlank c = false) ∧
      ∀ c ∈ t.toList.getLast?, isBlank c = false := by
  rw [trim, ← String.toList_inj, String.toList_ofList, dropEnds_eq_iff]

theorem isBlankText_iff {s : String} :
    isBlankText s = true ↔ ∀ c ∈ s.toList, isBlank c = true := by
  rw [isBlankText, String.isEmpty_iff, trim_eq_iff]
  constructor
  · rintro ⟨before, after, own, ahead, behind, -⟩ c member
    rw [own, String.toList_empty, List.append_nil, List.mem_append] at member
    exact member.elim (ahead c) (behind c)
  · intro blank
    exact ⟨s.toList, [], by simp, blank, by simp, by simp, by simp⟩

end WalletWatch.Text
