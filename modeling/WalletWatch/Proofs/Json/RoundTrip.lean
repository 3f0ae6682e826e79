import WalletWatch.Proofs.Json.Documents
import WalletWatch.Proofs.Json.Spelling
/-!
# Documents are read as they are written

The layout with lines and indentation is one of the texts that the grammar allows for a document
(`written_pretty`). So a document that is laid out is read back as it was, whatever strings and
numerals it holds (`read?_pretty`).
-/

namespace WalletWatch.Json

variable {gap : List Char}

/-- What stands on a line of its own, with white space behind it. -/
theorem padded_newLine {P : List Char → Prop} {cs : List Char} (level : Nat) (h : P cs)
    (blank : Gap gap) : Padded P (newLine level ++ cs ++ gap) :=
  ⟨newLine level, cs, gap, List.append_assoc .., gap_newLine level, h, blank⟩

theorem padded_blank {P : List Char → Prop} {cs : List Char} (h : P cs) (blank : Gap gap) :
    Padded P (' ' :: (cs ++ gap)) :=
  ⟨[' '], cs, gap, rfl, Gap.nil.cons rfl, h, blank⟩

theorem literal_newLine (level : Nat) (key : Option String) :
    Padded (Literal key) (newLine level ++ quote key) := by
  have padded := padded_newLine level (literal_quote key) Gap.nil
  rwa [List.append_nil] at padded

mutual

theorem written_pretty (level : Nat) : (v : Json) → Written v (prettyChars level v)
  | .null => rfl
  | .bool true => rfl
  | .bool false => rfl
  | .number value => numeralText_spell value
  | .string text => literal_quote text
  | .array [] => ⟨[], rfl, Gap.nil⟩
  | .array (item :: items) =>
    ⟨prettyItems (level + 1) (item :: items) ++ newLine level, rfl,
      writtenItems_pretty (gap_newLine level) (level + 1) (item :: items)⟩
  | .object [] => ⟨[], rfl, Gap.nil⟩
  | .object (member :: members) =>
    ⟨prettyMembers (level + 1) (member :: members) ++ newLine level, rfl,
      writtenMembers_pretty (gap_newLine level) (level + 1) (member :: members)⟩

theorem writtenItems_pretty {gap : List Char} (blank : Gap gap) (level : Nat) :
    (items : List Json) → WrittenItems items (prettyItems level items ++ gap)
  | [] => blank
  | [item] => padded_newLine level (written_pretty level item) blank
  | item :: next :: items => by
    have first := padded_newLine level (written_pretty level item) Gap.nil
    have others := writtenItems_pretty blank level (next :: items)
    rw [List.append_nil] at first
    refine ⟨_, _, ?_, first, others⟩
    rw [prettyItems, List.append_assoc]
    · rfl
    · exact fun nothing => by cases nothing

theorem writtenMembers_pretty {gap : List Char} (blank : Gap gap) (level : Nat) :
    (members : List (Option String × Json)) →
    WrittenMembers members (prettyMembers level members ++ gap)
  | [] => blank
  | [(key, value)] => by
    refine ⟨_, _, ?_, literal_newLine level key, padded_blank (written_pretty level value) blank⟩
    rw [prettyMembers, List.append_assoc]
    rfl
  | (key, value) :: next :: members => by
    have others := writtenMembers_pretty blank level (next :: members)
    refine ⟨_, _, _, ?_, literal_newLine level key,
      padded_blank (written_pretty level value) Gap.nil, others⟩
    rw [prettyMembers, List.append_assoc, List.append_nil, List.append_assoc]
    · rfl
    · exact fun nothing => by cases nothing

end

/-- **Documents are read as they are written.** -/
theorem read?_pretty (v : Json) : read? v.pretty = some v := by
  refine read?_eq_some_iff.2 ?_
  rw [pretty, String.toList_ofList]
  exact ⟨[], prettyChars 0 v, [], (List.append_nil _).symm, Gap.nil, written_pretty 0 v, Gap.nil⟩

end WalletWatch.Json
