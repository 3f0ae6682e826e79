import WalletWatch.Proofs.Json.Tokens
import WalletWatch.Proofs.Json.Trees
/-!
# Documents are read as the grammar says

A text is read as a document exactly if the grammar lets it write this document
(`read?_eq_some_iff`); so no text writes two documents (`Document.unique`). Between the text and the
tree stand the tokens. A text of a document writes its tokens (`writes_written`), and a text in
which the tokens of a document stand is, from the first token to the last, a text of the document
(`splits_tokens`).
-/

namespace WalletWatch.Json

/-! ## A text of a document writes its tokens -/

variable {cs ds : List Char}

mutual

theorem writes_written : (v : Json) → {cs : List Char} → Written v cs → Writes cs v.tokens
  | .null, _, h => .token (t := .null) h
  | .bool true, _, h => .token (t := .bool true) h
  | .bool false, _, h => .token (t := .bool false) h
  | .number value, _, h => .token (t := .number value) h
  | .string text, _, h => .token (t := .string text) h
  | .array items, _, h => by
    obtain ⟨inner, rfl, inside⟩ := h
    exact fun rest _ => (writes_items items inside).bracketed .openArray .closeArray rfl rfl rest
  | .object members, _, h => by
    obtain ⟨inner, rfl, inside⟩ := h
    exact fun rest _ =>
      (writes_members members inside).bracketed .openObject .closeObject rfl rfl rest

theorem writes_items :
    (items : List Json) → {cs : List Char} → WrittenItems items cs → Writes cs (itemTokens items)
  | [], _, h => .gap h
  | [item], _, h => .padded (writes_written item) h
  | item :: next :: items, _, h => by
    obtain ⟨first, others, rfl, written, further⟩ := h
    rw [itemTokens_cons]
    exact (Writes.padded (writes_written item) written).joined (t := .comma) rfl
      (writes_items (next :: items) further)

theorem writes_members : (members : List (Option String × Json)) → {cs : List Char} →
    WrittenMembers members cs → Writes cs (memberTokens members)
  | [], _, h => .gap h
  | [(key, value)], _, h => by
    obtain ⟨name, content, rfl, named, written⟩ := h
    exact (Writes.padded (.token (t := .string key)) named).joined (t := .colon) rfl
      (.padded (writes_written value) written)
  | (key, value) :: next :: members, _, h => by
    obtain ⟨name, content, others, rfl, named, written, further⟩ := h
    rw [memberTokens_cons]
    exact (Writes.padded (.token (t := .string key)) named).joined (t := .colon) rfl
      ((Writes.padded (writes_written value) written).joined (t := .comma) rfl
        (writes_members (next :: members) further))

end

/-- What writes a document that is no numeral does not go on in what follows it. -/
theorem tokenize_written {v : Json} (h : Written v cs) (whole : ∀ n, v ≠ .number n)
    (rest : List Char) : tokenize (cs ++ rest) = (tokenize rest).map (v.tokens ++ ·) := by
  have leaf {t : Token} (text : t.Text cs) (other : ∀ n, t ≠ .number n) :
      tokenize (cs ++ rest) = (tokenize rest).map ([t] ++ ·) :=
    tokenize_text text fun ⟨n, same⟩ => absurd same (other n)
  match v, h with
  | .null, h => exact leaf (t := .null) h (fun _ => Token.noConfusion)
  | .bool true, h => exact leaf (t := .bool true) h (fun _ => Token.noConfusion)
  | .bool false, h => exact leaf (t := .bool false) h (fun _ => Token.noConfusion)
  | .number n, _ => exact absurd rfl (whole n)
  | .string text, h => exact leaf (t := .string text) h (fun _ => Token.noConfusion)
  | .array items, h =>
    obtain ⟨inner, rfl, inside⟩ := h
    exact (writes_items items inside).bracketed .openArray .closeArray rfl rfl rest
  | .object members, h =>
    obtain ⟨inner, rfl, inside⟩ := h
    exact (writes_members members inside).bracketed .openObject .closeObject rfl rfl rest

/-! ## What stands between the tokens of a document is white space -/

/-- Where some tokens stand in front of others, a text of some kind stands in front of what the
others stand in. -/
def Splits (ts : List Token) (P : List Char → Prop) : Prop :=
  ∀ us cs, Spread (ts ++ us) cs →
    ∃ gap text rest, cs = gap ++ (text ++ rest) ∧ Gap gap ∧ P text ∧ Spread us rest

namespace Splits

variable {t : Token} {c : Char} {ts us : List Token} {P : List Char → Prop}

theorem token : Splits [t] t.Text := fun _ _ h => h

/-- Up to the next mark, the text has white space around it. -/
theorem upTo (h : Splits ts P) (mark : t.mark? = some c) (spread : Spread (ts ++ t :: us) cs) :
    ∃ text rest, cs = text ++ c :: rest ∧ Padded P text ∧ Spread us rest := by
  obtain ⟨before, text, left, rfl, blank, written, spread⟩ := h _ _ spread
  obtain ⟨after, found, rest, rfl, blank', single, others⟩ := spread
  obtain rfl := single.eq_mark mark
  refine ⟨before ++ (text ++ after), rest, ?_, ⟨before, text, after, rfl, blank, written, blank'⟩,
    others⟩
  simp only [List.append_assoc, List.singleton_append]

end Splits

mutual

theorem splits_tokens : (v : Json) → Splits v.tokens (Written v)
  | .null => .token
  | .bool true => .token
  | .bool false => .token
  | .number _ => .token
  | .string _ => .token
  | .array items => by
    intro us cs spread
    rw [tokens_array_append] at spread
    obtain ⟨gap, opening, left, rfl, blank, rfl, others⟩ := spread
    obtain ⟨inner, rest, rfl, inside, further⟩ := splits_items items others
    refine ⟨gap, '[' :: (inner ++ [']']), rest, ?_, blank, ⟨inner, rfl, inside⟩, further⟩
    rw [List.cons_append, List.append_assoc]
    rfl
  | .object members => by
    intro us cs spread
    rw [tokens_object_append] at spread
    obtain ⟨gap, opening, left, rfl, blank, rfl, others⟩ := spread
    obtain ⟨inner, rest, rfl, inside, further⟩ := splits_members members others
    refine ⟨gap, '\x7b' :: (inner ++ ['\x7d']), rest, ?_, blank, ⟨inner, rfl, inside⟩, further⟩
    rw [List.cons_append, List.append_assoc]
    rfl

theorem splits_items : (items : List Json) → {us : List Token} → {cs : List Char} →
    Spread (itemTokens items ++ .closeArray :: us) cs →
    ∃ inner rest, cs = inner ++ ']' :: rest ∧ WrittenItems items inner ∧ Spread us rest
  | [], _, _, spread => by
    obtain ⟨gap, closing, rest, rfl, blank, rfl, others⟩ := spread
    exact ⟨gap, rest, rfl, blank, others⟩
  | [item], _, _, spread => (splits_tokens item).upTo rfl spread
  | item :: next :: items, us, _, spread => by
    rw [itemTokens_cons, List.append_assoc] at spread
    obtain ⟨first, left, rfl, written, others⟩ := (splits_tokens item).upTo (c := ',') rfl spread
    obtain ⟨inner, rest, rfl, inside, further⟩ := splits_items (next :: items) others
    refine ⟨first ++ ',' :: inner, rest, ?_, ⟨first, inner, rfl, written, inside⟩, further⟩
    rw [List.append_assoc]
    rfl

theorem splits_members : (members : List (Option String × Json)) → {us : List Token} →
    {cs : List Char} → Spread (memberTokens members ++ .closeObject :: us) cs →
    ∃ inner rest, cs = inner ++ '\x7d' :: rest ∧ WrittenMembers members inner ∧ Spread us rest
  | [], _, _, spread => by
    obtain ⟨gap, closing, rest, rfl, blank, rfl, others⟩ := spread
    exact ⟨gap, rest, rfl, blank, others⟩
  | [(key, value)], us, _, spread => by
    obtain ⟨name, left, rfl, named, others⟩ :=
      (Splits.token (t := .string key)).upTo (t := .colon) (c := ':') rfl spread
    obtain ⟨content, rest, rfl, written, further⟩ :=
      (splits_tokens value).upTo (t := .closeObject) (c := '\x7d') rfl others
    refine ⟨name ++ ':' :: content, rest, ?_, ⟨name, content, rfl, named, written⟩, further⟩
    rw [List.append_assoc]
    rfl
  | (key, value) :: next :: members, us, _, spread => by
    rw [memberTokens_cons, List.cons_append, List.cons_append, List.append_assoc] at spread
    obtain ⟨name, left, rfl, named, others⟩ :=
      (Splits.token (t := .string key)).upTo (t := .colon) (c := ':') rfl spread
    obtain ⟨content, left, rfl, written, others⟩ :=
      (splits_tokens value).upTo (c := ',') rfl others
    obtain ⟨inner, rest, rfl, inside, further⟩ := splits_members (next :: members) others
    refine ⟨name ++ ':' :: (content ++ ',' :: inner), rest, ?_,
      ⟨name, content, inner, rfl, named, written, inside⟩, further⟩
    simp only [List.append_assoc, List.cons_append]

end

/-! ## Documents -/

/-- **A text is read as a document exactly if it writes the document.** -/
theorem read?_eq_some_iff {s : String} {v : Json} : read? s = some v ↔ Document v s.toList := by
  rw [read?, Option.bind_eq_some_iff]
  constructor
  · rintro ⟨ts, found, tree⟩
    obtain rfl := ofTokens?_eq_some_iff.1 tree
    have spread := spread_of_tokenize found
    rw [← List.append_nil v.tokens] at spread
    exact splits_tokens v [] _ spread
  · intro h
    have written := Writes.padded (writes_written v) h [] rfl
    rw [List.append_nil, tokenize, Option.map_some, List.append_nil] at written
    exact ⟨v.tokens, written, ofTokens?_eq_some_iff.2 rfl⟩

theorem Document.unique {v w : Json} {cs : List Char} (h : Document v cs) (h' : Document w cs) :
    v = w := by
  rw [← String.toList_ofList (l := cs)] at h h'
  exact Option.some.inj ((read?_eq_some_iff.2 h).symm.trans (read?_eq_some_iff.2 h'))

/-- Behind a document that is no numeral there is nothing but white space. -/
theorem gap_of_read? {v w : Json} (h : Document v cs) (whole : ∀ n, v ≠ .number n)
    (read : read? (String.ofList (cs ++ ds)) = some w) : Gap ds := by
  obtain ⟨before, inner, after, rfl, blank, written, blank'⟩ := h
  obtain ⟨ts, found, tree⟩ := Option.bind_eq_some_iff.1 read
  obtain rfl := ofTokens?_eq_some_iff.1 tree
  rw [String.toList_ofList, List.append_assoc, List.append_assoc, tokenize_gap blank,
    tokenize_written written whole, tokenize_gap blank'] at found
  obtain ⟨us, others, same⟩ := Option.map_eq_some_iff.1 found
  obtain ⟨-, rfl⟩ := eq_of_tokens_append same.symm
  exact spread_of_tokenize others

/-- What starts like a numeral is read as no other document. -/
theorem number_of_read? {n : Numeral} {w : Json} (h : Document (.number n) cs)
    (read : read? (String.ofList (cs ++ ds)) = some w) : ∃ m, w = .number m := by
  obtain ⟨before, inner, after, rfl, blank, written, -⟩ := h
  obtain ⟨ts, found, tree⟩ := Option.bind_eq_some_iff.1 read
  obtain rfl := ofTokens?_eq_some_iff.1 tree
  obtain ⟨c, tail, rfl, starts⟩ := NumeralText.starts written
  rw [String.toList_ofList, List.append_assoc, List.append_assoc, tokenize_gap blank,
    List.cons_append] at found
  obtain ⟨m, us, first⟩ := tokenize_numeral starts found
  have same : w.tokens = (number m).tokens ++ us := first
  exact ⟨m, (eq_of_tokens_append same).1⟩

/-- A text that goes on after a document can only be read as a numeral. -/
theorem number_of_trailing {v w : Json} (h : Document v cs) (later : ¬ Gap ds)
    (read : read? (String.ofList (cs ++ ds)) = some w) : ∃ m, w = .number m := by
  by_cases numeral : ∃ n, v = .number n
  · obtain ⟨n, rfl⟩ := numeral
    exact number_of_read? h read
  · exact absurd (gap_of_read? h (fun n same => numeral ⟨n, same⟩) read) later

end WalletWatch.Json
