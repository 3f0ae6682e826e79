import WalletWatch.Json.Reader
/-!
# Trees and their tokens

Each tree has one list of tokens (`Json.tokens`): the list that a tree is read from determines the
tree, and the other way round (`ofTokens?_eq_some_iff`). The recursion of the proofs follows the
budget of the reader, which is never short for the tokens of a tree.
-/

namespace WalletWatch.Json

/-! ## The tokens of a tree -/

mutual

/-- The tokens that write a tree. -/
def tokens : Json → List Token
  | .null => [.null]
  | .bool value => [.bool value]
  | .number value => [.number value]
  | .string text => [.string text]
  | .array items => .openArray :: (itemTokens items ++ [.closeArray])
  | .object members => .openObject :: (memberTokens members ++ [.closeObject])

def itemTokens : List Json → List Token
  | [] => []
  | [item] => tokens item
  | item :: items => tokens item ++ .comma :: itemTokens items

def memberTokens : List (Option String × Json) → List Token
  | [] => []
  | [(key, value)] => .string key :: .colon :: tokens value
  | (key, value) :: members =>
    .string key :: .colon :: (tokens value ++ .comma :: memberTokens members)

end

/-! ## A tree is read from its tokens -/

/-- A tree starts with a token that closes no array. -/
theorem exists_tokens (v : Json) : ∃ t ts, v.tokens = t :: ts ∧ t ≠ .closeArray := by
  cases v <;> exact ⟨_, _, by rw [tokens], by simp⟩

theorem itemTokens_cons (item next : Json) (items : List Json) :
    itemTokens (item :: next :: items) = item.tokens ++ .comma :: itemTokens (next :: items) := by
  rw [itemTokens]
  exact fun nothing => by cases nothing

theorem memberTokens_cons (key : Option String) (value : Json) (next : Option String × Json)
    (members : List (Option String × Json)) :
    memberTokens ((key, value) :: next :: members) =
      .string key :: .colon :: (value.tokens ++ .comma :: memberTokens (next :: members)) := by
  rw [memberTokens]
  exact fun nothing => by cases nothing

theorem tokens_array_append (items : List Json) (us : List Token) :
    tokens (.array items) ++ us = .openArray :: (itemTokens items ++ .closeArray :: us) := by
  rw [tokens, List.cons_append, List.append_assoc]
  rfl

theorem tokens_object_append (members : List (Option String × Json)) (us : List Token) :
    tokens (.object members) ++ us =
      .openObject :: (memberTokens members ++ .closeObject :: us) := by
  rw [tokens, List.cons_append, List.append_assoc]
  rfl

theorem exists_itemTokens (item : Json) (items : List Json) :
    ∃ t ts, itemTokens (item :: items) = t :: ts ∧ t ≠ .closeArray := by
  obtain ⟨t, ts, first, own⟩ := exists_tokens item
  cases items with
  | nil => exact ⟨t, ts, first, own⟩
  | cons next items => exact ⟨t, _, by rw [itemTokens_cons, first, List.cons_append], own⟩

theorem exists_memberTokens (key : Option String) (value : Json)
    (members : List (Option String × Json)) :
    ∃ ts, memberTokens ((key, value) :: members) = .string key :: ts := by
  cases members with
  | nil => exact ⟨_, memberTokens.eq_2 ..⟩
  | cons next members => exact ⟨_, memberTokens_cons ..⟩

theorem readValue_openArray {budget : Nat} {t : Token} {ts : List Token} (h : t ≠ .closeArray) :
    readValue (budget + 1) (.openArray :: t :: ts) =
      (readItems budget (t :: ts)).map fun (items, rest) => (.array items, rest) := by
  rw [readValue]
  rintro rest same
  exact h (List.cons.inj same).1

mutual

/-- A tree is read from its tokens. -/
theorem readValue_tokens : (budget : Nat) → (v : Json) → (rest : List Token) →
    2 * v.tokens.length ≤ budget → readValue budget (v.tokens ++ rest) = some (v, rest)
  | 0, v, _, enough => by
    obtain ⟨t, ts, first, -⟩ := exists_tokens v
    rw [first, List.length_cons] at enough
    omega
  | _ + 1, .null, _, _ => rfl
  | _ + 1, .bool _, _, _ => rfl
  | _ + 1, .number _, _, _ => rfl
  | _ + 1, .string _, _, _ => rfl
  | _ + 1, .array [], _, _ => rfl
  | budget + 1, .array (item :: items), rest, enough => by
    rw [tokens, List.length_cons, List.length_append, List.length_singleton] at enough
    have inside := readItems_tokens budget item items rest (by omega)
    obtain ⟨t, ts, first, own⟩ := exists_itemTokens item items
    rw [tokens_array_append]
    rw [first, List.cons_append] at inside ⊢
    rw [readValue_openArray own, inside]
    rfl
  | _ + 1, .object [], _, _ => rfl
  | budget + 1, .object ((key, value) :: members), rest, enough => by
    rw [tokens, List.length_cons, List.length_append, List.length_singleton] at enough
    have inside := readMembers_tokens budget key value members rest (by omega)
    obtain ⟨ts, first⟩ := exists_memberTokens key value members
    rw [tokens_object_append]
    rw [first, List.cons_append] at inside ⊢
    rw [readValue, inside]
    · rfl
    · exact fun _ same => by cases same

/-- The items of an array are read from their tokens and the closing bracket. -/
theorem readItems_tokens : (budget : Nat) → (item : Json) → (items : List Json) →
    (rest : List Token) → 2 * (itemTokens (item :: items)).length < budget →
    readItems budget (itemTokens (item :: items) ++ .closeArray :: rest) =
      some (item :: items, rest)
  | budget + 1, item, [], rest, enough => by
    rw [itemTokens] at enough
    rw [readItems, itemTokens, readValue_tokens budget item _ (by omega)]
  | budget + 1, item, next :: items, rest, enough => by
    rw [itemTokens_cons, List.length_append, List.length_cons] at enough
    have first := readValue_tokens budget item
      (.comma :: (itemTokens (next :: items) ++ .closeArray :: rest)) (by omega)
    have others := readItems_tokens budget next items rest (by omega)
    rw [itemTokens_cons, List.append_assoc, List.cons_append, readItems, first]
    simp only [others, Option.map_some]

/-- The members of an object are read from their tokens and the closing bracket. -/
theorem readMembers_tokens : (budget : Nat) → (key : Option String) → (value : Json) →
    (members : List (Option String × Json)) → (rest : List Token) →
    2 * (memberTokens ((key, value) :: members)).length < budget →
    readMembers budget (memberTokens ((key, value) :: members) ++ .closeObject :: rest) =
      some ((key, value) :: members, rest)
  | budget + 1, key, value, [], rest, enough => by
    rw [memberTokens, List.length_cons, List.length_cons] at enough
    rw [memberTokens, List.cons_append, List.cons_append, readMembers,
      readValue_tokens budget value _ (by omega)]
  | budget + 1, key, value, (next, following) :: members, rest, enough => by
    rw [memberTokens_cons, List.length_cons, List.length_cons, List.length_append,
      List.length_cons] at enough
    have first := readValue_tokens budget value
      (.comma :: (memberTokens ((next, following) :: members) ++ .closeObject :: rest)) (by omega)
    have others := readMembers_tokens budget next following members rest (by omega)
    rw [memberTokens_cons, List.cons_append, List.cons_append, List.append_assoc,
      List.cons_append, readMembers, first]
    simp only [others, Option.map_some]

end

/-! ## What is read has the tokens that it is read from -/

mutual

theorem tokens_of_readValue : (budget : Nat) → {ts : List Token} → {v : Json} →
    {rest : List Token} → readValue budget ts = some (v, rest) → ts = v.tokens ++ rest
  | 0, _, _, _, h => by cases h
  | budget + 1, _, _, _, h => by
    unfold readValue at h
    split at h
    case h_6 =>
      obtain ⟨⟨items, left⟩, read, same⟩ := Option.map_eq_some_iff.1 h
      cases same
      rw [(tokens_of_readItems budget read).2, tokens_array_append]
    case h_8 =>
      obtain ⟨⟨members, left⟩, read, same⟩ := Option.map_eq_some_iff.1 h
      cases same
      rw [(tokens_of_readMembers budget read).2, tokens_object_append]
    case h_9 => cases h
    all_goals
      cases h
      rfl

theorem tokens_of_readItems : (budget : Nat) → {ts : List Token} → {items : List Json} →
    {rest : List Token} → readItems budget ts = some (items, rest) →
    items ≠ [] ∧ ts = itemTokens items ++ .closeArray :: rest
  | 0, _, _, _, h => by cases h
  | budget + 1, _, _, _, h => by
    unfold readItems at h
    split at h
    · next item tail first =>
      obtain ⟨⟨items, left⟩, read, same⟩ := Option.map_eq_some_iff.1 h
      cases same
      obtain ⟨several, others⟩ := tokens_of_readItems budget read
      obtain ⟨next, items, rfl⟩ := List.exists_cons_of_ne_nil several
      refine ⟨List.cons_ne_nil _ _, ?_⟩
      rw [tokens_of_readValue budget first, others, itemTokens_cons, List.append_assoc,
        List.cons_append]
    · next item tail first =>
      cases h
      exact ⟨List.cons_ne_nil _ _, tokens_of_readValue budget first⟩
    · cases h

theorem tokens_of_readMembers : (budget : Nat) → {ts : List Token} →
    {members : List (Option String × Json)} → {rest : List Token} →
    readMembers budget ts = some (members, rest) →
    members ≠ [] ∧ ts = memberTokens members ++ .closeObject :: rest
  | 0, _, _, _, h => by cases h
  | budget + 1, _, _, _, h => by
    unfold readMembers at h
    split at h
    · next key content =>
      split at h
      · next value tail first =>
        obtain ⟨⟨members, left⟩, read, same⟩ := Option.map_eq_some_iff.1 h
        cases same
        obtain ⟨several, others⟩ := tokens_of_readMembers budget read
        obtain ⟨next, members, rfl⟩ := List.exists_cons_of_ne_nil several
        refine ⟨List.cons_ne_nil _ _, ?_⟩
        rw [tokens_of_readValue budget first, others, memberTokens_cons, List.cons_append,
          List.cons_append, List.append_assoc, List.cons_append]
      · next value tail first =>
        cases h
        refine ⟨List.cons_ne_nil _ _, ?_⟩
        rw [tokens_of_readValue budget first, memberTokens, List.cons_append, List.cons_append]
      · cases h
    · cases h

end

/-- The tokens of a tree are not the first of those of another one. -/
theorem eq_of_tokens_append {v w : Json} {us : List Token} (h : w.tokens = v.tokens ++ us) :
    w = v ∧ us = [] := by
  have read := readValue_tokens (2 * w.tokens.length) v us (by rw [h, List.length_append]; omega)
  have whole := readValue_tokens (2 * w.tokens.length) w [] (Nat.le_refl _)
  rw [← h] at read
  rw [List.append_nil, read] at whole
  cases whole
  exact ⟨rfl, rfl⟩

/-- **Trees and their tokens determine each other.** -/
theorem ofTokens?_eq_some_iff {ts : List Token} {v : Json} :
    ofTokens? ts = some v ↔ ts = v.tokens := by
  constructor
  · intro h
    unfold ofTokens? at h
    split at h
    · next read =>
      cases h
      rw [tokens_of_readValue _ read, List.append_nil]
    · cases h
  · rintro rfl
    have tree := readValue_tokens (2 * v.tokens.length + 1) v [] (Nat.le_succ _)
    rw [List.append_nil] at tree
    rw [ofTokens?, tree]

end WalletWatch.Json
