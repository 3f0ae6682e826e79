/-!
# Cutting texts

A text is cut in two ways: at every character of some kind, which gives the pieces between them, and
at its ends, where characters of some kind are dropped. Empty pieces are kept, so cutting a
concatenation at a cutting point is the concatenation of the cuts (`pieces_append_cons`). What is
left after dropping is what does not begin, or end, with such a character (`dropWhile_eq_iff`,
`dropEnds_eq_iff`).
-/

namespace WalletWatch.Text

variable {cut : Char → Bool}

/-! ## Pieces -/

/-- The pieces between the characters at which a text is cut: one more than there are of these. -/
def pieces (cut : Char → Bool) : List Char → List (List Char)
  | [] => [[]]
  | c :: rest =>
    if cut c then [] :: pieces cut rest
    else match pieces cut rest with
      | [] => [[c]]
      | piece :: others => (c :: piece) :: others

theorem pieces_ne_nil (cs : List Char) : pieces cut cs ≠ [] := by
  cases cs with
  | nil => simp [pieces]
  | cons c rest =>
    simp only [pieces]
    split
    · simp
    · split <;> simp

theorem pieces_append_cons (before : List Char) {c : Char} (hc : cut c = true)
    (after : List Char) :
    pieces cut (before ++ c :: after) = pieces cut before ++ pieces cut after := by
  induction before with
  | nil => simp [pieces, hc]
  | cons a before ih =>
    simp only [List.cons_append, pieces, ih]
    split
    · rfl
    · cases h : pieces cut before with
      | nil => exact absurd h (pieces_ne_nil before)
      | cons piece others => rfl

/-- A text that is cut nowhere is its only piece. -/
theorem pieces_of_forall {cs : List Char} (h : ∀ c ∈ cs, cut c = false) :
    pieces cut cs = [cs] := by
  induction cs with
  | nil => rfl
  | cons c rest ih =>
    have hc : cut c = false := h c List.mem_cons_self
    have hrest : pieces cut rest = [rest] := ih fun d hd => h d (List.mem_cons_of_mem c hd)
    simp [pieces, hc, hrest]

/-! ## Ends -/

/-- A text without the characters of some kind at its end. -/
def dropEnd (cut : Char → Bool) (cs : List Char) : List Char :=
  (cs.reverse.dropWhile cut).reverse

/-- A text without the characters of some kind at both ends. -/
def dropEnds (cut : Char → Bool) (cs : List Char) : List Char :=
  dropEnd cut (cs.dropWhile cut)

theorem dropWhile_eq_iff {cs kept : List Char} : cs.dropWhile cut = kept ↔
    ∃ dropped, cs = dropped ++ kept ∧ (∀ c ∈ dropped, cut c = true) ∧
      ∀ c ∈ kept.head?, cut c = false := by
  constructor
  · rintro rfl
    refine ⟨cs.takeWhile cut, List.takeWhile_append_dropWhile.symm,
      List.all_eq_true.1 List.all_takeWhile, fun c first => ?_⟩
    have := List.head?_dropWhile_not cut cs
    rwa [Option.mem_def.1 first] at this
  · rintro ⟨dropped, rfl, cuts, begun⟩
    rw [List.dropWhile_append_of_pos cuts]
    cases kept with
    | nil => rfl
    | cons c kept => exact List.dropWhile_cons_of_neg (by simp [begun c rfl])

theorem dropEnd_eq_iff {cs kept : List Char} : dropEnd cut cs = kept ↔
    ∃ dropped, cs = kept ++ dropped ∧ (∀ c ∈ dropped, cut c = true) ∧
      ∀ c ∈ kept.getLast?, cut c = false := by
  rw [dropEnd, List.reverse_eq_iff, dropWhile_eq_iff, List.head?_reverse]
  constructor
  · rintro ⟨dropped, own, cuts, ended⟩
    refine ⟨dropped.reverse, ?_, fun c member => cuts c (List.mem_reverse.1 member), ended⟩
    rw [List.reverse_eq_iff.1 own, List.reverse_append, List.reverse_reverse]
  · rintro ⟨dropped, rfl, cuts, ended⟩
    exact ⟨dropped.reverse, List.reverse_append, fun c member => cuts c (List.mem_reverse.1 member),
      ended⟩

/-- What is left between the ends that are dropped: it neither begins nor ends with a character of
that kind. -/
theorem dropEnds_eq_iff {cs kept : List Char} : dropEnds cut cs = kept ↔
    ∃ before after, cs = before ++ kept ++ after ∧ (∀ c ∈ before, cut c = true) ∧
      (∀ c ∈ after, cut c = true) ∧ (∀ c ∈ kept.head?, cut c = false) ∧
      ∀ c ∈ kept.getLast?, cut c = false := by
  rw [dropEnds, dropEnd_eq_iff]
  constructor
  · rintro ⟨after, inner, behind, ended⟩
    obtain ⟨before, own, ahead, begun⟩ := dropWhile_eq_iff.1 inner
    refine ⟨before, after, by rw [own, List.append_assoc], ahead, behind, fun c first => ?_, ended⟩
    rw [Option.mem_def] at first
    exact begun c (by rw [List.head?_append, first]; rfl)
  · rintro ⟨before, after, rfl, ahead, behind, begun, ended⟩
    cases kept with
    | nil =>
      refine ⟨[], ?_, List.forall_mem_nil _, ended⟩
      have all : ∀ c ∈ before ++ [] ++ after, cut c = true := by
        simp only [List.append_nil, List.mem_append]
        rintro c (member | member)
        · exact ahead c member
        · exact behind c member
      exact dropWhile_eq_iff.2 ⟨_, (List.append_nil _).symm, all, ended⟩
    | cons c kept =>
      have rest : (before ++ c :: kept ++ after).dropWhile cut = c :: kept ++ after :=
        dropWhile_eq_iff.2 ⟨before, List.append_assoc .., ahead, begun⟩
      exact ⟨after, rest, behind, ended⟩

end WalletWatch.Text
