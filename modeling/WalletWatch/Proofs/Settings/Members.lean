import WalletWatch.Proofs.Settings.Override
/-!
# The members of an object

What an object makes of settings does not depend on the order of its members: it replaces the fields
that it gives, leaves the others alone, and passes over members with other keys
(`Settings.ofMembers_eq_some_iff`). A member that is at fault is never passed over.
-/

namespace WalletWatch.Settings

variable {s t : Settings} {field : Field} {v : Json}

/-- The fields that an object gives, with their values. -/
def given (members : List (Option String × Json)) : List (Field × Json) :=
  members.filterMap fun member => (member.1.bind Field.ofKey?).map (·, member.2)

theorem Field.ofKey?_key (field : Field) : ofKey? field.key = some field := by
  cases field <;> rfl

theorem Field.ofKey?_eq_some_iff {key : String} :
    ofKey? key = some field ↔ key = field.key := by
  constructor
  · intro h
    have found : all.find? (·.key == key) = some field := h
    exact (beq_iff_eq.1 (List.find?_some (p := fun field : Field => field.key == key) found)).symm
  · rintro rfl
    exact Field.ofKey?_key field

variable {key : String} {members : List (Option String × Json)}

theorem given_cons_of_none (h : Field.ofKey? key = none) :
    given ((some key, v) :: members) = given members := by
  rw [given, List.filterMap_cons]
  simp only [Option.bind_some, h, Option.map_none]
  rfl

theorem given_cons_of_some (h : Field.ofKey? key = some field) :
    given ((some key, v) :: members) = (field, v) :: given members := by
  rw [given, List.filterMap_cons]
  simp only [Option.bind_some, h, Option.map_some]
  rfl

/-- **What an object makes of settings**, after some fields were read: it is accepted if every key is
a text and no field is given twice, and then it replaces the fields that are given. -/
theorem ofMembers_eq_some_iff {read : List Field} : ofMembers read s members = some t ↔
    (∀ member ∈ members, member.1 ≠ none) ∧ Overrides (given members) s t ∧
      ∀ field ∈ read, field ∉ (given members).map Prod.fst := by
  induction members generalizing read s with
  | nil =>
    rw [ofMembers, Option.some.injEq, given, List.filterMap_nil, overrides_nil]
    simp [eq_comm]
  | cons member members ih =>
    obtain ⟨_ | key, v⟩ := member
    · rw [ofMembers]
      exact iff_of_false (by simp) fun h => h.1 _ List.mem_cons_self rfl
    · rw [ofMembers, List.forall_mem_cons]
      split
      · next unknown => simp [ih, given_cons_of_none unknown]
      · next field known =>
        rw [given_cons_of_some known]
        split
        · next again => exact iff_of_false (by simp) fun h => h.2.2 field again List.mem_cons_self
        · next new =>
          split
          · next unassigned =>
            exact iff_of_false (by simp) fun h => not_overrides_cons unassigned h.2.1
          · next u assigned =>
            rw [ih]
            constructor
            · rintro ⟨texts, overrides, apart⟩
              have once := apart field List.mem_cons_self
              refine ⟨⟨by simp, texts⟩, (overrides_cons_of_assign assigned once).2 overrides, ?_⟩
              intro other earlier later
              rcases List.mem_cons.1 later with rfl | later
              · exact new earlier
              · exact apart other (List.mem_cons_of_mem field earlier) later
            · rintro ⟨⟨-, texts⟩, overrides, apart⟩
              have once := (List.nodup_cons.1 overrides.once).1
              refine ⟨texts, (overrides_cons_of_assign assigned once).1 overrides, ?_⟩
              intro other earlier
              rcases List.mem_cons.1 earlier with rfl | earlier
              · exact once
              · exact fun later => apart other earlier (List.mem_cons_of_mem _ later)

theorem ofJson?_object_eq_some_iff : ofJson? (.object members) = some t ↔
    (∀ member ∈ members, member.1 ≠ none) ∧ Overrides (given members) default t := by
  rw [ofJson?, ofMembers_eq_some_iff]
  simp

theorem mem_given (h : (some field.key, v) ∈ members) : (field, v) ∈ given members :=
  List.mem_filterMap.2 ⟨_, h, by simp [Field.ofKey?_key]⟩

theorem count_given (field : Field) (members : List (Option String × Json)) :
    ((given members).map Prod.fst).count field = members.countP (·.1 == some field.key) := by
  induction members with
  | nil => rfl
  | cons member members ih =>
    obtain ⟨_ | key, v⟩ := member
    · rw [List.countP_cons_of_neg (by simp), ← ih]
      rfl
    · cases known : Field.ofKey? key with
      | none =>
        have other : key ≠ field.key := fun same => by
          rw [same, Field.ofKey?_key] at known
          cases known
        rw [given_cons_of_none known, ih, List.countP_cons_of_neg (by simpa using other)]
      | some other =>
        obtain rfl := Field.ofKey?_eq_some_iff.1 known
        have same : other.key = field.key ↔ other = field := by
          rw [← Field.ofKey?_eq_some_iff, known, Option.some.injEq]
        rw [given_cons_of_some known, List.map_cons, List.count_cons, List.countP_cons, ih]
        simp [same]

theorem given_known (known : List (Field × Json)) :
    given (known.map fun p => (some p.1.key, p.2)) = known := by
  induction known with
  | nil => rfl
  | cons p known ih => rw [List.map_cons, given_cons_of_some (Field.ofKey?_key p.1), ih]

theorem given_unknown {unknown : List (String × Json)}
    (other : ∀ p ∈ unknown, ∀ field : Field, p.1 ≠ field.key) :
    given (unknown.map fun p => (some p.1, p.2)) = [] := by
  induction unknown with
  | nil => rfl
  | cons p unknown ih =>
    obtain ⟨first, other⟩ := List.forall_mem_cons.1 other
    have none : Field.ofKey? p.1 = none :=
      Option.eq_none_iff_forall_ne_some.2 fun field h => first field (Field.ofKey?_eq_some_iff.1 h)
    rw [List.map_cons, given_cons_of_none none, ih other]

/-- Members with other keys and the order of members do not count. -/
theorem given_perm {known : List (Field × Json)} {unknown : List (String × Json)}
    (other : ∀ p ∈ unknown, ∀ field : Field, p.1 ≠ field.key)
    (order : members.Perm ((known.map fun p => (some p.1.key, p.2)) ++
      unknown.map fun p => (some p.1, p.2))) : (given members).Perm known := by
  have listed := order.filterMap fun member => (member.1.bind Field.ofKey?).map (·, member.2)
  have same : given ((known.map fun p => (some p.1.key, p.2)) ++
      unknown.map fun p => (some p.1, p.2)) = known := by
    rw [given, List.filterMap_append, ← given, ← given, given_known, given_unknown other,
      List.append_nil]
  exact same ▸ listed

end WalletWatch.Settings
