import WalletWatch.Settings.Codec
/-!
# The values of fields

Which documents a field of the settings can be read from, and what it then holds, is said without a
reader (`Settings.Holds`). A field that is given such a document holds its value, and nothing else
changes (`Settings.assign_eq_some_iff`). Settings with some fields replaced are those that hold the
listed values and agree with the others elsewhere (`Settings.Overrides`); the order of the list does
not matter (`Settings.Overrides.perm`).
-/

namespace WalletWatch

open Binary

namespace Screen

/-! ## Screens -/

/-- The members of an object that writes the field of a wallet: one has the key of the field, and
the others have other texts as keys. -/
def FieldMembers (lastPage : Bool) (members : List (Option String × Json)) : Prop :=
  (∀ member ∈ members, member.1 ≠ none) ∧
    members.filter (·.1 == some lastPageKey) = [(some lastPageKey, .bool lastPage)]

/-- A screen and a document that writes it. -/
inductive Writing : Screen → Json → Prop
  | name {screen : Screen} (plain : ∀ lastPage, screen ≠ wallet lastPage) :
      Writing screen (.ofText screen.key)
  | object {screen : Screen} (plain : ∀ lastPage, screen ≠ wallet lastPage) :
      Writing screen (.object [(some screen.key, .null)])
  | members {lastPage : Bool} {members : List (Option String × Json)}
      (h : FieldMembers lastPage members) :
      Writing (wallet lastPage) (.object [(some (wallet lastPage).key, .object members)])
  | item {lastPage : Bool} :
      Writing (wallet lastPage) (.object [(some (wallet lastPage).key, .array [.bool lastPage])])

theorem lastPageOfMembers_some {found lastPage : Bool} {members : List (Option String × Json)} :
    lastPageOfMembers (some found) members = some lastPage ↔
      (∀ member ∈ members, member.1 ≠ none) ∧
        members.filter (·.1 == some lastPageKey) = [] ∧ found = lastPage := by
  induction members with
  | nil => simp [lastPageOfMembers]
  | cons member members ih =>
    obtain ⟨_ | key, value⟩ := member
    · simp [lastPageOfMembers]
    · by_cases own : key = lastPageKey
      · simp [lastPageOfMembers, own]
      · simp [lastPageOfMembers, own, ih]

theorem lastPageOfMembers_none {lastPage : Bool} {members : List (Option String × Json)} :
    lastPageOfMembers none members = some lastPage ↔ FieldMembers lastPage members := by
  induction members with
  | nil => simp [lastPageOfMembers, FieldMembers]
  | cons member members ih =>
    obtain ⟨_ | key, value⟩ := member
    · simp [lastPageOfMembers, FieldMembers]
    · by_cases own : key = lastPageKey
      · subst own
        cases value with
        | bool found =>
          simp [lastPageOfMembers, lastPageOfMembers_some, FieldMembers, and_comm]
        | _ => simp [lastPageOfMembers, FieldMembers]
      · simp [lastPageOfMembers, own, ih, FieldMembers]

theorem ofJson?_eq_some_iff {screen : Screen} {v : Json} :
    ofJson? v = some screen ↔ Writing screen v := by
  constructor
  · intro h
    unfold ofJson? at h
    split at h
    · split at h
      · next own => cases h; rw [own]; exact .name fun _ => Screen.noConfusion
      · split at h
        · next own => cases h; rw [own]; exact .name fun _ => Screen.noConfusion
        · cases h
    · split at h
      · next own =>
        obtain ⟨lastPage, read, rfl⟩ := Option.map_eq_some_iff.1 h
        rw [own]
        unfold lastPageOfJson at read
        split at read
        · exact .members (lastPageOfMembers_none.1 read)
        · cases read
          exact .item
        · cases read
      · split at h
        · split at h
          · next own => cases h; rw [own]; exact .object fun _ => Screen.noConfusion
          · split at h
            · next own => cases h; rw [own]; exact .object fun _ => Screen.noConfusion
            · cases h
        · cases h
    · cases h
  · intro h
    cases h with
    | name plain =>
      cases screen with
      | wallet lastPage => exact absurd rfl (plain lastPage)
      | _ => rfl
    | object plain =>
      cases screen with
      | wallet lastPage => exact absurd rfl (plain lastPage)
      | _ => rfl
    | members h => exact congrArg (Option.map wallet) (lastPageOfMembers_none.2 h)
    | item => rfl

end Screen

namespace Settings

variable {s t : Settings} {field : Field} {v : Json}

/-! ## The value of a field -/

/-- A size that may be missing, and a document that writes it: `null`, or a numeral unless it is
outside the 64-bit numbers. -/
def SizeIn (size : Option Single) : Json → Prop
  | .null => size = none
  | .number n => ∃ x, size = some x ∧ n.single? = some x
  | _ => False

/-- What settings have in a field is what a document writes. -/
def Holds (s : Settings) : Field → Json → Prop
  | .windowX, v => SizeIn s.windowX v
  | .windowY, v => SizeIn s.windowY v
  | .windowW, v => SizeIn s.windowW v
  | .windowH, v => SizeIn s.windowH v
  | .serverUrl, v => v = .ofText s.serverUrl
  | .sessionId, v => v = textToJson s.sessionId
  | .consensusBuilder, v => v = .bool s.consensusBuilder
  | .startScreen, v => s.startScreen.Writing v

/-- A document that a field can be read from. -/
def WellTyped (field : Field) (v : Json) : Prop :=
  ∃ s : Settings, s.Holds field v

/-- Settings that have the same in a field. -/
def AgreeAt (s t : Settings) : Field → Prop
  | .windowX => s.windowX = t.windowX
  | .windowY => s.windowY = t.windowY
  | .windowW => s.windowW = t.windowW
  | .windowH => s.windowH = t.windowH
  | .serverUrl => s.serverUrl = t.serverUrl
  | .sessionId => s.sessionId = t.sessionId
  | .consensusBuilder => s.consensusBuilder = t.consensusBuilder
  | .startScreen => s.startScreen = t.startScreen

/-- Settings with one field taken over from others. -/
def takeOver (others s : Settings) : Field → Settings
  | .windowX => { s with windowX := others.windowX }
  | .windowY => { s with windowY := others.windowY }
  | .windowW => { s with windowW := others.windowW }
  | .windowH => { s with windowH := others.windowH }
  | .serverUrl => { s with serverUrl := others.serverUrl }
  | .sessionId => { s with sessionId := others.sessionId }
  | .consensusBuilder => { s with consensusBuilder := others.consensusBuilder }
  | .startScreen => { s with startScreen := others.startScreen }

theorem AgreeAt.symm (h : s.AgreeAt t field) : t.AgreeAt s field := by
  cases field <;> exact Eq.symm h

theorem AgreeAt.trans {u : Settings} (h : s.AgreeAt t field) (h' : t.AgreeAt u field) :
    s.AgreeAt u field := by
  cases field <;> exact Eq.trans h h'

theorem agreeAt_takeOver (s t : Settings) (field : Field) :
    s.AgreeAt (takeOver s t field) field := by
  cases field <;> rfl

theorem takeOver_agreeAt {other : Field} (h : other ≠ field) (s t : Settings) :
    (takeOver s t field).AgreeAt t other := by
  cases field <;> cases other <;> first | rfl | exact absurd rfl h

theorem takeOver_congr {u : Settings} (h : t.AgreeAt u field) :
    takeOver t s field = takeOver u s field := by
  cases field <;> simp only [takeOver, show _ = _ from h]

theorem eq_of_agreeAt (h : ∀ field, s.AgreeAt t field) : s = t := by
  obtain ⟨⟩ := s
  obtain ⟨⟩ := t
  simp only [mk.injEq]
  exact ⟨h .windowX, h .windowY, h .windowW, h .windowH, h .serverUrl, h .sessionId,
    h .consensusBuilder, h .startScreen⟩

theorem Holds.congr (h : s.AgreeAt t field) : s.Holds field v ↔ t.Holds field v := by
  cases field <;> simp only [Holds, show _ = _ from h]

theorem optional_size_iff {size : Option Single} :
    optional sizeOfJson? v = some size ↔ SizeIn size v := by
  cases v with
  | number n =>
    change n.single?.map some = some size ↔ _
    rw [Option.map_eq_some_iff]
    exact exists_congr fun x => and_comm.trans (and_congr_left fun _ => eq_comm)
  | null => simp [optional, SizeIn, eq_comm]
  | _ => simp [optional, sizeOfJson?, SizeIn]

theorem optional_text_iff {text : Option String} :
    optional Json.text? v = some text ↔ v = textToJson text := by
  cases v <;> cases text <;> simp [optional, Json.text?, textToJson, Json.ofText, eq_comm]

theorem map_eq_some_of_get {α : Type} {read : Option α} {P : α → Prop} {set : α → Settings}
    {get : Settings → α} (reads : ∀ x, read = some x ↔ P x) (own : ∀ x, get (set x) = x) :
    read.map set = some t ↔ P (get t) ∧ t = set (get t) := by
  rw [Option.map_eq_some_iff]
  constructor
  · rintro ⟨x, value, rfl⟩
    rw [own]
    exact ⟨(reads x).1 value, rfl⟩
  · rintro ⟨holds, same⟩
    exact ⟨get t, (reads _).2 holds, same.symm⟩

/-- A field is given a value exactly if the value is one of the field; nothing else changes. -/
theorem assign_eq_some_iff :
    s.assign field v = some t ↔ t.Holds field v ∧ t = takeOver t s field := by
  cases field with
  | windowX => exact map_eq_some_of_get (fun _ => optional_size_iff) fun _ => rfl
  | windowY => exact map_eq_some_of_get (fun _ => optional_size_iff) fun _ => rfl
  | windowW => exact map_eq_some_of_get (fun _ => optional_size_iff) fun _ => rfl
  | windowH => exact map_eq_some_of_get (fun _ => optional_size_iff) fun _ => rfl
  | serverUrl => exact map_eq_some_of_get (fun _ => Json.text?_eq_some_iff) fun _ => rfl
  | sessionId => exact map_eq_some_of_get (fun _ => optional_text_iff) fun _ => rfl
  | consensusBuilder => exact map_eq_some_of_get (fun _ => Json.bool?_eq_some_iff) fun _ => rfl
  | startScreen => exact map_eq_some_of_get (fun _ => Screen.ofJson?_eq_some_iff) fun _ => rfl

theorem assign_of_holds (h : t.Holds field v) (s : Settings) :
    s.assign field v = some (takeOver t s field) := by
  refine assign_eq_some_iff.2 ⟨(Holds.congr (agreeAt_takeOver t s field)).1 h, ?_⟩
  cases field <;> rfl

/-- `null` is a value of the sizes and of the session. -/
theorem wellTyped_null_iff : WellTyped field .null ↔
    field ∈ [.windowX, .windowY, .windowW, .windowH, .sessionId] := by
  cases field with
  | serverUrl => exact iff_of_false (fun ⟨_, h⟩ => by cases h) (by decide)
  | consensusBuilder => exact iff_of_false (fun ⟨_, h⟩ => by cases h) (by decide)
  | startScreen =>
    have other (screen : Screen) : ¬ screen.Writing .null := by rintro ⟨⟩
    exact iff_of_false (fun ⟨_, h⟩ => other _ h) (by decide)
  | _ => exact iff_of_true ⟨default, rfl⟩ (by decide)

/-! ## Settings with some fields replaced -/

/-- Settings that come from others by replacing exactly the listed fields, each once. -/
structure Overrides (fields : List (Field × Json)) (s t : Settings) : Prop where
  once : (fields.map Prod.fst).Nodup
  holds : ∀ p ∈ fields, t.Holds p.1 p.2
  others : ∀ field ∉ fields.map Prod.fst, t.AgreeAt s field

variable {fields : List (Field × Json)}

theorem overrides_nil : Overrides [] s t ↔ t = s := by
  constructor
  · intro h
    exact eq_of_agreeAt fun field => h.others field List.not_mem_nil
  · rintro rfl
    exact ⟨List.nodup_nil, List.forall_mem_nil _, fun field _ => by cases field <;> rfl⟩

theorem overrides_cons : Overrides ((field, v) :: fields) s t ↔
    field ∉ fields.map Prod.fst ∧ t.Holds field v ∧ Overrides fields (takeOver t s field) t := by
  constructor
  · rintro ⟨once, holds, others⟩
    obtain ⟨new, once⟩ := List.nodup_cons.1 once
    obtain ⟨first, holds⟩ := List.forall_mem_cons.1 holds
    refine ⟨new, first, once, holds, fun other absent => ?_⟩
    by_cases same : other = field
    · rw [same]
      exact agreeAt_takeOver t s field
    · have apart : other ∉ ((field, v) :: fields).map Prod.fst := by
        rw [List.map_cons, List.mem_cons]
        exact not_or.2 ⟨same, absent⟩
      exact (others other apart).trans (takeOver_agreeAt same t s).symm
  · rintro ⟨new, first, once, holds, others⟩
    refine ⟨List.nodup_cons.2 ⟨new, once⟩, List.forall_mem_cons.2 ⟨first, holds⟩, ?_⟩
    intro other absent
    obtain ⟨apart, absent⟩ := not_or.1 (mt List.mem_cons.2 absent)
    exact (others other absent).trans (takeOver_agreeAt apart t s)

/-- A field that is given a value is the first of those that are replaced. -/
theorem overrides_cons_of_assign {u : Settings} (assigned : s.assign field v = some u)
    (new : field ∉ fields.map Prod.fst) :
    Overrides ((field, v) :: fields) s t ↔ Overrides fields u t := by
  obtain ⟨holds, same⟩ := assign_eq_some_iff.1 assigned
  rw [overrides_cons]
  constructor
  · rintro ⟨-, holds, overrides⟩
    rwa [Option.some.inj (assigned.symm.trans (assign_of_holds holds s))]
  · intro overrides
    have agree := overrides.others field new
    rw [same, ← takeOver_congr agree] at overrides
    exact ⟨new, (Holds.congr agree).2 holds, overrides⟩

theorem not_overrides_cons (unassigned : s.assign field v = none) :
    ¬ Overrides ((field, v) :: fields) s t := by
  intro h
  obtain ⟨-, holds, -⟩ := overrides_cons.1 h
  cases unassigned.symm.trans (assign_of_holds holds s)

theorem Overrides.perm {others : List (Field × Json)} (h : Overrides fields s t)
    (same : fields.Perm others) : Overrides others s t where
  once := (same.map Prod.fst).nodup_iff.1 h.once
  holds := fun p listed => h.holds p (same.mem_iff.2 listed)
  others := fun field absent => h.others field fun listed =>
    absent ((same.map Prod.fst).mem_iff.1 listed)

/-- Values of their fields can replace what settings have in these fields. -/
theorem exists_overrides (once : (fields.map Prod.fst).Nodup)
    (typed : ∀ p ∈ fields, WellTyped p.1 p.2) (s : Settings) : ∃ t, Overrides fields s t := by
  induction fields generalizing s with
  | nil => exact ⟨s, overrides_nil.2 rfl⟩
  | cons p fields ih =>
    obtain ⟨new, once⟩ := List.nodup_cons.1 once
    obtain ⟨⟨u, holds⟩, typed⟩ := List.forall_mem_cons.1 typed
    obtain ⟨t, overrides⟩ := ih once typed (takeOver u s p.1)
    have agree : t.AgreeAt u p.1 :=
      (overrides.others p.1 new).trans (agreeAt_takeOver u s p.1).symm
    refine ⟨t, overrides_cons.2 ⟨new, (Holds.congr agree).2 holds, ?_⟩⟩
    rwa [takeOver_congr agree]

end Settings

end WalletWatch
