import WalletWatch.Proofs.Json.RoundTrip
import WalletWatch.Proofs.Numeral.Whole
import WalletWatch.Proofs.Settings.Members
import WalletWatch.Settings.Store
/-!
# Settings are loaded as they were saved

What is written for a field is what comes back of it (`Settings.holds_valueOf`), and a written
document has all fields, so it replaces all of them (`Settings.overrides_valueOf`). Sizes that are
not finite are the exception: they are written as missing. With sizes that are whole numbers, which
their numerals write exactly, loading gives what was saved, up to this exception
(`Store.load_save`).
-/

namespace WalletWatch

open Binary

namespace Binary.Number

def isFinite {f : Format} : Number f → Bool
  | .finite .. => true
  | _ => false

end Binary.Number

namespace Screen

theorem ofJson?_toJson (screen : Screen) : ofJson? screen.toJson = some screen := by
  cases screen with
  | bootstrapper => rfl
  | consensusBuilder => rfl
  | wallet lastPage => rfl

end Screen

namespace Settings

/-! ## Sizes -/

/-- A size that is missing, that is not finite, or that is a whole number below `2 ^ 24`, with
either sign. -/
def WholeSize : Option Single → Prop
  | some (.finite _ significand exponent _) =>
    ∃ k < twoPow 24, value significand exponent = (k : ℚ)
  | _ => True

/-- What comes back of a size: one that is not finite is not kept. -/
def keptSize (size : Option Single) : Option Single :=
  size.filter Number.isFinite

theorem sizeToJson_keptSize (size : Option Single) :
    sizeToJson (keptSize size) = sizeToJson size := by
  match size with
  | none => rfl
  | some (.finite ..) => rfl
  | some (.infinite _) => rfl
  | some .nan => rfl

/-- Whether what is written for a size is read as what is kept of it. -/
def Returns (size : Option Single) : Prop :=
  optional sizeOfJson? (sizeToJson size) = some (keptSize size)

theorem returns_of_wholeSize {size : Option Single} (h : WholeSize size) : Returns size := by
  match size with
  | none => rfl
  | some (.finite negative significand exponent canonical) =>
    obtain ⟨k, small, whole⟩ := h
    have written := Numeral.ofSingle?_whole sizeLayout negative (by decide) (by decide) canonical
      whole small
    have read := Numeral.single?_whole negative canonical whole small
    rw [Returns, sizeToJson, Option.bind_some, written]
    exact congrArg (Option.map some) read
  | some (.infinite _) => rfl
  | some .nan => rfl

/-! ## Fields -/

/-- The four sizes. -/
def sizes (s : Settings) : List (Option Single) :=
  [s.windowX, s.windowY, s.windowW, s.windowH]

/-- What comes back of settings: all of them, except for sizes that are not finite. -/
def kept (s : Settings) : Settings :=
  { s with
    windowX := keptSize s.windowX
    windowY := keptSize s.windowY
    windowW := keptSize s.windowW
    windowH := keptSize s.windowH }

variable {s : Settings}

/-- What is written for a field is what comes back of it. -/
theorem holds_valueOf (returns : ∀ size ∈ s.sizes, Returns size) (field : Field) :
    s.kept.Holds field (s.valueOf field) := by
  have size {size : Option Single} (h : size ∈ s.sizes) :=
    optional_size_iff.1 (returns size h)
  cases field with
  | windowX => exact size (by simp [sizes])
  | windowY => exact size (by simp [sizes])
  | windowW => exact size (by simp [sizes])
  | windowH => exact size (by simp [sizes])
  | serverUrl => rfl
  | sessionId => rfl
  | consensusBuilder => rfl
  | startScreen => exact Screen.ofJson?_eq_some_iff.1 (Screen.ofJson?_toJson _)

/-- A document with all fields replaces all of them. -/
theorem overrides_valueOf (returns : ∀ size ∈ s.sizes, Returns size) (t : Settings) :
    Overrides (Field.all.map fun field => (field, s.valueOf field)) t s.kept where
  once := by
    have same : (Field.all.map fun field => (field, s.valueOf field)).map Prod.fst = Field.all := rfl
    rw [same]
    decide
  holds := List.forall_mem_map.2 fun field _ => holds_valueOf returns field
  others := fun field absent => by cases field <;> exact absurd (by simp [Field.all]) absent

theorem read?_write_of_returns (returns : ∀ size ∈ s.sizes, Returns size) :
    read? s.write = some s.kept := by
  rw [read?, write, Json.read?_pretty, Option.bind_some, toJson, ofJson?_object_eq_some_iff]
  refine ⟨List.forall_mem_map.2 fun _ _ => Option.some_ne_none _, ?_⟩
  have same := given_known (Field.all.map fun field => (field, s.valueOf field))
  rw [List.map_map] at same
  exact same.symm ▸ overrides_valueOf returns default

theorem read?_write (whole : ∀ size ∈ s.sizes, WholeSize size) : read? s.write = some s.kept :=
  read?_write_of_returns fun size member => returns_of_wholeSize (whole size member)

theorem write_kept (s : Settings) : s.kept.write = s.write := by
  have same (field : Field) : s.kept.valueOf field = s.valueOf field := by
    cases field <;> first | rfl | exact sizeToJson_keptSize _
  rw [write, write, toJson, toJson, funext same]

theorem kept_eq (finite : ∀ size, some size ∈ s.sizes → size.isFinite = true) : s.kept = s := by
  have same {size : Option Single} (h : size ∈ s.sizes) : keptSize size = size := by
    cases size with
    | none => rfl
    | some size => exact Option.filter_some_pos (finite size h)
  rw [kept, same (by simp [sizes]), same (by simp [sizes]), same (by simp [sizes]),
    same (by simp [sizes])]

end Settings

namespace Store

open Settings

/-- **Settings are loaded as they were saved**, whatever texts they hold: what is saved is always
accepted, only a size that is not finite comes back as missing, and saving what was loaded writes
the same file again. -/
theorem load_save {store : Store} {s : Settings} (present : store.present = true)
    (whole : ∀ size ∈ s.sizes, WholeSize size) :
    let saved := (store.save s).1
    saved.load = (s.kept, .settingsLoaded)
      ∧ ((∀ size, some size ∈ s.sizes → size.isFinite = true) → saved.load.1 = s)
      ∧ (saved.save saved.load.1).1 = saved := by
  intro saved
  have same : saved = { store with file := some s.write.toUTF8 } := by
    rw [show saved = (store.save s).1 from rfl, save, if_pos present]
  have text : saved.text? = some s.write := by
    rw [same]
    exact text?_ofText s.write
  have loaded : saved.load = (s.kept, .settingsLoaded) := by
    rw [load, text]
    simp only [read?_write whole]
  refine ⟨loaded, fun finite => ?_, ?_⟩
  · rw [loaded]
    exact kept_eq finite
  · rw [loaded, same, save, if_pos present, write_kept]

/-- Quotes, a backslash, control characters, a character beyond the first plane, an empty text, a
negative zero and an infinity. -/
theorem load_save_unusual :
    let s : Settings :=
      { windowX := some (.finite true 0 (-149) (by decide))
        windowY := some (.finite false 16711680 (-8) (by decide))
        windowW := some (.infinite true)
        windowH := none
        serverUrl := "\"\\\n\u0007é🦞"
        sessionId := some ""
        consensusBuilder := false
        startScreen := .wallet false }
    let t : Settings := { s with windowW := none }
    (empty.save s).1.load = (t, .settingsLoaded) ∧ (empty.save t).1.load.1 = t := by
  intro s t
  have first : WholeSize s.windowX := ⟨0, by decide, value_eq_zero.2 rfl⟩
  have second : WholeSize s.windowY := ⟨65280, by decide, by norm_num [value]⟩
  have whole : ∀ size ∈ s.sizes, WholeSize size := by
    simp only [sizes, List.forall_mem_cons]
    exact ⟨first, second, trivial, trivial, List.forall_mem_nil _⟩
  have whole' : ∀ size ∈ t.sizes, WholeSize size := by
    simp only [sizes, List.forall_mem_cons]
    exact ⟨first, second, trivial, trivial, List.forall_mem_nil _⟩
  have finite : ∀ size, some size ∈ t.sizes → size.isFinite = true := by
    simp [sizes, t, s, Number.isFinite]
  exact ⟨(load_save rfl whole).1, (load_save rfl whole').2.1 finite⟩

end Store

end WalletWatch
