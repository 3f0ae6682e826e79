import WalletWatch.Proofs.Loading
import WalletWatch.Proofs.Numeral.Single
import WalletWatch.Proofs.Settings
/-!
# Sizes are loaded as they were saved

A size is written with a shortest decimal that names it among the 32-bit numbers, or as a zero with
its sign. This numeral is read as a 64-bit number and rounded to 32 bits, and what comes back is the
size (`Settings.exists_numeral`). So all sizes that are finite survive, whatever they are, and
settings that were loaded are loaded the same again after they were saved (`Store.sizes_survive`).
-/

namespace WalletWatch

open Binary

namespace Settings

/-- How a finite size is written. -/
inductive Spelling : Single → Numeral → Prop
  | zero (negative : Bool) : Spelling (.zero single negative) ⟨negative, 0, [0], none⟩
  | shortest {negative : Bool} {m : Nat} {e : Int} {h : single.Canonical m e} {d : Decimal}
      (nonzero : m ≠ 0) (shortest : d.IsShortest negative (.finite negative m e h)) :
      Spelling (.finite negative m e h) (.ofDecimal sizeLayout negative d)

theorem exists_double?_zero (negative : Bool) : ∃ v : Double,
    Numeral.double? ⟨negative, 0, [0], none⟩ = some v ∧
      v.convert single = .zero single negative := by
  have wide : (0 : ℚ) = value 0 double.low := (value_eq_zero.2 rfl).symm
  have size := Numeral.size?_whole negative (by decide) double.canonical_zero
    (show value 0 double.low = (0 : Nat) from wide.symm)
  rw [Numeral.double?, size]
  cases negative with
  | false => exact ⟨_, rfl, rfl⟩
  | true => exact ⟨_, rfl, rfl⟩

/-- **A finite size is written with a numeral that is read as the size**: as a 64-bit number first,
which is rounded to 32 bits. -/
theorem exists_numeral {size : Single} (finite : size.isFinite = true) :
    ∃ numeral v, sizeToJson (some size) = .number numeral ∧ Spelling size numeral ∧
      numeral.isWord = false ∧ numeral.double? = some v ∧ v.convert single = size := by
  match size with
  | .finite negative m e h =>
    rw [sizeToJson, Option.bind_some, Numeral.ofSingle?]
    by_cases zero : m = 0
    · subst zero
      obtain rfl : e = single.low := h.2.2.2.resolve_left (by decide)
      obtain ⟨v, read, back⟩ := exists_double?_zero negative
      exact ⟨_, v, rfl, .zero negative, rfl, read, back⟩
    · have positive := Nat.pos_of_ne_zero zero
      obtain ⟨v, read, back⟩ := Numeral.exists_double?_shortest negative
        (show sizeLayout.greatest ≤ 13 by decide) h positive
      rw [if_neg zero]
      exact ⟨_, v, rfl, .shortest zero (Format.isShortest_shortest negative h (by decide) positive
        single_enough), Numeral.isWord_ofDecimal _ _ _, read, back⟩

/-- What is written for a size is read as what is kept of it. -/
theorem returns (size : Option Single) : Returns size := by
  match size with
  | none => rfl
  | some (.infinite _) => rfl
  | some .nan => rfl
  | some (.finite negative m e h) =>
    obtain ⟨numeral, v, written, -, unword, read, back⟩ :=
      exists_numeral (show Number.isFinite (.finite negative m e h) = true from rfl)
    have value : numeral.single? = some (.finite negative m e h) := by
      rw [Numeral.single?, unword, read, ← back]
      rfl
    rw [Returns, written]
    exact congrArg (Option.map some) value

theorem kept_kept (s : Settings) : s.kept.kept = s.kept := by
  have same (size : Option Single) : keptSize (keptSize size) = keptSize size := by
    rw [keptSize, keptSize, Option.filter_filter]
    simp only [Bool.and_self]
  simp only [kept, same]

end Settings

namespace Store

open Settings

/-- Whatever sizes are saved, all that is kept of the settings is loaded. -/
theorem load_saved {store : Store} (present : store.present = true) (s : Settings) :
    (store.save s).1.load = (s.kept, .settingsLoaded) := by
  refine load_of_read? ?_ (read?_write_of_returns fun size _ => returns size)
  rw [save, if_pos present]
  exact text?_ofText s.write

theorem present_saved {store : Store} (present : store.present = true) (s : Settings) :
    (store.save s).1.present = true := by
  rw [save, if_pos present]
  exact present

/-- **Sizes survive.** Whatever sizes are saved, loading gives back those that are finite, with
their signs, and loading what is saved again gives the same; the numeral that is written for a size
names it, with as few digits as can be, and is read as the size through a 64-bit number. -/
theorem sizes_survive {store : Store} (present : store.present = true) (s : Settings) :
    let saved := (store.save s).1
    saved.load = (s.kept, .settingsLoaded)
      ∧ (saved.save saved.load.1).1.load = saved.load
      ∧ ((∀ size, some size ∈ s.sizes → size.isFinite = true) → saved.load.1 = s)
      ∧ ∀ size, some size ∈ s.sizes → size.isFinite = true →
          keptSize (some size) = some size ∧ ∃ numeral v,
            sizeToJson (some size) = .number numeral ∧ Spelling size numeral ∧
              numeral.double? = some v ∧ v.convert single = size := by
  intro saved
  have loaded : saved.load = (s.kept, .settingsLoaded) := load_saved present s
  refine ⟨loaded, ?_, fun finite => ?_, fun size _ finite => ⟨?_, ?_⟩⟩
  · rw [loaded, load_saved (present_saved present s), kept_kept]
  · rw [loaded]
    exact kept_eq finite
  · exact Option.filter_some_pos finite
  · obtain ⟨numeral, v, written, spelling, -, read, back⟩ := exists_numeral finite
    exact ⟨numeral, v, written, spelling, read, back⟩

/-- The size whose decimal comes nearest to a midpoint, a negative zero, the least size and the
greatest one. -/
theorem sizes_survive_near_midpoint :
    let size : Single := .finite false 11420669 (-107) (by decide)
    let s : Settings :=
      { Settings.default with
        windowX := some size
        windowY := some (.finite true 0 (-149) (by decide))
        windowW := some (.finite true 1 (-149) (by decide))
        windowH := some (.finite false 16777215 104 (by decide)) }
    empty.present = true ∧ (empty.save s).1.load = (s, .settingsLoaded)
      ∧ sizeToJson (some size) = .number ⟨false, 7, [0, 3, 8, 5, 3, 1], some (-26)⟩ := by
  intro size s
  have finite : ∀ size, some size ∈ s.sizes → size.isFinite = true := by
    simp [sizes, s, size, Number.isFinite]
  obtain ⟨loaded, -, same, -⟩ := sizes_survive (show empty.present = true from rfl) s
  have written : Numeral.ofSingle? sizeLayout size =
      some ⟨false, 7, [0, 3, 8, 5, 3, 1], some (-26)⟩ := by
    decide +kernel
  refine ⟨rfl, Prod.ext (same finite) (congrArg Prod.snd loaded), ?_⟩
  rw [sizeToJson, Option.bind_some, written]
  rfl

end Store

end WalletWatch
