import Mathlib.Data.List.Nodup
import WalletWatch.Proofs.Json.RoundTrip
import WalletWatch.Proofs.Settings.Members
import WalletWatch.Settings.Store
/-!
# Loading settings is all or nothing

A file either gives the default settings with the listed fields replaced, in whatever order and with
whatever white space it lists them, or the default settings themselves
(`Store.load_all_or_nothing`).
-/

namespace WalletWatch

namespace Settings

theorem read?_eq_some_iff {t : Settings} {text : String} :
    read? text = some t ↔ ∃ v, Json.Document v text.toList ∧ ofJson? v = some t := by
  simp only [read?, Option.bind_eq_some_iff, Json.read?_eq_some_iff]

end Settings

namespace Store

open Settings Json

variable {store : Store} {text : String} {s : Settings}

theorem load_of_read? (h : store.text? = some text) (read : Settings.read? text = some s) :
    store.load = (s, .settingsLoaded) := by
  rw [load, h]
  simp only [read]

theorem load_of_unreadable (h : store.text? = some text)
    (faulty : ∀ v s, Document v text.toList → Settings.ofJson? v ≠ some s) :
    store.load = (.default, .settingsUnreadable) := by
  have nothing : Settings.read? text = none :=
    Option.eq_none_iff_forall_ne_some.2 fun s read => by
      obtain ⟨v, document, settings⟩ := Settings.read?_eq_some_iff.1 read
      exact faulty v s document settings
  rw [load, h]
  simp only [nothing]

theorem load_of_faulty_members {members : List (Option String × Json)}
    (h : store.text? = some text) (document : Document (.object members) text.toList)
    (faulty : ∀ s, ¬ Overrides (given members) .default s) :
    store.load = (.default, .settingsUnreadable) := by
  refine load_of_unreadable h fun v s document' settings => ?_
  obtain rfl := document'.unique document
  exact faulty s (ofJson?_object_eq_some_iff.1 settings).2

/-- **Loading settings is all or nothing.** Values of different fields can always replace those of
the default settings. An object loads as the default settings with exactly the listed fields
replaced, whatever other members it has and in whatever order and with whatever white space it is
written. And no field is taken over from a text that is no document, that goes on after the
document, or that has a known key twice or with a value of another kind; `null` is such a value
except for the sizes and the session. -/
theorem load_all_or_nothing :
    (∀ known : List (Field × Json), (known.map Prod.fst).Nodup →
      (∀ p ∈ known, WellTyped p.1 p.2) → ∃ s, Overrides known .default s) ∧
    (∀ known s (unknown : List (String × Json)) members text (store : Store),
      Overrides known .default s → (∀ p ∈ unknown, ∀ field : Field, p.1 ≠ field.key) →
      members.Perm ((known.map fun p => (some p.1.key, p.2)) ++
        unknown.map fun p => (some p.1, p.2)) →
      Document (.object members) text.toList → store.text? = some text →
      store.load = (s, .settingsLoaded)) ∧
    (∀ (store : Store) text, store.text? = some text →
      let refused := store.load = (.default, .settingsUnreadable)
      ((∀ v, ¬ Document v text.toList) → refused) ∧
      (∀ v cs ds, text.toList = cs ++ ds → Document v cs → ¬ Gap ds → refused) ∧
      ∀ members, Document (.object members) text.toList →
        (∀ field : Field, 2 ≤ members.countP (·.1 == some field.key) → refused) ∧
        ∀ (field : Field) v, (some field.key, v) ∈ members → ¬ WellTyped field v → refused) ∧
    ∀ field, WellTyped field .null ↔
      field ∈ [.windowX, .windowY, .windowW, .windowH, .sessionId] := by
  refine ⟨fun known once typed => exists_overrides once typed .default, ?_, ?_,
    fun _ => wellTyped_null_iff⟩
  · intro known s unknown members text store overrides other order document kept
    have texts : ∀ member ∈ members, member.1 ≠ none := fun member listed => by
      rcases List.mem_append.1 (order.mem_iff.1 listed) with listed | listed
      all_goals
        obtain ⟨p, -, rfl⟩ := List.mem_map.1 listed
        exact Option.some_ne_none _
    refine load_of_read? kept (Settings.read?_eq_some_iff.2 ⟨_, document, ?_⟩)
    exact ofJson?_object_eq_some_iff.2 ⟨texts, overrides.perm (given_perm other order).symm⟩
  · intro store text kept refused
    refine ⟨fun faulty => ?_, fun v cs ds whole document later => ?_, fun members document => ?_⟩
    · exact load_of_unreadable kept fun v _ document => absurd document (faulty v)
    · refine load_of_unreadable kept fun w s document' settings => ?_
      rw [whole, ← String.toList_ofList (l := cs ++ ds)] at document'
      obtain ⟨m, rfl⟩ := number_of_trailing document later (Json.read?_eq_some_iff.2 document')
      cases settings
    · refine ⟨fun field twice => load_of_faulty_members kept document fun s overrides => ?_,
        fun field v listed other => load_of_faulty_members kept document fun s overrides => ?_⟩
      · have once := List.nodup_iff_count_le_one.1 overrides.once field
        rw [count_given] at once
        omega
      · exact other ⟨s, overrides.holds _ (mem_given listed)⟩

/-- An id, a position that is missing and a wallet behind two members with one unknown key, one of
them an array with an object whose key is half of a surrogate pair; and the same members with one of
them given again. -/
theorem load_all_or_nothing_among_others :
    let screen : Json := .object [(some "wallet", .object [(some "color", .null),
      (some "last_page", .bool false)])]
    let known : List (Field × Json) :=
      [(.sessionId, .ofText "a"), (.windowX, .null), (.startScreen, screen)]
    let unknown : List (String × Json) :=
      [("theme", .array [.object [(none, .number ⟨true, 1, [5], some 400⟩)]]), ("theme", .null)]
    let members : List (Option String × Json) := (unknown.map fun p => (some p.1, p.2)) ++
      known.map fun p => (some p.1.key, p.2)
    let s : Settings :=
      { Settings.default with sessionId := some "a", startScreen := .wallet false }
    (ofText (Json.object members).pretty).load = (s, .settingsLoaded) ∧
      (ofText (Json.object ((some "start_screen", screen) :: members)).pretty).load =
        (.default, .settingsUnreadable) := by
  intro screen known unknown members s
  have document (v : Json) : Document v v.pretty.toList := Json.read?_eq_some_iff.1 (read?_pretty v)
  obtain ⟨-, taken, refused, -⟩ := load_all_or_nothing
  have wallet : Screen.Writing (.wallet false) screen := .members ⟨by simp, rfl⟩
  have overrides : Overrides known .default s := by
    refine ⟨by decide, ?_, fun field other => ?_⟩
    · simp only [known, List.forall_mem_cons]
      exact ⟨rfl, rfl, wallet, List.forall_mem_nil _⟩
    · cases field <;> first | rfl | exact absurd (by decide) other
  have theme (field : Field) : "theme" ≠ field.key := by cases field <;> decide
  have other : ∀ p ∈ unknown, ∀ field : Field, p.1 ≠ field.key := by
    simp only [unknown, List.forall_mem_cons]
    exact ⟨theme, theme, List.forall_mem_nil _⟩
  refine ⟨taken known s unknown members _ _ overrides other List.perm_append_comm
    (document _) (text?_ofText _), ?_⟩
  exact ((refused _ _ (text?_ofText _)).2.2 _ (document _)).1 .startScreen (by decide)

end Store

end WalletWatch
