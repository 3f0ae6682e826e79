import Mathlib.Data.List.Forall2
import WalletWatch.Poll.Landing
/-!
# Renderings of a screen

What writing leaves of a template. Texts and values may change, and the class name of the status
element takes up the colours that the server sends, whatever text these are. Everything else stays:
how many elements there are, in which order, and by which ids and classes they are found
(`Element.Fits`). A page renders its screen in this sense until it is shut down, and then it is empty
(`Page.Renders`).
-/

namespace WalletWatch

/-- An element is what the template has at its place, but for text and value. The status element may
carry a colour that was sent. -/
structure Element.Fits (sent : String → Prop) (template e : Element) : Prop where
  kind : e.kind = template.kind
  id : e.id = template.id
  label : e.label = template.label
  className : e.className = template.className ∨
    (template.className = ClassName.status ∧ ∃ tag, sent tag ∧ e.className = Page.statusClass tag)

namespace Element.Fits

variable {sent : String → Prop} {template e : Element}

theorem refl (sent : String → Prop) (e : Element) : e.Fits sent e :=
  ⟨rfl, rfl, rfl, .inl rfl⟩

/-- More colours may have been sent. -/
theorem mono {sent' : String → Prop} (more : ∀ tag, sent tag → sent' tag)
    (h : template.Fits sent e) : template.Fits sent' e := by
  refine ⟨h.kind, h.id, h.label, ?_⟩
  rcases h.className with same | ⟨ht, tag, hs, he⟩
  · exact .inl same
  · exact .inr ⟨ht, tag, more tag hs, he⟩

/-- Writing a text does not change what an element fits. -/
theorem setText (h : template.Fits sent e) (text : String) :
    template.Fits sent { e with text } := ⟨h.kind, h.id, h.label, h.className⟩

/-- Writing a value does not change what an element fits. -/
theorem setValue (h : template.Fits sent e) (value : String) :
    template.Fits sent { e with value } := ⟨h.kind, h.id, h.label, h.className⟩

/-- The element that carries the status class still does with a colour that was sent. -/
theorem setStatusClass (h : template.Fits sent e)
    (only : template.hasClass ClassName.status = true → template.className = ClassName.status)
    (he : e.hasClass ClassName.status = true) {tag : String} (hs : sent tag) :
    template.Fits sent { e with className := Page.statusClass tag } := by
  refine ⟨h.kind, h.id, h.label, .inr ⟨?_, tag, hs, rfl⟩⟩
  rcases h.className with same | ⟨ht, -⟩
  · apply only
    rwa [Element.hasClass, ← same]
  · exact ht

end Element.Fits

/-! ## Lists of elements -/

/-- Changing the first item of some kind keeps what every change of an item keeps. -/
theorem forall₂_updateFirst {α β : Type} {R : β → α → Prop} {test : α → Bool} {change : α → α}
    (keep : ∀ t a, R t a → R t (change a)) :
    ∀ {ts : List β} {as : List α}, List.Forall₂ R ts as →
      List.Forall₂ R ts (updateFirst test change as)
  | _, _, .nil => .nil
  | _, _, .cons (b := a) h rest => by
    simp only [updateFirst]
    split
    · exact .cons (keep _ _ h) rest
    · exact .cons h (forall₂_updateFirst keep rest)

/-- What stands in the second list stands opposite something in the first. -/
theorem exists_mem_of_forall₂ {α β : Type} {R : β → α → Prop} {ts : List β} {as : List α}
    (h : List.Forall₂ R ts as) {a : α} (ha : a ∈ as) : ∃ t ∈ ts, R t a := by
  induction h with
  | nil => cases ha
  | cons first rest ih =>
    rcases List.mem_cons.1 ha with rfl | ha
    · exact ⟨_, List.mem_cons_self, first⟩
    · obtain ⟨t, ht, fits⟩ := ih ha
      exact ⟨t, List.mem_cons_of_mem _ ht, fits⟩

namespace Screen

/-- What holds of the elements of the four templates holds of those of every screen. -/
theorem forall_elements {P : Element → Prop} (s : Screen)
    (bootstrapper : ∀ t ∈ elements .bootstrapper, P t)
    (consensusBuilder : ∀ t ∈ elements .consensusBuilder, P t)
    (last : ∀ t ∈ elements (.wallet true), P t) (earlier : ∀ t ∈ elements (.wallet false), P t) :
    ∀ t ∈ s.elements, P t := by
  rcases s with _ | _ | lastPage
  · exact bootstrapper
  · exact consensusBuilder
  · cases lastPage
    · exact earlier
    · exact last

end Screen

namespace Page

/-- What is to be found on a page that shows a screen. -/
def plan (s : Screen) (shutdown : Bool) : List Element :=
  if shutdown then [] else s.elements

/-- In a template only the status element carries the status class, and no other. -/
theorem status_of_mem_plan {s : Screen} {shutdown : Bool} {t : Element} (h : t ∈ plan s shutdown)
    (ht : t.hasClass ClassName.status = true) : t.className = ClassName.status := by
  have all : ∀ t ∈ s.elements, t.hasClass ClassName.status = true →
      t.className = ClassName.status :=
    s.forall_elements (by decide) (by decide) (by decide) (by decide)
  unfold plan at h
  split at h
  · cases h
  · exact all t h ht

/-- A page shows a screen: it has the forms and the elements of the screen, or nothing if it is shut
down. -/
structure Renders (sent : String → Prop) (s : Screen) (p : Page) : Prop where
  screen : p.screen = some s
  forms : p.forms = if p.shutdown then [] else s.forms
  elements : List.Forall₂ (Element.Fits sent) (plan s p.shutdown) p.elements
  outbox : p.shutdown = true → p.outbox = []

namespace Renders

variable {sent : String → Prop} {s : Screen} {p : Page}

theorem mono {sent' : String → Prop} (more : ∀ tag, sent tag → sent' tag)
    (h : p.Renders sent s) : p.Renders sent' s :=
  ⟨h.screen, h.forms, h.elements.imp fun _ _ hf => hf.mono more, h.outbox⟩

/-- A page that is shut down has nothing on it. -/
theorem empty (h : p.Renders sent s) (hs : p.shutdown = true) :
    p.elements = [] ∧ p.forms = [] ∧ p.outbox = [] := by
  have elements := h.elements
  have forms := h.forms
  simp only [plan, hs, if_true, List.forall₂_nil_left_iff] at elements forms
  exact ⟨elements, forms, h.outbox hs⟩

theorem forms_of_open (h : p.Renders sent s) (hs : p.shutdown = false) : p.forms = s.forms := by
  simpa [hs] using h.forms

/-- A class that is found on a page is one of its template, unless the status element has it. -/
theorem template_of_hasClass (h : p.Renders sent s) {className : String}
    (found : p.hasClass className = true) :
    ∃ t ∈ plan s p.shutdown, t.hasClass className = true ∨ t.className = ClassName.status := by
  obtain ⟨e, he, carries⟩ := List.any_eq_true.1 found
  obtain ⟨t, ht, fits⟩ := exists_mem_of_forall₂ h.elements he
  refine ⟨t, ht, ?_⟩
  rcases fits.className with same | ⟨status, -⟩
  · left
    rwa [Element.hasClass, ← same]
  · exact .inr status

/-- Only a wallet shows the height of the chain. -/
theorem wallet_of_blockHeight (h : p.Renders sent s)
    (shown : p.hasClass ClassName.blockHeight = true) : ∃ lastPage, s = .wallet lastPage := by
  obtain ⟨t, ht, carries⟩ := h.template_of_hasClass shown
  have onboarding : ∀ s : Screen, s = .bootstrapper ∨ s = .consensusBuilder → ∀ t ∈ s.elements,
      ¬ (t.hasClass ClassName.blockHeight = true ∨ t.className = ClassName.status) := by
    rintro s (rfl | rfl) <;> decide
  unfold plan at ht
  split at ht
  · cases ht
  · cases s with
    | bootstrapper => exact absurd carries (onboarding _ (.inl rfl) t ht)
    | consensusBuilder => exact absurd carries (onboarding _ (.inr rfl) t ht)
    | wallet lastPage => exact ⟨lastPage, rfl⟩

/-! ## Writing -/

/-- A change of elements that keeps what they fit keeps what the page shows. -/
theorem updateClass (h : p.Renders sent s) (className : String) {change : Element → Element}
    (keep : ∀ t ∈ plan s p.shutdown, ∀ e, t.Fits sent e → e.hasClass className = true →
      t.Fits sent (change e)) :
    (p.updateClass className change).Renders sent s := by
  refine ⟨h.screen, h.forms, ?_, h.outbox⟩
  refine List.forall₂_map_right_iff.2 ?_
  have both : List.Forall₂ (fun t e => t ∈ plan s p.shutdown ∧ t.Fits sent e)
      (plan s p.shutdown) p.elements :=
    (List.forall₂_and_left _ _).2 ⟨fun _ ht => ht, h.elements⟩
  refine both.imp ?_
  rintro t e ⟨ht, hf⟩
  split
  · next he => exact keep t ht e hf he
  · exact hf

theorem writeText (h : p.Renders sent s) (className text : String) :
    (p.writeText className text).Renders sent s :=
  h.updateClass className fun _ _ _ hf _ => hf.setText text

theorem writeStatusClass (h : p.Renders sent s) {tag : String} (hs : sent tag) :
    (p.writeClassName ClassName.status (statusClass tag)).Renders sent s :=
  h.updateClass ClassName.status fun _ ht _ hf he =>
    hf.setStatusClass (status_of_mem_plan ht) he hs

theorem writeTextOf (h : p.Renders sent s) (id text : String) :
    (p.writeTextOf id text).Renders sent s :=
  ⟨h.screen, h.forms, forall₂_updateFirst (fun _ _ hf => hf.setText text) h.elements, h.outbox⟩

theorem writeValueOf (h : p.Renders sent s) (id value : String) :
    (p.writeValueOf id value).Renders sent s :=
  ⟨h.screen, h.forms, forall₂_updateFirst (fun _ _ hf => hf.setValue value) h.elements, h.outbox⟩

theorem touch (h : p.Renders sent s) (now : Int) : (p.touch now).Renders sent s :=
  ⟨h.screen, h.forms, h.elements, h.outbox⟩

theorem showHeight (h : p.Renders sent s) {r : HeightReport} (hs : sent r.tag) :
    (p.showHeight r).Renders sent s :=
  ((h.writeText _ _).writeText _ _).writeStatusClass hs

theorem showUnconfirmed (h : p.Renders sent s) (r : BalanceReport) :
    (p.showUnconfirmed r).Renders sent s :=
  (((h.writeText _ _).writeText _ _).writeTextOf _ _).writeValueOf _ _

/-! ## Forms and screens -/

/-- A page that takes a form still shows what it showed, as long as it is not shut down. -/
theorem setOutbox (h : p.Renders sent s) {outbox : List Submission}
    (he : p.shutdown = true → outbox = []) : ({ p with outbox } : Page).Renders sent s :=
  ⟨h.screen, h.forms, h.elements, he⟩

theorem shutDown (h : p.Renders sent s) : p.shutDown.Renders sent s :=
  ⟨h.screen, rfl, .nil, fun _ => rfl⟩

/-- A screen that is loaded is shown, unless the page is shut down. -/
theorem load (h : p.Renders sent s) (next : Screen) :
    (p.load next).Renders sent (if p.shutdown then s else next) := by
  unfold Page.load
  cases hs : p.shutdown with
  | true => simpa using h
  | false =>
    refine ⟨rfl, by simp, ?_, by simp⟩
    simp only [plan, Bool.false_eq_true, if_false]
    exact List.forall₂_same.2 fun e _ => Element.Fits.refl sent e

end Renders

theorem renders_ofScreen (sent : String → Prop) (s : Screen) : (ofScreen s).Renders sent s :=
  ⟨rfl, rfl, List.forall₂_same.2 fun e _ => Element.Fits.refl sent e, fun _ => rfl⟩

end Page

end WalletWatch
