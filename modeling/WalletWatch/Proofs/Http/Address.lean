import WalletWatch.Http.Client
/-!
# How an address is spelled

A text spells a URL by the name of a scheme, in letters of either case, a colon, slashes of either
direction in any number, and the rest, which names the host and the path. That is all that is read
as a URL (`Url.read?_eq_some_iff`), and a request can be made for what is read if the scheme takes
requests and the host can be written down in one (`Client.url_eq_ok_iff`).
-/

namespace WalletWatch.Http

namespace Scheme

variable {letters : List Char} {s : Scheme}

theorem ofName?_eq_some_iff :
    ofName? letters = some s ↔ letters.map Char.toLower = s.name.toList := by
  have spelled {t : Scheme} (found : ofName? letters = some t) :
      letters.map Char.toLower = t.name.toList := by
    have same := List.find?_some found
    exact (eq_of_beq same).symm
  refine ⟨spelled, fun named => ?_⟩
  have searched : (ofName? letters).isSome = true :=
    List.find?_isSome.2 ⟨s, s.mem_all, beq_of_eq named.symm⟩
  obtain ⟨t, found⟩ := Option.isSome_iff_exists.1 searched
  rw [found, name_injective (String.toList_inj.1 ((spelled found).symm.trans named))]

/-- The colon behind a name is no part of it. -/
theorem colon_notMem (named : letters.map Char.toLower = s.name.toList) : ':' ∉ letters := by
  intro member
  have lower : ':' ∈ s.name.toList := named ▸ List.mem_map_of_mem member
  revert lower
  cases s <;> decide

end Scheme

namespace Url

variable {cs rest : List Char} {scheme : Scheme} {u : Url}

/-! ## Marks -/

section

variable {mark : Char} {before : List Char}

theorem ne_of_notMem (free : mark ∉ before) : ∀ c ∈ before, (c != mark) = true :=
  fun _ member => bne_iff_ne.2 fun same => free (same ▸ member)

theorem takeWhile_ne_append (free : mark ∉ before) :
    (before ++ mark :: rest).takeWhile (· != mark) = before := by
  rw [List.takeWhile_append_of_pos (ne_of_notMem free)]
  simp

theorem after?_eq_some_iff :
    after? mark cs = some rest ↔ ∃ before, mark ∉ before ∧ cs = before ++ mark :: rest := by
  constructor
  · intro found
    unfold after? at found
    split at found
    · cases found
    · next c _ cut =>
      obtain rfl := Option.some.inj found
      obtain ⟨before, own, other, marked⟩ := Text.dropWhile_eq_iff.1 cut
      have same : c = mark := by simpa using marked c rfl
      exact ⟨before, fun member => by simpa using other mark member, same ▸ own⟩
  · rintro ⟨before, free, rfl⟩
    rw [after?, List.dropWhile_append_of_pos (ne_of_notMem free)]
    simp

end

/-! ## The scheme -/

theorem splitScheme?_eq_some_iff : splitScheme? cs = some (scheme, rest) ↔
    ∃ letters slashes, letters.map Char.toLower = scheme.name.toList ∧
      (∀ c ∈ slashes, isSlash c = true) ∧ (∀ c ∈ rest.head?, isSlash c = false) ∧
      cs = letters ++ ':' :: (slashes ++ rest) := by
  simp only [splitScheme?, Option.bind_eq_bind, Option.bind_eq_some_iff, Option.pure_def,
    Option.some.injEq, Prod.mk.injEq]
  constructor
  · rintro ⟨_, named, more, behind, rfl, rest⟩
    obtain ⟨letters, free, rfl⟩ := after?_eq_some_iff.1 behind
    obtain ⟨slashes, own, sloped, begun⟩ := Text.dropWhile_eq_iff.1 rest
    rw [takeWhile_ne_append free] at named
    exact ⟨letters, slashes, Scheme.ofName?_eq_some_iff.1 named, sloped, begun, by rw [own]⟩
  · rintro ⟨letters, slashes, named, sloped, begun, rfl⟩
    have free := Scheme.colon_notMem named
    refine ⟨scheme, ?_, slashes ++ rest, after?_eq_some_iff.2 ⟨letters, free, rfl⟩, rfl,
      Text.dropWhile_eq_iff.2 ⟨slashes, rfl, sloped, begun⟩⟩
    rw [takeWhile_ne_append free]
    exact Scheme.ofName?_eq_some_iff.2 named

/-- The texts that spell a URL: the name of its scheme in letters of either case, a colon, slashes
of either direction in any number, and what the rest of it is read from. -/
inductive Spells (u : Url) : List Char → Prop
  | intro {letters slashes rest : List Char}
      (named : letters.map Char.toLower = u.scheme.name.toList)
      (sloped : ∀ c ∈ slashes, isSlash c = true)
      (begun : ∀ c ∈ rest.head?, isSlash c = false)
      (settled : ofRest? u.scheme rest = some u) : Spells u (letters ++ ':' :: (slashes ++ rest))

theorem scheme_of_ofRest? (h : ofRest? scheme rest = some u) : u.scheme = scheme := by
  obtain ⟨_, -, rfl⟩ := Option.map_eq_some_iff.1 h
  rfl

/-- A text is read as a URL exactly if what counts of it spells that URL. -/
theorem read?_eq_some_iff {s : String} : read? s = some u ↔ u.Spells (essence s) := by
  rw [read?, Option.bind_eq_some_iff]
  constructor
  · rintro ⟨⟨scheme, rest⟩, split, settled⟩
    obtain ⟨letters, slashes, named, sloped, begun, spelled⟩ := splitScheme?_eq_some_iff.1 split
    obtain rfl := scheme_of_ofRest? settled
    exact spelled ▸ .intro named sloped begun settled
  · intro spelled
    generalize essence s = cs at spelled
    cases spelled with
    | intro named sloped begun settled =>
      exact ⟨(u.scheme, _), splitScheme?_eq_some_iff.2 ⟨_, _, named, sloped, begun, rfl⟩, settled⟩

end Url

/-- A client has an address for a path exactly if base and path spell it and requests can be made
for it. -/
theorem Client.url_eq_ok_iff {c : Client} {path : String} {u : Url} :
    c.url path = .ok u ↔ u.Spells (Url.essence (c.base ++ path)) ∧ u.isSendable = true := by
  rw [← Url.read?_eq_some_iff, url]
  cases Url.read? (c.base ++ path) with
  | none => simp
  | some own =>
    simp only [Option.some.injEq]
    split
    · next sendable =>
      constructor
      · rintro ⟨⟩
        exact ⟨rfl, sendable⟩
      · rintro ⟨rfl, -⟩
        rfl
    · next refused =>
      constructor
      · rintro ⟨⟩
      · rintro ⟨rfl, sendable⟩
        exact absurd sendable refused

end WalletWatch.Http
