import WalletWatch.Http.Client
import WalletWatch.Proofs.Json.Documents
/-!
# The body of a poll

A poll takes a body exactly if it writes an array of texts, and then it takes all of them, in order
(`Http.poll_takes_arrays_of_texts`). What such a body looks like is said by a grammar of its own
(`QuotedArray`), since of the grammar of JSON it needs only the array and the string literal. What
keeps a body from being one is listed in `ArrayFault`.
-/

namespace WalletWatch

namespace Json

variable {texts : List String} {cs ds : List Char}

/-! ## Arrays of texts -/

/-- String literals that write some texts in turn, with a comma between each two. -/
def QuotedItems : List String → List Char → Prop
  | [], cs => Gap cs
  | [s], cs => Padded (Quoted s) cs
  | s :: next :: texts, cs => ∃ first others, cs = first ++ ',' :: others ∧
      Padded (Quoted s) first ∧ QuotedItems (next :: texts) others

/-- Brackets around a text of some kind, with white space around them. -/
def Bracketed (P : List Char → Prop) : List Char → Prop :=
  Padded fun cs => ∃ inner, cs = '[' :: (inner ++ [']']) ∧ P inner

/-- An array of string literals that writes some texts. -/
def QuotedArray (texts : List String) : List Char → Prop :=
  Bracketed (QuotedItems texts)

theorem Padded.congr {P Q : List Char → Prop} (h : ∀ cs, P cs ↔ Q cs) :
    Padded P cs ↔ Padded Q cs := by
  rw [show P = Q from funext fun cs => propext (h cs)]

theorem writtenItems_texts :
    (texts : List String) → {cs : List Char} →
    (WrittenItems (texts.map ofText) cs ↔ QuotedItems texts cs)
  | [], _ => Iff.rfl
  | [_], _ => Padded.congr fun _ => literal_some_iff
  | s :: next :: texts, cs => by
    have literal (cs : List Char) : Padded (Written (ofText s)) cs ↔ Padded (Quoted s) cs :=
      Padded.congr fun _ => literal_some_iff
    change (∃ first others, _ ∧ Padded (Written (ofText s)) first ∧
      WrittenItems ((next :: texts).map ofText) others) ↔ _
    simp only [literal, writtenItems_texts (next :: texts)]
    rfl

theorem quotedArray_iff : QuotedArray texts cs ↔ Document (.array (texts.map ofText)) cs :=
  Padded.congr fun _ => exists_congr fun _ => and_congr_right fun _ =>
    (writtenItems_texts texts).symm

theorem texts?_eq_some_iff {v : Json} : v.texts? = some texts ↔ v = .array (texts.map ofText) := by
  have all (items : List Json) : items.mapM text? = some texts ↔ items = texts.map ofText := by
    induction items generalizing texts with
    | nil => cases texts <;> simp
    | cons item items ih =>
      simp only [List.mapM_cons, Option.bind_eq_bind, Option.bind_eq_some_iff, text?_eq_some_iff,
        Option.pure_def, Option.some.injEq, ih]
      constructor
      · rintro ⟨s, rfl, others, rfl, rfl⟩
        rfl
      · intro same
        obtain ⟨s, others, rfl, rfl, rfl⟩ := List.map_eq_cons_iff.1 same.symm
        exact ⟨s, rfl, others, rfl, rfl⟩
  cases v with
  | array items =>
    rw [texts?, all, Json.array.injEq]
  | _ => simp [texts?]

/-! ## What keeps a text from being an array of texts -/

/-- The start of an array of texts, up to where a further literal can stand. -/
inductive Opened : List Char → Prop
  | first {gap : List Char} (blank : Gap gap) : Opened ('[' :: gap)
  | further {texts : List String} {items gap : List Char} (h : QuotedItems texts items)
      (blank : Gap gap) : Opened ('[' :: (items ++ ',' :: gap))

/-- The faults of a text that is no array of texts. -/
inductive ArrayFault : List Char → Prop
  /-- There is no value at all. -/
  | empty {cs : List Char} (blank : Gap cs) : ArrayFault cs
  /-- The text starts with something else than a bracket, such as a byte-order mark. -/
  | start {gap rest : List Char} {c : Char} (blank : Gap gap) (solid : isGap c = false)
      (other : c ≠ '[') : ArrayFault (gap ++ c :: rest)
  /-- The text is a document of another kind, or an array with an item of another kind, or with a
  literal that has half of a surrogate pair in it. -/
  | document {v : Json} {cs : List Char} (h : Document v cs)
      (other : ∀ texts : List String, v ≠ .array (texts.map ofText)) : ArrayFault cs
  /-- Something other than white space follows. -/
  | trailing {texts : List String} {cs ds : List Char} (h : QuotedArray texts cs)
      (later : ¬ Gap ds) : ArrayFault (cs ++ ds)
  /-- A comma stands before the closing bracket. -/
  | extraComma {texts : List String} {items gap cs : List Char} (h : QuotedItems texts items)
      (blank : Gap gap) (whole : Bracketed (· = items ++ ',' :: gap) cs) : ArrayFault cs
  /-- Two items stand next to each other. -/
  | missingComma {s t : String} {texts others : List String} {first second cs : List Char}
      (h : QuotedItems (s :: texts) first) (h' : QuotedItems (t :: others) second)
      (whole : Bracketed (· = first ++ second) cs) : ArrayFault cs
  /-- A character below the space stands in a literal. -/
  | control {gap opening inner rest : List Char} {us : List CodeUnit} {c : Char} (blank : Gap gap)
      (h : Opened opening) (pieces : Pieces us inner) (low : c < ' ') :
      ArrayFault (gap ++ (opening ++ '"' :: (inner ++ c :: rest)))

/-- The tokens of the items of an array of texts. -/
abbrev textTokens (texts : List String) : List Token :=
  itemTokens (texts.map ofText)

theorem writes_quotedItems (h : QuotedItems texts cs) : Writes cs (textTokens texts) :=
  writes_items _ ((writtenItems_texts texts).2 h)

/-- There is a comma between each two of the texts. -/
theorem length_textTokens (texts : List String) :
    (textTokens texts).length = 2 * texts.length - 1 := by
  match texts with
  | [] => rfl
  | [_] => rfl
  | s :: next :: texts =>
    have others := length_textTokens (next :: texts)
    have both : textTokens (s :: next :: texts) =
        .string (some s) :: .comma :: textTokens (next :: texts) := itemTokens_cons ..
    rw [both, List.length_cons, List.length_cons, others]
    simp only [List.length_cons]
    omega

theorem tokenize_bracketed {inner : List Char} {ts : List Token} (h : Writes inner ts)
    (whole : Bracketed (· = inner) cs) :
    tokenize cs = some (.openArray :: (ts ++ [.closeArray])) := by
  obtain ⟨before, _, after, rfl, blank, ⟨_, rfl, rfl⟩, blank'⟩ := whole
  rw [tokenize_gap blank, h.bracketed .openArray .closeArray rfl rfl,
    ← List.append_nil after, tokenize_gap blank', tokenize, Option.map_some, List.append_nil]

theorem tokenize_quotedArray (h : QuotedArray texts cs) :
    tokenize cs = some (.openArray :: (textTokens texts ++ [.closeArray])) := by
  obtain ⟨before, _, after, rfl, blank, ⟨inner, rfl, inside⟩, blank'⟩ := h
  exact tokenize_bracketed (writes_quotedItems inside)
    ⟨before, _, after, rfl, blank, ⟨inner, rfl, rfl⟩, blank'⟩

/-- The tokens between the brackets are those of the texts. -/
theorem eq_textTokens {inner : List Char} {ts : List Token} (h : QuotedArray texts cs)
    (writes : Writes inner ts) (whole : Bracketed (· = inner) cs) : ts = textTokens texts := by
  have same := (tokenize_bracketed writes whole).symm.trans (tokenize_quotedArray h)
  exact List.append_cancel_right (List.cons.inj (Option.some.inj same)).2

/-- A numeral ends where the first text starts. -/
theorem ends_quotedItems {s : String} (h : QuotedItems (s :: texts) cs) (rest : List Char) :
    ends (cs ++ rest) = true := by
  have first {cs : List Char} (h : Padded (Quoted s) cs) (rest : List Char) :
      ends (cs ++ rest) = true := by
    obtain ⟨before, _, after, rfl, blank, ⟨inner, rfl, -⟩, -⟩ := h
    rw [List.append_assoc]
    exact ends_gap blank rfl
  cases texts with
  | nil => exact first h rest
  | cons next texts =>
    obtain ⟨literal, others, rfl, padded, -⟩ := h
    rw [List.append_assoc]
    exact first padded _

theorem readUnits_control {us : List CodeUnit} {c : Char} (h : Pieces us cs) (low : c < ' ')
    (rest : List Char) : readUnits (cs ++ c :: rest) = none := by
  induction h with
  | nil =>
    have quote : c ≠ '"' := by rintro rfl; exact absurd low (by decide)
    have backslash : c ≠ '\\' := by rintro rfl; exact absurd low (by decide)
    rw [List.nil_append, readUnits.eq_5 c rest quote (fun _ _ _ _ _ same _ => backslash same)
      fun _ _ same _ => backslash same, if_pos (by simp [low])]
  | cons first others ih => rw [List.append_assoc, readUnits_piece first, ih]; rfl

theorem tokenize_control {opening inner rest : List Char} {us : List CodeUnit} {c : Char}
    (h : Opened opening) (pieces : Pieces us inner) (low : c < ' ') :
    tokenize (opening ++ '"' :: (inner ++ c :: rest)) = none := by
  have literal : tokenize ('"' :: (inner ++ c :: rest)) = none := by
    have nothing : nextToken ('"' :: (inner ++ c :: rest)) = none := by
      rw [nextToken, readString, readUnits_control pieces low]
      rfl
    rw [tokenize, if_neg (by decide)]
    split
    · rfl
    · next found => cases nothing.symm.trans found
  cases h with
  | first blank =>
    rw [List.cons_append, tokenize_mark (t := .openArray) rfl, tokenize_gap blank, literal]
    rfl
  | further items blank =>
    rw [List.cons_append, List.append_assoc, tokenize_mark (t := .openArray) rfl,
      writes_quotedItems items _ rfl, List.cons_append, tokenize_mark (t := .comma) rfl,
      tokenize_gap blank, literal]
    rfl

/-- A text with a fault is no array of texts. -/
theorem ArrayFault.not_quotedArray (h : ArrayFault cs) (texts : List String) :
    ¬ QuotedArray texts cs := by
  intro array
  have found := tokenize_quotedArray array
  cases h with
  | empty blank =>
    rw [← List.append_nil cs, tokenize_gap blank, tokenize] at found
    cases found
  | start blank solid other =>
    rw [tokenize_gap blank] at found
    obtain ⟨gap, text, rest, same, blank', rfl, -⟩ := spread_of_tokenize found
    cases gap with
    | nil => exact other (List.cons.inj same).1
    | cons d gap =>
      obtain ⟨rfl, -⟩ := List.cons.inj same
      rw [isGap_iff.2 (blank' _ List.mem_cons_self)] at solid
      cases solid
  | document h other => exact other texts (h.unique (quotedArray_iff.1 array))
  | @trailing others cs ds h later =>
    have document := quotedArray_iff.1 array
    rw [← String.toList_ofList (l := cs ++ ds)] at document
    exact later (gap_of_read? (quotedArray_iff.1 h) (fun _ => Json.noConfusion)
      (read?_eq_some_iff.2 document))
  | @extraComma others items gap _ h blank whole =>
    have same := eq_textTokens array
      ((writes_quotedItems h).joined (t := .comma) rfl (.gap blank)) whole
    have lengths := congrArg List.length same
    rw [List.length_append, length_textTokens, length_textTokens, List.length_singleton] at lengths
    obtain rfl := List.eq_nil_of_length_eq_zero (l := others) (by omega)
    have single : texts.length = 1 := by
      rw [List.length_nil] at lengths
      omega
    obtain ⟨s, rfl⟩ := List.length_eq_one_iff.1 single
    cases same
  | missingComma h h' whole =>
    have same := eq_textTokens array
      ((writes_quotedItems h).append (writes_quotedItems h') (ends_quotedItems h')) whole
    have lengths := congrArg List.length same
    simp only [List.length_append, length_textTokens, List.length_cons] at lengths
    omega
  | control blank opened pieces low =>
    rw [tokenize_gap blank, tokenize_control opened pieces low] at found
    cases found

end Json

namespace Http

open Json

/-! ## Bodies -/

/-- Some texts and a body that writes them. -/
def BodyOf (texts : List String) (body : ByteArray) : Prop :=
  ∃ text : String, body = text.toUTF8 ∧ QuotedArray texts text.toList

theorem fromUTF8?_eq_some_iff {body : ByteArray} {text : String} :
    String.fromUTF8? body = some text ↔ body = text.toUTF8 := by
  constructor
  · intro h
    unfold String.fromUTF8? at h
    split at h
    · cases h
      rfl
    · cases h
  · rintro rfl
    have valid : text.toUTF8.IsValidUTF8 := text.isValidUTF8
    unfold String.fromUTF8?
    rw [dif_pos valid]
    rfl

variable {texts : List String} {body : ByteArray}

theorem textsOfBody?_eq_some_iff : textsOfBody? body = some texts ↔ BodyOf texts body := by
  simp only [textsOfBody?, Option.bind_eq_some_iff, fromUTF8?_eq_some_iff, texts?_eq_some_iff,
    read?_eq_some_iff]
  constructor
  · rintro ⟨_, ⟨text, same, document⟩, rfl⟩
    exact ⟨text, same, quotedArray_iff.2 document⟩
  · rintro ⟨text, same, array⟩
    exact ⟨_, ⟨text, same, quotedArray_iff.1 array⟩, rfl⟩

theorem textsOfBody?_eq_none_iff : textsOfBody? body = none ↔ ∀ texts, ¬ BodyOf texts body := by
  simp only [Option.eq_none_iff_forall_ne_some, ne_eq, textsOfBody?_eq_some_iff]

/-- **A poll takes a body exactly if it writes an array of texts**, and then it takes these texts
in their order. A body that is no text, and a text with one of the faults, is refused as a whole:
nothing of it is taken. -/
theorem poll_takes_arrays_of_texts (body : ByteArray) :
    (∀ texts, textsOfBody? body = some texts ↔ BodyOf texts body) ∧
    ((∀ text : String, body ≠ text.toUTF8) → textsOfBody? body = none) ∧
    (∀ text : String, body = text.toUTF8 → ArrayFault text.toList → textsOfBody? body = none) ∧
    ∀ feed request (status : Status), status.isFinal = true → status.isSuccess = true →
      status.hasBody = true →
      let result := Client.pollResult feed request (.answer status body true)
      (∀ texts, result = .ok texts ↔ BodyOf texts body) ∧
        ((∀ texts, ¬ BodyOf texts body) → result = .error (.request .unreadableBody)) := by
  refine ⟨fun _ => textsOfBody?_eq_some_iff, fun noText => ?_, ?_, ?_⟩
  · exact textsOfBody?_eq_none_iff.2 fun texts ⟨text, same, _⟩ => noText text same
  · rintro text rfl fault
    refine textsOfBody?_eq_none_iff.2 fun texts ⟨other, same, written⟩ => ?_
    obtain rfl : text = other := String.toByteArray_inj.1 same
    exact fault.not_quotedArray texts written
  · intro feed request status final success hasBody result
    have taken : result = (textsOfBody? body).elim (.error (.request .unreadableBody)) .ok := by
      simp only [result, Client.pollResult, Reply.received, final, success, if_true,
        Reply.receivedBody?, hasBody, Bool.not_true, Bool.false_eq_true, if_false,
        Option.bind_some]
      cases textsOfBody? body <;> rfl
    rw [taken]
    refine ⟨fun texts => ?_, fun nothing => ?_⟩
    · rw [← textsOfBody?_eq_some_iff]
      cases textsOfBody? body <;> simp
    · rw [textsOfBody?_eq_none_iff.2 nothing]
      rfl

/-- An accented letter by its code, a character beyond the first plane by its two halves, an escaped
slash, white space around the marks; and the same array with a comma at its end. -/
theorem poll_takes_arrays_of_texts_escaped :
    let accent : List Char := ['\\', 'u', '0', '0', 'E', '9']
    let pair : List Char := ['\\', 'u', 'd', '8', '3', 'e', '\\', 'u', 'D', 'D', '9', 'e']
    let items : List Char :=
      '"' :: (accent ++ pair ++ ['"', ' ', ',', '\n', '"', '\\', '/', '"'])
    let body := (String.ofList ('[' :: (items ++ [']']))).toUTF8
    let more := (String.ofList ('[' :: (items ++ [',', ' '] ++ [']']))).toUTF8
    let request : Request :=
      ⟨.get, ⟨.http, .dotted 2130706433, some 4300, "/gui/balance", none, none⟩, none⟩
    textsOfBody? body = some ["é🦞", "/"] ∧ textsOfBody? more = none ∧
      Client.pollResult .balance request (.answer 200 body true) = .ok ["é🦞", "/"] := by
  intro accent pair items body more request
  have lower {n : Nat} (h : n < 16) := isHexDigit_hexLower h
  have upper {n : Nat} (h : n < 16) := isHexDigit_hexUpper h
  have letter : CodeEscape 'é'.toNat accent :=
    .digits (lower (n := 0) (by decide)) (lower (n := 0) (by decide)) (upper (n := 14) (by decide))
      (lower (n := 9) (by decide))
  have high : CodeEscape 0xD83E ['\\', 'u', 'd', '8', '3', 'e'] :=
    .digits (lower (n := 13) (by decide)) (lower (n := 8) (by decide)) (lower (n := 3) (by decide))
      (lower (n := 14) (by decide))
  have low : CodeEscape 0xDD9E ['\\', 'u', 'D', 'D', '9', 'e'] :=
    .digits (upper (n := 13) (by decide)) (upper (n := 13) (by decide)) (lower (n := 9) (by decide))
      (lower (n := 14) (by decide))
  have spelled : Spells ['é', '🦞'] (accent ++ pair) :=
    .one (.code letter) (.pair (c := '🦞') (by decide) high low .nil)
  have slash : Spells ['/'] ['\\', '/'] := .one (.letter (by decide)) .nil
  have inside : QuotedItems ["é🦞", "/"] items :=
    ⟨'"' :: (accent ++ pair ++ ['"', ' ']), ['\n', '"', '\\', '/', '"'], rfl,
      ⟨[], '"' :: (accent ++ pair ++ ['"']), [' '], rfl, Gap.nil, ⟨_, rfl, spelled⟩,
        Gap.nil.cons rfl⟩,
      ⟨['\n'], ['"', '\\', '/', '"'], [], rfl, Gap.nil.cons rfl, ⟨_, rfl, slash⟩, Gap.nil⟩⟩
  have whole (inner : List Char) : Bracketed (· = inner) ('[' :: (inner ++ [']'])) :=
    ⟨[], _, [], (List.append_nil _).symm, Gap.nil, ⟨inner, rfl, rfl⟩, Gap.nil⟩
  have written : BodyOf ["é🦞", "/"] body := by
    refine ⟨_, rfl, [], _, [], ?_, Gap.nil, ⟨items, rfl, inside⟩, Gap.nil⟩
    rw [String.toList_ofList, List.append_nil]
    rfl
  have fault : ArrayFault ('[' :: (items ++ [',', ' '] ++ [']'])) :=
    .extraComma inside (Gap.nil.cons rfl) (whole (items ++ [',', ' ']))
  obtain ⟨taken, -, -, polled⟩ := poll_takes_arrays_of_texts body
  refine ⟨(taken _).2 written, ?_, ((polled .balance request 200 rfl rfl rfl).1 _).2 written⟩
  refine (poll_takes_arrays_of_texts more).2.2.1 _ rfl ?_
  rw [String.toList_ofList]
  exact fault

end Http

end WalletWatch
