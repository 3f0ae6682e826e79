import WalletWatch.Proofs.Page.Targets
/-!
# The colour of the status

The first word of a text is what stands behind its first blanks, up to the next blank
(`Text.head?_words_eq_some_iff`). A status class is the class that it keeps and the tag of the
server behind a blank, so whatever the tag is, the element is found again, and the second word of
its class name is the first word of the tag. Only a report on the height overwrites class names, and
only with status classes (`Page.exists_getElem?_hear`). So whatever reports land, a status stays
one, in the colour of the tag that was told last (`Page.status_shows_last_colour`).
-/

namespace WalletWatch

/-! ## The first word of a text -/

namespace Text

variable {text word : String}

/-- The first word of a text: no blank is in it, only blanks are before it, and if something comes
behind it, then a blank first. -/
def FirstWord (text word : String) : Prop :=
  ∃ before after : List Char, text.toList = before ++ (word.toList ++ after) ∧
    (∀ c ∈ before, isBlank c = true) ∧ word ≠ "" ∧ (∀ c ∈ word.toList, isBlank c = false) ∧
    ∀ c ∈ after.head?, isBlank c = true

theorem wordsOf_cons_blank {c : Char} (hc : isBlank c = true) (cs : List Char) :
    wordsOf (c :: cs) = wordsOf cs :=
  wordsOf_append_cons [] hc cs

/-- Blanks in front of a text do not count. -/
theorem wordsOf_append_of_blank {before : List Char} (blank : ∀ c ∈ before, isBlank c = true)
    (cs : List Char) : wordsOf (before ++ cs) = wordsOf cs := by
  induction before with
  | nil => rfl
  | cons c before ih =>
    rw [List.forall_mem_cons] at blank
    rw [List.cons_append, wordsOf_cons_blank blank.1, ih blank.2]

theorem wordsOf_of_solid {cs : List Char} (some : cs ≠ []) (solid : ∀ c ∈ cs, isBlank c = false) :
    wordsOf cs = [cs] := by
  rw [wordsOf, pieces_of_forall solid, List.filter_cons_of_pos (by simpa using some),
    List.filter_nil]

theorem FirstWord.head?_words (h : FirstWord text word) : (words text).head? = some word := by
  obtain ⟨before, after, parts, blank, filled, solid, ends⟩ := h
  have own : wordsOf word.toList = [word.toList] :=
    wordsOf_of_solid (by simpa using filled) solid
  have first : ∃ others, wordsOf (word.toList ++ after) = word.toList :: others := by
    cases after with
    | nil => exact ⟨[], by rw [List.append_nil, own]⟩
    | cons c after =>
      exact ⟨wordsOf after, by rw [wordsOf_append_cons _ (ends c rfl), own, List.singleton_append]⟩
  obtain ⟨others, first⟩ := first
  rw [words, parts, wordsOf_append_of_blank blank, first, List.map_cons, List.head?_cons,
    String.ofList_toList]

theorem words_of_blank (blank : ∀ c ∈ text.toList, isBlank c = true) : words text = [] := by
  have none := wordsOf_append_of_blank blank []
  rw [List.append_nil] at none
  rw [words, none]
  rfl

/-- A text that is not blank has a first word. -/
theorem exists_firstWord (text : String) :
    (∀ c ∈ text.toList, isBlank c = true) ∨ ∃ word, FirstWord text word := by
  cases rest : text.toList.dropWhile isBlank with
  | nil =>
    obtain ⟨before, parts, blank, -⟩ := dropWhile_eq_iff.1 rest
    rw [List.append_nil] at parts
    exact .inl (parts ▸ blank)
  | cons c cs =>
    obtain ⟨before, parts, blank, begun⟩ := dropWhile_eq_iff.1 rest
    obtain ⟨after, cut⟩ : ∃ after, (c :: cs).dropWhile (fun c => !isBlank c) = after := ⟨_, rfl⟩
    obtain ⟨word, own, solid, ended⟩ := dropWhile_eq_iff.1 cut
    have filled : word ≠ [] := by
      rintro rfl
      rw [List.nil_append] at own
      have blank := ended c (own ▸ rfl)
      rw [begun c rfl] at blank
      cases blank
    refine .inr ⟨String.ofList word, before, after, ?_, blank, ?_, ?_, fun d first => ?_⟩
    · rw [String.toList_ofList, ← own, parts]
    · simpa using filled
    · simpa using solid
    · simpa using ended d first

theorem head?_words_eq_some_iff : (words text).head? = some word ↔ FirstWord text word := by
  refine ⟨fun h => ?_, FirstWord.head?_words⟩
  rcases exists_firstWord text with blank | ⟨other, first⟩
  · rw [words_of_blank blank] at h
    cases h
  · rw [first.head?_words] at h
    exact Option.some.inj h ▸ first

end Text

/-! ## The colour of a tag -/

theorem Color.ofTag_of_unknown {tag : String}
    (unknown : tag ∉ ["blue", "yellow", "cyan", "red", "green"]) :
    ofTag (some tag) = secondary := by
  unfold ofTag
  split <;> first | rfl | simp_all

namespace Element

variable {e : Element} {tag : String}

/-- An element with a status class is coloured by the first word of its tag. -/
theorem statusColor_of_statusClass (h : e.className = Page.statusClass tag) :
    e.statusColor = .ofTag (Text.words tag).head? := by
  rw [statusColor, modifiers, h, Page.words_statusClass, List.tail_cons]

theorem draw_of_statusClass (kind : e.kind = .text) (h : e.className = Page.statusClass tag) :
    let color := Color.ofTag (Text.words tag).head?
    e.draw = [.plain e.label .body .muted, .plain dot .small color, .plain e.text .body color] := by
  have status : e.hasClass ClassName.status = true := (hasClass_of_statusClass h).2 (.inl rfl)
  simp only [draw, kind, status, if_true, drawStatus, statusColor_of_statusClass h]

end Element

/-! ## Reports that follow each other -/

/-- A report that lands at some moment, for a loop that remembers something. -/
structure Hearing where
  now : Int
  memory : Option String
  report : Report

namespace Page

variable {p : Page} {index : Nat} {e : Element}

/-- A page after a report has landed on it. -/
def hear (p : Page) (h : Hearing) : Page :=
  (Landing.ofReport h.now h.memory p h.report).page

/-- A page after reports have landed on it, one after the other. -/
def hearAll (p : Page) (hs : List Hearing) : Page :=
  hs.foldl hear p

theorem hearAll_append (p : Page) (hs others : List Hearing) :
    p.hearAll (hs ++ others) = (p.hearAll hs).hearAll others :=
  List.foldl_append

/-- A report on the height gives a status its text and its class. -/
theorem getElem?_hear_blockHeight (here : p.elements[index]? = some e)
    (status : e.hasClass ClassName.status = true) (now : Int) (memory : Option String)
    (r : HeightReport) : (p.hear ⟨now, memory, .blockHeight r⟩).elements[index]? =
      some { e with text := r.status, className := statusClass r.tag } := by
  have written := Landing.elements_ofReport_of_data now memory p
    (show (Report.blockHeight r).feed ≠ .heartbeat by simp [Report.feed]) (by simp [Report.feed])
  rw [hear, written, List.getElem?_map, here, Option.map_some,
    Report.write_blockHeight_of_status r status]

/-- What stands at an index stays there, and only a report on the height can change its class name,
if it is a status. -/
theorem exists_getElem?_hear (here : p.elements[index]? = some e) {h : Hearing}
    (data : h.report.feed ≠ .heartbeat) :
    ∃ e', (p.hear h).elements[index]? = some e' ∧ e'.frame = e.frame ∧
      (e'.className = e.className ∨
        ∃ r, h.report = .blockHeight r ∧ e'.className = statusClass r.tag) := by
  have frames := congrArg (·[index]?) (Landing.frames_ofReport h.now h.memory p data)
  simp only [List.getElem?_map, here, Option.map_some] at frames
  obtain ⟨e', found, frame⟩ := Option.map_eq_some_iff.1 frames
  refine ⟨e', found, frame, ?_⟩
  by_cases height : h.report.feed = .blockHeight
  · have written := Landing.elements_ofReport_of_data h.now h.memory p data (by simp [height])
    rw [written, List.getElem?_map, here, Option.map_some] at found
    obtain rfl := Option.some.inj found
    rcases h.report.className_write e with same | ⟨r, told, -, name⟩
    · exact .inl same
    · exact .inr ⟨r, told, name⟩
  · have names := congrArg (·[index]?) (Landing.classNames_ofReport h.now h.memory p data height)
    simp only [List.getElem?_map, here, found, Option.map_some] at names
    exact .inl (Option.some.inj names)

/-- A property of class names that the tags of reports on the height have, and an element has, is
kept by any reports. -/
theorem exists_getElem?_hearAll {hs : List Hearing} (named : String → Prop)
    (here : p.elements[index]? = some e) (own : named e.className)
    (data : ∀ h ∈ hs, h.report.feed ≠ .heartbeat)
    (tags : ∀ h ∈ hs, ∀ r, h.report = .blockHeight r → named (statusClass r.tag)) :
    ∃ e', (p.hearAll hs).elements[index]? = some e' ∧ e'.frame = e.frame ∧ named e'.className := by
  induction hs generalizing p e with
  | nil => exact ⟨e, here, rfl, own⟩
  | cons h hs ih =>
    rw [List.forall_mem_cons] at data tags
    obtain ⟨next, found, frame, name⟩ := exists_getElem?_hear here data.1
    have kept : named next.className := by
      rcases name with same | ⟨r, told, name⟩
      · rwa [same]
      · rw [name]
        exact tags.1 r told
    obtain ⟨e', last, frame', named'⟩ := ih found kept data.2 tags.2
    exact ⟨e', last, frame'.trans frame, named'⟩

/-- **A status shows the colour that was told last.** Take any element of any page that is a text
with the status class. After any reports of the data feeds, of which the last one on the height told
a tag, it is drawn as a status in one colour: that of the first word of the tag, or the colour of
ordinary text if this word is no known one or the tag has no word. What was told before does not
count. If the report on the height was the last of all, the text is its status. -/
theorem status_shows_last_colour (here : p.elements[index]? = some e) (kind : e.kind = .text)
    (status : e.hasClass ClassName.status = true) (earlier later : List Hearing) (now : Int)
    (memory : Option String) (r : HeightReport)
    (data : ∀ h ∈ earlier ++ later, h.report.feed ≠ .heartbeat)
    (last : ∀ h ∈ later, h.report.feed ≠ .blockHeight) :
    let q := p.hearAll (earlier ++ ⟨now, memory, .blockHeight r⟩ :: later)
    ∃ color text, q.elements[index]?.map Element.draw =
        some [.plain e.label .body .muted, .plain Element.dot .small color,
          .plain text .body color] ∧
      (∀ word, Text.FirstWord r.tag word → color = .ofTag (some word) ∧
        (word ∉ ["blue", "yellow", "cyan", "red", "green"] → color = .secondary)) ∧
      ((∀ c ∈ r.tag.toList, Text.isBlank c = true) → color = .secondary) ∧
      (later = [] → text = r.status) := by
  intro q
  rw [List.forall_mem_append] at data
  -- Before the report the element carries the class, behind it its name stays as it was told.
  obtain ⟨e₁, found₁, frame₁, own⟩ := exists_getElem?_hearAll (ClassName.status ∈ Text.words ·)
    here (Element.hasClass_iff.1 status) data.1
    fun h _ r _ => by rw [words_statusClass]; exact List.mem_cons_self
  have told := getElem?_hear_blockHeight found₁ (Element.hasClass_iff.2 own) now memory r
  obtain ⟨e₂, found₂, frame₂, name⟩ := exists_getElem?_hearAll (· = statusClass r.tag)
    told rfl data.2 fun h hh other height => absurd (by rw [height]; rfl) (last h hh)
  have frame : e₂.frame = e.frame := frame₂.trans frame₁
  simp only [Element.frame, Prod.mk.injEq] at frame
  obtain ⟨-, sameKind, label⟩ := frame
  have drawn := Element.draw_of_statusClass (sameKind.trans kind) name
  have found : q.elements[index]? = some e₂ := by
    simp only [q, hearAll_append]
    exact found₂
  refine ⟨.ofTag (Text.words r.tag).head?, e₂.text, ?_, fun word first => ?_, fun blank => ?_, ?_⟩
  · rw [found, Option.map_some, drawn, label]
  · rw [first.head?_words]
    exact ⟨rfl, Color.ofTag_of_unknown⟩
  · rw [Text.words_of_blank blank]
    rfl
  · rintro rfl
    exact congrArg Element.text (Option.some.inj (found₂.symm.trans told))

/-- A tag between blanks of several kinds, after a red one and after a tag that made the status a
target of the balance. -/
theorem status_shows_last_colour_between_blanks :
    let status : Element := ⟨.text, some "whale_size", "confirmed\tstatus", "State", "", ""⟩
    let p : Page := ⟨none, [.plain .marker "balance", status], [], false, none, []⟩
    let r : HeightReport := ⟨"9", "Scanning", "\u3000green\u2028blue "⟩
    let earlier : List Hearing := [⟨0, none, .blockHeight ⟨"7", "", "red unconfirmed"⟩⟩,
      ⟨1, none, .balance ⟨"1", "2", "3", "4", "Shrimp"⟩⟩]
    let q := p.hearAll (earlier ++ [⟨2, some "", .blockHeight r⟩])
    Text.FirstWord r.tag "green" ∧
      q.elements[1]?.map Element.draw = some [.plain "State" .body .muted,
        .plain Element.dot .small (.rgb 0x34 0xd3 0x99),
        .plain "Scanning" .body (.rgb 0x34 0xd3 0x99)] := by
  intro status p r earlier q
  have solid : "green".toList.all (!Text.isBlank ·) = true := by decide
  have first : Text.FirstWord r.tag "green" := by
    refine ⟨['\u3000'], "\u2028blue ".toList, by decide, List.forall_mem_singleton.2 (by decide),
      by decide, fun c member => ?_, fun c member => ?_⟩
    · exact Bool.not_eq_true' _ ▸ List.all_eq_true.1 solid c member
    · obtain rfl := Option.some.inj member
      decide
  have here : p.elements[1]? = some status := rfl
  obtain ⟨color, text, drawn, coloured, -, last⟩ := status_shows_last_colour here rfl (by decide)
    earlier [] 2 (some "") r (by simp [earlier, Report.feed]) (List.forall_mem_nil _)
  refine ⟨first, drawn.trans ?_⟩
  rw [(coloured "green" first).1, last rfl]
  rfl

end Page

end WalletWatch
