import WalletWatch.Http.FormBody
/-!
# Form bodies are read as they are written

What is written for a byte is read back as the byte, whatever follows (`decodeBytes_encodeByte`), so
a name or a value is read back as the text it was. Neither `&` nor `=` is ever written for a byte
(`safe_of_mem_encodeText`), so a body is cut into its fields where they were joined, and the fields
come back (`decode?_encode`).
-/

namespace WalletWatch.Http.FormBody

/-! ## Bytes -/

/-- Whether a character can stand in a written name or value: ASCII letters and digits, the four
marks that stand for themselves, the plus sign and the percent sign. -/
def isSafe (c : Char) : Bool :=
  c.isAlphanum || ['*', '-', '.', '_', '+', '%'].contains c

theorem forall_byte {P : UInt8 → Prop} (h : ∀ n : Fin 256, P (UInt8.ofNat n.val)) (b : UInt8) :
    P b := by
  have here := h ⟨b.toNat, b.toNat_lt⟩
  rwa [UInt8.ofNat_toNat] at here

theorem safe_of_mem_encodeByte : ∀ b, ∀ c ∈ encodeByte b, isSafe c = true := by
  have all : ∀ b, (encodeByte b).all isSafe = true := forall_byte (by decide +kernel)
  exact fun b => List.all_eq_true.1 (all b)

/-- A byte that stands for itself is an ASCII character that has no other meaning in a body. -/
theorem ofNat_of_isPlain : ∀ b, isPlain b = true →
    Char.ofNat b.toNat ≠ '+' ∧ Char.ofNat b.toNat ≠ '%' ∧ (Char.ofNat b.toNat).toNat < 0x80 ∧
      UInt8.ofNat (Char.ofNat b.toNat).toNat = b :=
  forall_byte (by decide +kernel)

theorem decodeBytes_encodeByte (b : UInt8) (rest : List Char) :
    decodeBytes (encodeByte b ++ rest) = (decodeBytes rest).map (b :: ·) := by
  unfold encodeByte
  split
  · next plain =>
    obtain ⟨noPlus, noPercent, ascii, same⟩ := ofNat_of_isPlain b plain
    rw [List.singleton_append, decodeBytes.eq_4 _ _ noPlus fun _ _ _ mark _ => noPercent mark,
      same, if_pos (by simp [noPercent, ascii])]
  · split
    · next space =>
      subst space
      rfl
    · have small : b.toNat < 256 := b.toNat_lt
      have byte : Text.hexByte? (Text.hexUpper (b.toNat / 16)) (Text.hexUpper (b.toNat % 16)) =
          some b := by
        rw [Text.hexByte?, Text.hexValue?_hexUpper (by omega), Text.hexValue?_hexUpper (by omega)]
        simp only [Nat.div_add_mod, UInt8.ofNat_toNat]
      simp only [percentByte, List.cons_append, List.nil_append, decodeBytes, byte]

theorem decodeBytes_flatMap (bytes : List UInt8) :
    decodeBytes (bytes.flatMap encodeByte) = some bytes := by
  induction bytes with
  | nil => rfl
  | cons b bytes ih => rw [List.flatMap_cons, decodeBytes_encodeByte, ih, Option.map_some]

/-! ## Texts -/

/-- A text is written byte by byte, in UTF-8. -/
theorem encodeText_eq (s : String) :
    encodeText s = (s.toList.flatMap String.utf8EncodeChar).flatMap encodeByte :=
  List.flatMap_assoc.symm

theorem safe_of_mem_encodeText (s : String) : ∀ c ∈ encodeText s, isSafe c = true := by
  intro c member
  rw [encodeText_eq, List.mem_flatMap] at member
  obtain ⟨b, -, written⟩ := member
  exact safe_of_mem_encodeByte b c written

theorem decodeText_encodeText (s : String) : decodeText (encodeText s) = some s := by
  have bytes : (⟨(s.toList.flatMap String.utf8EncodeChar).toArray⟩ : ByteArray) = s.toByteArray :=
    (ByteArray.ext List.data_toByteArray.symm).trans String.utf8Encode_toList
  rw [decodeText, encodeText_eq, decodeBytes_flatMap, Option.bind_some, bytes,
    String.fromUTF8?, dif_pos s.isValidUTF8]
  rfl

/-! ## Fields -/

theorem not_mem_encodeText {mark : Char} (h : isSafe mark = false) (s : String) :
    mark ∉ encodeText s := by
  intro member
  rw [safe_of_mem_encodeText s mark member] at h
  cases h

/-- No written name or value is cut at a mark that is never written in one. -/
theorem pieces_encodeText {mark : Char} (h : isSafe mark = false) (s : String) :
    Text.pieces (· == mark) (encodeText s) = [encodeText s] := by
  refine Text.pieces_of_forall fun c member => beq_false_of_ne ?_
  rintro rfl
  exact not_mem_encodeText h s member

theorem decodeField_encodeField (field : String × String) :
    decodeField (encodeField field) = some field := by
  have cut : Text.pieces (· == '=') (encodeField field) =
      [encodeText field.1, encodeText field.2] := by
    rw [encodeField, Text.pieces_append_cons _ rfl, pieces_encodeText (by decide),
      pieces_encodeText (by decide)]
    rfl
  rw [decodeField, cut]
  simp only [decodeText_encodeText]
  rfl

/-- A written field has the sign between its name and its value, and otherwise what can stand in
these. -/
theorem mem_encodeField {field : String × String} {c : Char} (h : c ∈ encodeField field) :
    isSafe c = true ∨ c = '=' := by
  rcases List.mem_append.1 h with name | rest
  · exact .inl (safe_of_mem_encodeText _ c name)
  · exact (List.mem_cons.1 rest).symm.imp_left (safe_of_mem_encodeText _ c)

theorem count_encodeField (field : String × String) : (encodeField field).count '=' = 1 := by
  have none (s : String) : (encodeText s).count '=' = 0 :=
    List.count_eq_zero.2 (not_mem_encodeText (by decide) s)
  rw [encodeField, List.count_append, List.count_cons_self, none, none]

theorem pieces_encodeField (field : String × String) :
    Text.pieces (· == '&') (encodeField field) = [encodeField field] := by
  refine Text.pieces_of_forall fun c member => beq_false_of_ne ?_
  rintro rfl
  rcases mem_encodeField member with safe | sign
  · exact absurd safe (by decide)
  · exact absurd sign (by decide)

/-- Joined fields are cut where they were joined. -/
theorem pieces_intercalate {fields : List (String × String)} (h : fields ≠ []) :
    Text.pieces (· == '&') (['&'].intercalate (fields.map encodeField)) =
      fields.map encodeField := by
  induction fields with
  | nil => exact absurd rfl h
  | cons field fields ih =>
    cases fields with
    | nil => simpa [List.intercalate] using pieces_encodeField field
    | cons next fields =>
      rw [List.map_cons, List.map_cons, List.intercalate_cons_cons, List.append_assoc,
        List.singleton_append, Text.pieces_append_cons _ rfl, pieces_encodeField,
        ← List.map_cons, ih (List.cons_ne_nil _ _)]
      rfl

/-- The body of a form with one field is the field. -/
theorem toList_encode_singleton (field : String × String) :
    (encode [field]).toList = encodeField field := by
  rw [encode, String.toList_ofList, List.map_singleton, List.intercalate_singleton]

theorem mapM_decodeField (fields : List (String × String)) :
    (fields.map encodeField).mapM decodeField = some fields := by
  induction fields with
  | nil => rfl
  | cons field fields ih =>
    rw [List.map_cons, List.mapM_cons, decodeField_encodeField, ih]
    rfl

/-- **A body is read back as the fields that it was written for.** -/
theorem decode?_encode {fields : List (String × String)} (h : fields ≠ []) :
    decode? (encode fields) = some fields := by
  rw [decode?, encode, String.toList_ofList, pieces_intercalate h, mapM_decodeField]

end WalletWatch.Http.FormBody
