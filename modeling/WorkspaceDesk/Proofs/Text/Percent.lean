import WorkspaceDesk.Proofs.Text.Utf8
import WorkspaceDesk.Text.Percent

/-!
# Percent-encoding undone

The segment that a text is written as consists of unreserved characters and escapes (`isSegment_encode`), so
that nothing in it can be taken for a part of the URL around it, and it stands for the text and for no other
one (`decode_encode`).
-/

namespace WorkspaceDesk.Text.Percent

/-- The upper-case hexadecimal digits. -/
def upperDigits : List Char :=
  ['0', '1', '2', '3', '4', '5', '6', '7', '8', '9', 'A', 'B', 'C', 'D', 'E', 'F']

/-- The text consists of unreserved characters and of escapes, each of two upper-case digits. -/
inductive IsSegment : List Char → Prop
  | nil : IsSegment []
  | plain {c : Char} {rest : List Char} (hc : isUnreserved c = true) (hrest : IsSegment rest) :
    IsSegment (c :: rest)
  | escape {high low : Char} {rest : List Char} (hhigh : high ∈ upperDigits) (hlow : low ∈ upperDigits)
      (hrest : IsSegment rest) :
    IsSegment ('%' :: high :: low :: rest)

/-! ## Digits -/

theorem hexDigitUpper_mem {n : Nat} (h : n < 16) : hexDigitUpper n ∈ upperDigits := by
  revert n
  decide

theorem hexValue?_hexDigitUpper {n : Nat} (h : n < 16) : hexValue? (hexDigitUpper n) = some n := by
  revert n
  decide

/-- The digits of a byte name it. -/
theorem hexPair?_digits (b : UInt8) (rest : List Char) :
    hexPair? (hexDigitUpper (b.toNat / 16) :: hexDigitUpper (b.toNat % 16) :: rest) = some b := by
  have hb := b.toNat_lt
  have hsum : 16 * (b.toNat / 16) + b.toNat % 16 = b.toNat := Nat.div_add_mod b.toNat 16
  rw [hexPair?, hexValue?_hexDigitUpper (by omega), hexValue?_hexDigitUpper (by omega)]
  simp only [Option.bind_eq_bind, Option.bind_some, hsum, UInt8.ofNat_toNat]

/-! ## Unreserved characters -/

theorem isUnreserved_of_mem {c : Char} (h : c ∈ upperDigits) : isUnreserved c = true := by
  have hall : upperDigits.all isUnreserved = true := by decide
  exact List.all_eq_true.mp hall c h

theorem toNat_lt_of_isAlphanum {c : Char} (h : c.isAlphanum = true) : c.toNat < 0x80 := by
  have hle : ∀ last : Char, last.toNat < 0x80 → c.val ≤ last.val → c.toNat < 0x80 :=
    fun last hlast h => Nat.lt_of_le_of_lt h hlast
  have hranges : ((c.isUpper || c.isLower) || c.isDigit) = true := h
  simp only [Bool.or_eq_true] at hranges
  rcases hranges with (h | h) | h
  · have hupper : c.val ≥ 'A'.val ∧ c.val ≤ 'Z'.val := of_decide_eq_true h
    exact hle 'Z' (by decide) hupper.2
  · exact hle 'z' (by decide) (of_decide_eq_true (Bool.and_eq_true_iff.mp h).2)
  · exact hle '9' (by decide) (of_decide_eq_true (Bool.and_eq_true_iff.mp h).2)

/-- An unreserved character is one of ASCII. -/
theorem toNat_lt_of_isUnreserved {c : Char} (h : isUnreserved c = true) : c.toNat < 0x80 := by
  simp only [isUnreserved, Bool.or_eq_true, decide_eq_true_eq] at h
  rcases h with (((h | rfl) | rfl) | rfl) | rfl
  · exact toNat_lt_of_isAlphanum h
  all_goals decide

theorem ne_percent_of_isUnreserved {c : Char} (h : isUnreserved c = true) : c ≠ '%' := by
  rintro rfl
  revert h
  decide

/-! ## Segments -/

theorem IsSegment.append {s t : List Char} (hs : IsSegment s) (ht : IsSegment t) : IsSegment (s ++ t) := by
  induction hs with
  | nil => exact ht
  | plain hc _ ih => exact .plain hc ih
  | escape hhigh hlow _ ih => exact .escape hhigh hlow ih

/-- A segment holds no other characters than unreserved ones and percent signs. -/
theorem IsSegment.of_mem {s : List Char} (hs : IsSegment s) {c : Char} (hc : c ∈ s) :
    isUnreserved c = true ∨ c = '%' := by
  induction hs with
  | nil => cases hc
  | plain hplain _ ih =>
    rcases List.mem_cons.mp hc with rfl | hc
    · exact .inl hplain
    · exact ih hc
  | escape hhigh hlow _ ih =>
    rcases List.mem_cons.mp hc with rfl | hc
    · exact .inr rfl
    rcases List.mem_cons.mp hc with rfl | hc
    · exact .inl (isUnreserved_of_mem hhigh)
    rcases List.mem_cons.mp hc with rfl | hc
    · exact .inl (isUnreserved_of_mem hlow)
    · exact ih hc

theorem IsSegment.not_mem {s : List Char} (hs : IsSegment s) {c : Char} (hc : isUnreserved c = false)
    (hne : c ≠ '%') : c ∉ s := by
  intro hmem
  rcases hs.of_mem hmem with h | h
  · rw [hc] at h
    cases h
  · exact hne h

theorem isSegment_encodeByte (b : UInt8) : IsSegment (encodeByte b) := by
  have hb := b.toNat_lt
  rw [encodeByte]
  split
  · rename_i hplain
    exact .plain hplain .nil
  · exact .escape (hexDigitUpper_mem (by omega)) (hexDigitUpper_mem (by omega)) .nil

/-- What a text is written as is a segment. -/
theorem isSegment_encode (s : List Char) : IsSegment (encode s) := by
  rw [encode]
  induction Utf8.encode s with
  | nil => exact .nil
  | cons b rest ih =>
    rw [List.flatMap_cons]
    exact (isSegment_encodeByte b).append ih

/-! ## Decoding -/

/-- A byte is read from its written form. -/
theorem bytesFrom_encodeByte (b : UInt8) (rest : List Char) :
    bytesFrom 0 (encodeByte b ++ rest) = b :: bytesFrom 0 rest := by
  have hb := b.toNat_lt
  rw [encodeByte]
  split
  · -- an unreserved character stands for its one byte
    rename_i hplain
    have hvalid : b.toNat.isValidChar := by
      unfold Nat.isValidChar
      omega
    have hascii : b.toNat < 0x80 := by
      rw [← Utf8.toNat_ofNat hvalid]
      exact toNat_lt_of_isUnreserved hplain
    rw [List.singleton_append, bytesFrom, if_neg (ne_percent_of_isUnreserved hplain),
      Utf8.utf8EncodeChar_ofNat hvalid, if_pos (by omega), UInt8.ofNat_toNat, List.singleton_append]
  · rw [List.cons_append, List.cons_append, List.singleton_append, bytesFrom, if_pos rfl,
      hexPair?_digits]
    rfl

theorem decodeBytes_flatMap (bytes : Bytes) : decodeBytes (bytes.flatMap encodeByte) = bytes := by
  induction bytes with
  | nil => rfl
  | cons b rest ih =>
    rw [List.flatMap_cons, decodeBytes, bytesFrom_encodeByte]
    exact congrArg (b :: ·) ih

/-- A text is read from the segment that it is written as. -/
theorem decode_encode (s : List Char) : decode (encode s) = .ok s := by
  rw [decode, encode, decodeBytes_flatMap, Utf8.decode_encode]

theorem encode_inj {s t : List Char} : encode s = encode t ↔ s = t := by
  constructor
  · intro h
    have hdecode := decode_encode s
    rw [h, decode_encode] at hdecode
    exact (Except.ok.inj hdecode).symm
  · exact congrArg encode

end WorkspaceDesk.Text.Percent
