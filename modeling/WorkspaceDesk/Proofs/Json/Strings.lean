import WorkspaceDesk.Json.Reader
import WorkspaceDesk.Json.Writer

/-!
# Strings back from their written form

Each character of a string is read from what it is written as: itself, a short escape, one escape of a
code unit or a pair of them. So a whole string is read as it was written (`string_writeString`).
-/

namespace WorkspaceDesk.Json

open Text

/-! ## Code units -/

theorem hexValue?_hexDigit {n : Nat} (h : n < 16) : hexValue? (hexDigit n) = some n := by
  revert n
  decide

theorem hexDigits_four (n : Nat) : hexDigits 4 n =
    [hexDigit (n / 16 / 16 / 16 % 16), hexDigit (n / 16 / 16 % 16), hexDigit (n / 16 % 16),
      hexDigit (n % 16)] :=
  rfl

/-- Four digits are read as the code unit that they are written for, where the text goes on. -/
theorem codeUnit?_hexDigits {n : Nat} (hn : n < 0x10000) {rest : List Char} (hrest : rest ≠ []) :
    codeUnit? (hexDigits 4 n ++ rest) = some n := by
  obtain ⟨c, rest, rfl⟩ := List.exists_cons_of_ne_nil hrest
  have hvalue : ∀ m, hexValue? (hexDigit (m % 16)) = some (m % 16) := fun m =>
    hexValue?_hexDigit (Nat.mod_lt m (by decide))
  -- the digits of a number below 16⁴, put together again
  have hsum : (((n / 16 / 16 / 16 % 16 * 16 + n / 16 / 16 % 16) * 16 + n / 16 % 16) * 16 + n % 16) =
      n := by omega
  rw [hexDigits_four]
  simp only [List.cons_append, List.nil_append, codeUnit?, hvalue, Option.bind_eq_bind,
    Option.bind_some, hsum]

theorem length_hexDigits (count n : Nat) : (hexDigits count n).length = count := by
  induction count generalizing n with
  | zero => rfl
  | succ count ih => rw [hexDigits, List.length_append, ih, List.length_singleton]

/-- Four digits stand for a code unit, whatever follows them. -/
structure IsUnit (digits : List Char) (n : Nat) : Prop where
  length : digits.length = 4
  value : ∀ rest, rest ≠ [] → codeUnit? (digits ++ rest) = some n

theorem isUnit_hexDigits {n : Nat} (hn : n < 0x10000) : IsUnit (hexDigits 4 n) n :=
  ⟨length_hexDigits 4 n, fun _ hrest => codeUnit?_hexDigits hn hrest⟩

theorem IsUnit.drop {digits : List Char} {n : Nat} (h : IsUnit digits n) (rest : List Char) :
    (digits ++ rest).drop 4 = rest := by
  rw [← h.length, List.drop_left]

theorem not_surrogate (c : Char) :
    isHighSurrogate c.toNat = false ∧ isLowSurrogate c.toNat = false := by
  have hvalid : c.toNat < 0xd800 ∨ 0xdfff < c.toNat ∧ c.toNat < 0x110000 := c.valid
  unfold isHighSurrogate isLowSurrogate
  constructor
  · rw [Bool.and_eq_false_iff, decide_eq_false_iff_not, decide_eq_false_iff_not]
    omega
  · rw [Bool.and_eq_false_iff, decide_eq_false_iff_not, decide_eq_false_iff_not]
    omega

theorem lt_of_isHighSurrogate {n : Nat} (h : isHighSurrogate n = true) : n < 0x10000 := by
  rw [isHighSurrogate, Bool.and_eq_true, decide_eq_true_eq, decide_eq_true_eq] at h
  omega

theorem lt_of_isLowSurrogate {n : Nat} (h : isLowSurrogate n = true) : n < 0x10000 := by
  rw [isLowSurrogate, Bool.and_eq_true, decide_eq_true_eq, decide_eq_true_eq] at h
  omega

/-- The upper ten bits of a character beyond the basic plane. -/
theorem isHighSurrogate_upper (c : Char) :
    isHighSurrogate (0xd800 + (c.toNat - 0x10000) / 0x400) = true := by
  have hvalid : c.toNat < 0xd800 ∨ 0xdfff < c.toNat ∧ c.toNat < 0x110000 := c.valid
  rw [isHighSurrogate, Bool.and_eq_true, decide_eq_true_eq, decide_eq_true_eq]
  omega

/-- The lower ten bits of a character beyond the basic plane. -/
theorem isLowSurrogate_lower (c : Char) :
    isLowSurrogate (0xdc00 + (c.toNat - 0x10000) % 0x400) = true := by
  rw [isLowSurrogate, Bool.and_eq_true, decide_eq_true_eq, decide_eq_true_eq]
  omega

/-! ## Escapes -/

variable {opening : Nat} {rest : List Char}

/-- One escape is read alone unless it is the first half of a pair and another escape follows. -/
theorem escape_alone {digits : List Char} {n : Nat} (hn : IsUnit digits n)
    (hsecond : isHighSurrogate n = true → secondEscape? rest = none) (hrest : rest ≠ []) :
    escape opening ('u' :: digits ++ rest) = .ok (unitChar n, 5) := by
  have hnone : (if isHighSurrogate n then secondEscape? rest else none) = none := by
    split
    · exact hsecond ‹_›
    · rfl
  rw [List.cons_append, escape]
  simp only [hn.value rest hrest, hn.drop, hnone, Char.reduceEq, or_self, ↓reduceIte]

/-- One escape of a code unit that is no surrogate names the character of this number. -/
theorem escape_isUnit {digits : List Char} {n : Nat} (hn : IsUnit digits n)
    (hhigh : isHighSurrogate n = false) (hlow : isLowSurrogate n = false) (hrest : rest ≠ []) :
    escape opening ('u' :: digits ++ rest) = .ok (Char.ofNat n, 5) := by
  rw [escape_alone hn (fun h => by rw [hhigh] at h; cases h) hrest, unitChar, hhigh, hlow]
  rfl

/-- One escape names a character of the basic plane. -/
theorem escape_unit {c : Char} (hc : c.toNat < 0x10000) (hrest : rest ≠ []) :
    escape opening ('u' :: hexDigits 4 c.toNat ++ rest) = .ok (c, 5) := by
  rw [escape_isUnit (isUnit_hexDigits hc) (not_surrogate c).1 (not_surrogate c).2 hrest,
    Char.ofNat_toNat]

/-- Two escapes of surrogates name one character. -/
theorem escape_surrogates {first second : List Char} {high low : Nat} (hfirst : IsUnit first high)
    (hhigh : isHighSurrogate high = true) (hsecond : IsUnit second low)
    (hlow : isLowSurrogate low = true) (hrest : rest ≠ []) :
    escape opening ('u' :: first ++ ('\\' :: 'u' :: second ++ rest)) =
      .ok (Char.ofNat (0x10000 + (high - 0xd800) * 0x400 + (low - 0xdc00)), 11) := by
  have hroom : secondEscape? ('\\' :: 'u' :: second ++ rest) = some (second ++ rest) := by
    have := List.length_pos_iff.mpr hrest
    rw [List.cons_append, List.cons_append, secondEscape?, if_pos]
    rw [List.length_append, hsecond.length]
    omega
  rw [List.cons_append, escape, hfirst.value _ (by simp)]
  simp only [hhigh, hfirst.drop, hroom, hsecond.value rest hrest, hlow, Char.reduceEq, or_self,
    ↓reduceIte]

/-- The surrogates of a character beyond the basic plane name this character. -/
theorem escape_pair {c : Char} (hc : 0x10000 ≤ c.toNat) (hrest : rest ≠ []) :
    escape opening ('u' :: hexDigits 4 (0xd800 + (c.toNat - 0x10000) / 0x400) ++
      ('\\' :: 'u' :: hexDigits 4 (0xdc00 + (c.toNat - 0x10000) % 0x400) ++ rest)) =
        .ok (c, 11) := by
  -- twenty bits above the basic plane, ten for each surrogate
  have hsum : ∀ high low : Nat, high = 0xd800 + (c.toNat - 0x10000) / 0x400 →
      low = 0xdc00 + (c.toNat - 0x10000) % 0x400 →
        0x10000 + (high - 0xd800) * 0x400 + (low - 0xdc00) = c.toNat := by
    intro high low hh hl
    omega
  have hhigh := isHighSurrogate_upper c
  have hlow := isLowSurrogate_lower c
  rw [escape_surrogates (isUnit_hexDigits (lt_of_isHighSurrogate hhigh)) hhigh
    (isUnit_hexDigits (lt_of_isLowSurrogate hlow)) hlow hrest, hsum _ _ rfl rfl, Char.ofNat_toNat]

/-! ## Whole strings -/

/-- The characters of an escape are passed over. -/
theorem stringBody_skip (used rest : List Char) :
    stringBody opening used.length (used ++ rest) = stringBody opening 0 rest := by
  induction used with
  | nil => rfl
  | cons c used ih =>
    rw [List.length_cons, List.cons_append, stringBody]
    exact ih

/-- A character that an escape names is the next one of the string. -/
theorem stringBody_escape (used : List Char) {c : Char}
    (hescape : escape opening (used ++ rest) = .ok (c, used.length)) :
    stringBody opening 0 ('\\' :: used ++ rest) =
      (stringBody opening 0 rest).map fun read => (c :: read.1, read.2) := by
  rw [List.cons_append, stringBody]
  simp only [Char.reduceEq, ↓reduceIte, hescape, stringBody_skip]
  cases stringBody opening 0 rest <;> rfl

/-- A character that stands for itself is the next one of the string. -/
theorem stringBody_plain {c : Char} (hquote : c ≠ '"') (hslash : c ≠ '\\') (hcontrol : ¬ c.toNat < 0x20) :
    stringBody opening 0 (c :: rest) =
      (stringBody opening 0 rest).map fun read => (c :: read.1, read.2) := by
  rw [stringBody, if_neg hquote, if_neg hslash, if_neg hcontrol]
  cases stringBody opening 0 rest <;> rfl

/-- A character is read from what it is written as. -/
theorem stringBody_writeChar (c : Char) (hne : rest ≠ []) :
    stringBody opening 0 (writeChar c ++ rest) =
      (stringBody opening 0 rest).map fun read => (c :: read.1, read.2) := by
  have hshort : ∀ d : Char, escape opening (d :: rest) = .ok (c, 1) →
      stringBody opening 0 ('\\' :: d :: rest) =
        (stringBody opening 0 rest).map fun read => (c :: read.1, read.2) := fun d hd =>
    stringBody_escape [d] hd
  -- the cases of `writeChar` in its order: short escapes, the character itself, one unit, two units
  unfold writeChar
  split
  · subst c
    exact hshort '"' rfl
  split
  · subst c
    exact hshort '\\' rfl
  split
  · subst c
    exact hshort 'n' rfl
  split
  · subst c
    exact hshort 'r' rfl
  split
  · subst c
    exact hshort 't' rfl
  split
  · subst c
    exact hshort 'b' rfl
  split
  · subst c
    exact hshort 'f' rfl
  split
  · rename_i hquote hslash _ _ _ _ _ hprintable
    exact stringBody_plain hquote hslash (by omega)
  split
  · rename_i hbasic
    have hlength : ('u' :: hexDigits 4 c.toNat).length = 5 := by
      rw [List.length_cons, length_hexDigits]
    refine stringBody_escape ('u' :: hexDigits 4 c.toNat) ?_
    rw [hlength]
    exact escape_unit hbasic hne
  · rename_i hbeyond
    have hlength : ∀ high low : Nat,
        ('u' :: hexDigits 4 high ++ '\\' :: 'u' :: hexDigits 4 low).length = 11 := by
      intro high low
      rw [List.length_append, List.length_cons, List.length_cons, List.length_cons,
        length_hexDigits, length_hexDigits]
    refine stringBody_escape ('u' :: hexDigits 4 (0xd800 + (c.toNat - 0x10000) / 0x400) ++
      '\\' :: 'u' :: hexDigits 4 (0xdc00 + (c.toNat - 0x10000) % 0x400)) ?_
    rw [hlength, List.append_assoc]
    exact escape_pair (by omega) hne

theorem stringBody_flatMap (s : List Char) (rest : List Char) :
    stringBody opening 0 (s.flatMap writeChar ++ '"' :: rest) = .ok (s, rest) := by
  induction s with
  | nil => rfl
  | cons c s ih =>
    rw [List.flatMap_cons, List.append_assoc, stringBody_writeChar c (by simp), ih]
    rfl

/-- A written string is read, after its opening quote. -/
theorem string_writeString (s : String) (rest : List Char) :
    string (s.toList.flatMap writeChar ++ '"' :: rest) = .ok (s, rest) := by
  rw [string, stringBody_flatMap]
  simp only [String.ofList_toList]

end WorkspaceDesk.Json
