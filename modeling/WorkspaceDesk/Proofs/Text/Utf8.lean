import WorkspaceDesk.Proofs.Except
import WorkspaceDesk.Text.Utf8

/-!
# Characters back from their bytes

The bytes that a text is encoded by are read as the characters of the text, and no other bytes are.
-/

namespace WorkspaceDesk.Text.Utf8

theorem toNat_byte {n : Nat} (h : n < 256) : (UInt8.ofNat n).toNat = n := by
  rw [UInt8.toNat_ofNat']
  omega

theorem push_eq {p : Pending} {b : UInt8} {n : Nat} (hb : b.toNat = n) :
    p.push b = p.bits * 64 + (n - 0x80) := by
  subst hb
  rfl

/-- A byte within the bounds completes a character. -/
theorem piecesFrom_last {p : Pending} {n : Nat} (hmore : p.more = 0) (hlow : p.low ≤ n)
    (hhigh : n ≤ p.high) (hn : n < 256) (pos : Nat) (rest : Bytes) :
    piecesFrom (some p) pos (UInt8.ofNat n :: rest) =
      .ok (Char.ofNat (p.bits * 64 + (n - 0x80))) :: piecesFrom none (pos + 1) rest := by
  rw [piecesFrom, push_eq (toNat_byte hn), toNat_byte hn, if_pos ⟨hlow, hhigh⟩, hmore]

/-- A byte within the bounds leaves a character pending that takes more bytes. -/
theorem piecesFrom_more {p : Pending} {n more : Nat} (hmore : p.more = more + 1) (hlow : p.low ≤ n)
    (hhigh : n ≤ p.high) (hn : n < 256) (pos : Nat) (rest : Bytes) :
    piecesFrom (some p) pos (UInt8.ofNat n :: rest) =
      piecesFrom (some ⟨p.start, p.first, more, 0x80, 0xbf, p.bits * 64 + (n - 0x80)⟩) (pos + 1)
        rest := by
  rw [piecesFrom, push_eq (toNat_byte hn), toNat_byte hn, if_pos ⟨hlow, hhigh⟩, hmore]

/-- The number of a character is below the surrogates or above them. -/
theorem char_bounds (c : Char) :
    c.val.toNat < 0xd800 ∨ 0xdfff < c.val.toNat ∧ c.val.toNat < 0x110000 :=
  c.valid

/-- The bytes of one character are read as this character. -/
theorem piecesFrom_encodeChar (c : Char) (pos : Nat) (rest : Bytes) :
    piecesFrom none pos (String.utf8EncodeChar c ++ rest) =
      .ok c :: piecesFrom none (pos + (String.utf8EncodeChar c).length) rest := by
  have hbounds := char_bounds c
  have hchar : Char.ofNat c.val.toNat = c := Char.ofNat_toNat c
  rw [String.utf8EncodeChar]
  generalize c.val.toNat = n at *
  split
  · -- one byte
    rw [List.singleton_append, piecesFrom, start, toNat_byte (by omega), if_pos (by omega), hchar]
    rfl
  split
  · -- two bytes
    have hbits : (n / 64 % 0x20 + 0xc0 - 0xc0) * 64 + (n % 0x40 + 0x80 - 0x80) = n := by omega
    rw [List.cons_append, List.singleton_append, piecesFrom, start, toNat_byte (by omega),
      if_neg (by omega), if_neg (by omega), if_pos (by omega)]
    dsimp only
    rw [piecesFrom_last rfl (by simp only; omega) (by simp only; omega) (by omega), hbits, hchar]
    rfl
  split
  · -- three bytes
    have hbits : ((n / 4096 % 0x10 + 0xe0 - 0xe0) * 64 + (n / 64 % 0x40 + 0x80 - 0x80)) * 64 +
        (n % 0x40 + 0x80 - 0x80) = n := by omega
    rw [List.cons_append, List.cons_append, List.singleton_append, piecesFrom, start,
      toNat_byte (by omega), if_neg (by omega), if_neg (by omega), if_neg (by omega),
      if_pos (by omega)]
    dsimp only
    rw [piecesFrom_more rfl (by dsimp only; split <;> omega) (by dsimp only; split <;> omega)
      (by omega), piecesFrom_last rfl (by dsimp only; omega) (by dsimp only; omega) (by omega)]
    dsimp only
    rw [hbits, hchar]
    rfl
  · -- four bytes
    have hbits : (((n / 262144 % 0x08 + 0xf0 - 0xf0) * 64 + (n / 4096 % 0x40 + 0x80 - 0x80)) * 64 +
        (n / 64 % 0x40 + 0x80 - 0x80)) * 64 + (n % 0x40 + 0x80 - 0x80) = n := by omega
    rw [List.cons_append, List.cons_append, List.cons_append, List.singleton_append, piecesFrom, start,
      toNat_byte (by omega), if_neg (by omega), if_neg (by omega), if_neg (by omega),
      if_neg (by omega), if_pos (by omega)]
    dsimp only
    rw [piecesFrom_more rfl (by dsimp only; split <;> omega) (by dsimp only; split <;> omega)
      (by omega), piecesFrom_more rfl (by dsimp only; omega) (by dsimp only; omega) (by omega),
      piecesFrom_last rfl (by dsimp only; omega) (by dsimp only; omega) (by omega)]
    dsimp only
    rw [hbits, hchar]
    rfl

theorem piecesFrom_encode (s : List Char) (pos : Nat) :
    piecesFrom none pos (encode s) = s.map .ok := by
  induction s generalizing pos with
  | nil => rfl
  | cons c s ih =>
    rw [encode, List.flatMap_cons, piecesFrom_encodeChar, List.map_cons]
    exact congrArg _ (ih _)

/-- A text is read from its bytes. -/
theorem decode_encode (s : List Char) : decode (encode s) = .ok s := by
  rw [decode, pieces, piecesFrom_encode]
  induction s with
  | nil => rfl
  | cons c s ih => rw [List.map_cons, List.mapM_cons, ih]; rfl

theorem encode_flatten (ls : List (List Char)) : encode ls.flatten = ls.flatMap encode := by
  induction ls with
  | nil => rfl
  | cons line rest ih =>
    rw [List.flatten_cons, List.flatMap_cons, ← ih]
    exact List.flatMap_append

theorem encode_inj {s t : List Char} : encode s = encode t ↔ s = t := by
  refine ⟨fun h => ?_, congrArg _⟩
  have hdecode := decode_encode s
  rw [h, decode_encode] at hdecode
  exact (Except.ok.inj hdecode).symm

/-! ## Bytes back from their characters -/

theorem toNat_ofNat {n : Nat} (h : n.isValidChar) : (Char.ofNat n).toNat = n := by
  rw [Char.ofNat, dif_pos h]
  rfl

/-- The bytes of the character of a number. -/
theorem utf8EncodeChar_ofNat {n : Nat} (h : n.isValidChar) :
    String.utf8EncodeChar (Char.ofNat n) =
      if n ≤ 0x7f then [UInt8.ofNat n]
      else if n ≤ 0x7ff then [UInt8.ofNat (n / 64 % 0x20 + 0xc0), UInt8.ofNat (n % 0x40 + 0x80)]
      else if n ≤ 0xffff then
        [UInt8.ofNat (n / 4096 % 0x10 + 0xe0), UInt8.ofNat (n / 64 % 0x40 + 0x80),
          UInt8.ofNat (n % 0x40 + 0x80)]
      else
        [UInt8.ofNat (n / 262144 % 0x08 + 0xf0), UInt8.ofNat (n / 4096 % 0x40 + 0x80),
          UInt8.ofNat (n / 64 % 0x40 + 0x80), UInt8.ofNat (n % 0x40 + 0x80)] := by
  have hvalue : (Char.ofNat n).val.toNat = n := toNat_ofNat h
  rw [String.utf8EncodeChar, hvalue]

theorem eq_byte {b : UInt8} {n : Nat} (h : n = b.toNat) : UInt8.ofNat n = b := by
  rw [h, UInt8.ofNat_toNat]

variable {p : Pending} {pos : Nat} {bytes : Bytes} {c : Char} {ps : List (Except Fault Char)}

/-- A pending character that is read has a byte within the bounds to go on with. -/
theorem exists_byte_of_pending (h : piecesFrom (some p) pos bytes = .ok c :: ps) :
    ∃ b rest, bytes = b :: rest ∧ p.low ≤ b.toNat ∧ b.toNat ≤ p.high ∧
      piecesFrom (some p) pos (UInt8.ofNat b.toNat :: rest) = .ok c :: ps := by
  cases bytes with
  | nil => cases h
  | cons b rest =>
    by_cases hb : p.low ≤ b.toNat ∧ b.toNat ≤ p.high
    · exact ⟨b, rest, rfl, hb.1, hb.2, by rwa [UInt8.ofNat_toNat]⟩
    · rw [piecesFrom, if_neg hb] at h
      cases h

/-- The last byte of a pending character. -/
theorem exists_byte_of_last (hmore : p.more = 0)
    (h : piecesFrom (some p) pos bytes = .ok c :: ps) :
    ∃ b rest, bytes = b :: rest ∧ p.low ≤ b.toNat ∧ b.toNat ≤ p.high ∧
      c = Char.ofNat (p.bits * 64 + (b.toNat - 0x80)) ∧ piecesFrom none (pos + 1) rest = ps := by
  obtain ⟨b, rest, rfl, hlow, hhigh, hread⟩ := exists_byte_of_pending h
  rw [piecesFrom_last hmore hlow hhigh b.toNat_lt] at hread
  obtain ⟨hc, hps⟩ := List.cons.inj hread
  exact ⟨b, rest, rfl, hlow, hhigh, (Except.ok.inj hc).symm, hps⟩

/-- A byte of a pending character that is not the last one. -/
theorem exists_byte_of_more {more : Nat} (hmore : p.more = more + 1)
    (h : piecesFrom (some p) pos bytes = .ok c :: ps) :
    ∃ b rest, bytes = b :: rest ∧ p.low ≤ b.toNat ∧ b.toNat ≤ p.high ∧
      piecesFrom (some ⟨p.start, p.first, more, 0x80, 0xbf, p.bits * 64 + (b.toNat - 0x80)⟩) (pos + 1)
        rest = .ok c :: ps := by
  obtain ⟨b, rest, rfl, hlow, hhigh, hread⟩ := exists_byte_of_pending h
  rw [piecesFrom_more hmore hlow hhigh b.toNat_lt] at hread
  exact ⟨b, rest, rfl, hlow, hhigh, hread⟩

/-- The character that two bytes are read as is encoded by them. -/
theorem utf8EncodeChar_two {b b₁ : UInt8} (hb : 0xc2 ≤ b.toNat ∧ b.toNat < 0xe0)
    (hb₁ : 0x80 ≤ b₁.toNat ∧ b₁.toNat ≤ 0xbf) :
    String.utf8EncodeChar (Char.ofNat ((b.toNat - 0xc0) * 64 + (b₁.toNat - 0x80))) = [b, b₁] := by
  have hvalid : ((b.toNat - 0xc0) * 64 + (b₁.toNat - 0x80)).isValidChar := by
    unfold Nat.isValidChar
    omega
  rw [utf8EncodeChar_ofNat hvalid, if_neg (by omega), if_pos (by omega),
    eq_byte (b := b) (by omega), eq_byte (b := b₁) (by omega)]

theorem utf8EncodeChar_three {b b₁ b₂ : UInt8} (hb : 0xe0 ≤ b.toNat ∧ b.toNat < 0xf0)
    (hlow : (if b.toNat = 0xe0 then 0xa0 else 0x80) ≤ b₁.toNat)
    (hhigh : b₁.toNat ≤ if b.toNat = 0xed then 0x9f else 0xbf)
    (hb₂ : 0x80 ≤ b₂.toNat ∧ b₂.toNat ≤ 0xbf) :
    String.utf8EncodeChar (Char.ofNat
      (((b.toNat - 0xe0) * 64 + (b₁.toNat - 0x80)) * 64 + (b₂.toNat - 0x80))) = [b, b₁, b₂] := by
  have hlow' : 0x80 ≤ b₁.toNat ∧ (b.toNat = 0xe0 → 0xa0 ≤ b₁.toNat) := by
    split at hlow <;> omega
  have hhigh' : b₁.toNat ≤ 0xbf ∧ (b.toNat = 0xed → b₁.toNat ≤ 0x9f) := by
    split at hhigh <;> omega
  have hvalid :
      (((b.toNat - 0xe0) * 64 + (b₁.toNat - 0x80)) * 64 + (b₂.toNat - 0x80)).isValidChar := by
    unfold Nat.isValidChar
    omega
  rw [utf8EncodeChar_ofNat hvalid, if_neg (by omega), if_neg (by omega), if_pos (by omega),
    eq_byte (b := b) (by omega), eq_byte (b := b₁) (by omega), eq_byte (b := b₂) (by omega)]

theorem utf8EncodeChar_four {b b₁ b₂ b₃ : UInt8} (hb : 0xf0 ≤ b.toNat ∧ b.toNat < 0xf5)
    (hlow : (if b.toNat = 0xf0 then 0x90 else 0x80) ≤ b₁.toNat)
    (hhigh : b₁.toNat ≤ if b.toNat = 0xf4 then 0x8f else 0xbf)
    (hb₂ : 0x80 ≤ b₂.toNat ∧ b₂.toNat ≤ 0xbf) (hb₃ : 0x80 ≤ b₃.toNat ∧ b₃.toNat ≤ 0xbf) :
    String.utf8EncodeChar (Char.ofNat
      ((((b.toNat - 0xf0) * 64 + (b₁.toNat - 0x80)) * 64 + (b₂.toNat - 0x80)) * 64 +
        (b₃.toNat - 0x80))) = [b, b₁, b₂, b₃] := by
  have hlow' : 0x80 ≤ b₁.toNat ∧ (b.toNat = 0xf0 → 0x90 ≤ b₁.toNat) := by
    split at hlow <;> omega
  have hhigh' : b₁.toNat ≤ 0xbf ∧ (b.toNat = 0xf4 → b₁.toNat ≤ 0x8f) := by
    split at hhigh <;> omega
  have hvalid :
      ((((b.toNat - 0xf0) * 64 + (b₁.toNat - 0x80)) * 64 + (b₂.toNat - 0x80)) * 64 +
        (b₃.toNat - 0x80)).isValidChar := by
    unfold Nat.isValidChar
    omega
  rw [utf8EncodeChar_ofNat hvalid, if_neg (by omega), if_neg (by omega), if_neg (by omega),
    eq_byte (b := b) (by omega), eq_byte (b := b₁) (by omega), eq_byte (b := b₂) (by omega),
    eq_byte (b := b₃) (by omega)]

/-- A character that is read first comes from the bytes that it is encoded by. -/
theorem exists_of_piecesFrom_eq (h : piecesFrom none pos bytes = .ok c :: ps) :
    ∃ next rest, bytes = String.utf8EncodeChar c ++ rest ∧ piecesFrom none next rest = ps := by
  cases bytes with
  | nil => cases h
  | cons b rest =>
    rw [piecesFrom, start] at h
    by_cases hone : b.toNat < 0x80
    · -- one byte
      rw [if_pos hone] at h
      obtain ⟨hc, hps⟩ := List.cons.inj h
      obtain rfl : Char.ofNat b.toNat = c := Except.ok.inj hc
      have hvalid : b.toNat.isValidChar := by
        unfold Nat.isValidChar
        omega
      refine ⟨_, rest, ?_, hps⟩
      rw [utf8EncodeChar_ofNat hvalid, if_pos (by omega), UInt8.ofNat_toNat, List.singleton_append]
    by_cases hbad : b.toNat < 0xc2
    · rw [if_neg hone, if_pos hbad] at h
      cases h
    by_cases htwo : b.toNat < 0xe0
    · rw [if_neg hone, if_neg hbad, if_pos htwo] at h
      dsimp only at h
      obtain ⟨b₁, rest, rfl, hlow, hhigh, hc, hps⟩ := exists_byte_of_last rfl h
      dsimp only at hlow hhigh
      refine ⟨_, rest, ?_, hps⟩
      rw [hc, utf8EncodeChar_two ⟨by omega, htwo⟩ ⟨hlow, hhigh⟩, List.cons_append,
        List.singleton_append]
    by_cases hthree : b.toNat < 0xf0
    · rw [if_neg hone, if_neg hbad, if_neg htwo, if_pos hthree] at h
      dsimp only at h
      obtain ⟨b₁, rest, rfl, hlow, hhigh, h⟩ := exists_byte_of_more rfl h
      obtain ⟨b₂, rest, rfl, hlow₂, hhigh₂, hc, hps⟩ := exists_byte_of_last rfl h
      dsimp only at hlow hhigh hlow₂ hhigh₂
      refine ⟨_, rest, ?_, hps⟩
      rw [hc, utf8EncodeChar_three ⟨by omega, hthree⟩ hlow hhigh ⟨hlow₂, hhigh₂⟩, List.cons_append,
        List.cons_append, List.singleton_append]
    by_cases hfour : b.toNat < 0xf5
    · rw [if_neg hone, if_neg hbad, if_neg htwo, if_neg hthree, if_pos hfour] at h
      dsimp only at h
      obtain ⟨b₁, rest, rfl, hlow, hhigh, h⟩ := exists_byte_of_more rfl h
      obtain ⟨b₂, rest, rfl, hlow₂, hhigh₂, h⟩ := exists_byte_of_more rfl h
      obtain ⟨b₃, rest, rfl, hlow₃, hhigh₃, hc, hps⟩ := exists_byte_of_last rfl h
      dsimp only at hlow hhigh hlow₂ hhigh₂ hlow₃ hhigh₃
      refine ⟨_, rest, ?_, hps⟩
      rw [hc, utf8EncodeChar_four ⟨by omega, hfour⟩ hlow hhigh ⟨hlow₂, hhigh₂⟩ ⟨hlow₃, hhigh₃⟩,
        List.cons_append, List.cons_append, List.cons_append, List.singleton_append]
    · rw [if_neg hone, if_neg hbad, if_neg htwo, if_neg hthree, if_neg hfour] at h
      cases h

/-- Bytes within a character give a piece, though maybe only where they end. -/
theorem piecesFrom_some_ne_nil (p : Pending) (pos : Nat) (bytes : Bytes) :
    piecesFrom (some p) pos bytes ≠ [] := by
  induction bytes generalizing p pos with
  | nil => exact List.cons_ne_nil _ _
  | cons b rest ih =>
    rw [piecesFrom]
    split
    · split
      · exact List.cons_ne_nil _ _
      · exact ih _ _
    · exact List.cons_ne_nil _ _

theorem eq_nil_of_piecesFrom_eq_nil (h : piecesFrom none pos bytes = []) : bytes = [] := by
  cases bytes with
  | nil => rfl
  | cons b rest =>
    rw [piecesFrom] at h
    split at h
    · cases h
    · exact absurd h (piecesFrom_some_ne_nil _ _ _)

/-- Bytes that are read as a text are those of the text. -/
theorem encode_of_piecesFrom {s : List Char} (h : piecesFrom none pos bytes = s.map .ok) :
    encode s = bytes := by
  induction s generalizing pos bytes with
  | nil =>
    rw [eq_nil_of_piecesFrom_eq_nil h]
    rfl
  | cons c s ih =>
    obtain ⟨next, rest, rfl, hrest⟩ := exists_of_piecesFrom_eq h
    rw [encode, List.flatMap_cons]
    exact congrArg _ (ih hrest)

theorem mapM_id_eq_ok {xs : List (Except Fault Char)} {s : List Char} (h : xs.mapM id = .ok s) :
    xs = s.map .ok := by
  induction xs generalizing s with
  | nil =>
    cases h
    rfl
  | cons x xs ih =>
    rw [List.mapM_cons] at h
    obtain ⟨c, hx, h⟩ := exists_of_bind_eq_ok h
    obtain ⟨rest, hxs, h⟩ := exists_of_bind_eq_ok h
    cases h
    rw [List.map_cons, ih hxs, ← hx, id]

/-- Bytes are read as a text only where they are those of the text. -/
theorem decode_eq_ok {s : List Char} : decode bytes = .ok s ↔ encode s = bytes := by
  constructor
  · intro h
    exact encode_of_piecesFrom (mapM_id_eq_ok h)
  · intro h
    rw [← h, decode_encode]

/-! ## Lenient reading -/

/-- Each piece takes at least one byte, apart from one that is pending. -/
theorem length_piecesFrom_le (pending : Option Pending) (pos : Nat) (bytes : Bytes) :
    (piecesFrom pending pos bytes).length ≤ bytes.length + pending.toList.length := by
  induction bytes generalizing pending pos with
  | nil => cases pending <;> simp [piecesFrom]
  | cons b rest ih =>
    have hnone := ih none (pos + 1)
    have hsome := fun p => ih (some p) (pos + 1)
    simp only [Option.toList, List.length_nil, List.length_singleton] at hnone hsome
    -- what a byte that may begin a character gives
    have hstart : (piecesFrom none pos (b :: rest)).length ≤ rest.length + 1 := by
      rw [piecesFrom]
      split
      · exact Nat.succ_le_succ hnone
      · exact hsome _
    cases pending with
    | none => exact hstart
    | some p =>
      rw [piecesFrom]
      simp only [Option.toList, List.length_cons]
      split
      · split
        · exact Nat.le_succ_of_le (Nat.succ_le_succ hnone)
        · exact Nat.le_succ_of_le (hsome _)
      · exact Nat.succ_le_succ hstart

/-- Bytes give at most as many characters as there are bytes. -/
theorem length_decodeLenient_le (bytes : Bytes) : (decodeLenient bytes).length ≤ bytes.length := by
  rw [decodeLenient, List.length_map]
  exact length_piecesFrom_le none 0 bytes

end WorkspaceDesk.Text.Utf8
