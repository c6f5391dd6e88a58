import Mathlib.Algebra.Ring.Nat
import Mathlib.Data.List.TakeDrop
import WorkspaceDesk.Json.Reader
import WorkspaceDesk.Json.Writer

/-!
# Whole numbers back from their written form

A whole number is written by its decimal digits behind a minus sign where it is negative. It is read back
if it has no more digits than are read, and if what follows cannot go on with a number
(`atom_toString`).
-/

namespace WorkspaceDesk.Json

open Text

/-! ## Decimal digits -/

theorem digitsValue_toDigits (n : Nat) : digitsValue (Nat.toDigits 10 n) = n := by
  rw [digitsValue, ofDigits, List.foldl_map]
  exact (Nat.ofDigitChars_eq_foldl).symm.trans Nat.ofDigitChars_ten_toDigits

/-- The digits of a number that is not zero begin with another digit than zero. -/
theorem toDigits_head {n : Nat} (hn : 0 < n) :
    ∃ d rest, Nat.toDigits 10 n = d :: rest ∧ d ≠ '0' := by
  -- the first digit of `n` is that of `n / 10`, down to a number of one digit
  induction n using Nat.strongRecOn with
  | ind n ih =>
    by_cases hlt : n < 10
    · have hdigit : ∀ m < 10, 0 < m → Nat.digitChar m ≠ '0' := by decide
      exact ⟨_, [], Nat.toDigits_of_lt_base hlt, hdigit n hlt hn⟩
    · obtain ⟨d, rest, hrest, hd⟩ := ih (n / 10) (by omega) (by omega)
      refine ⟨d, rest ++ [Nat.digitChar (n % 10)], ?_, hd⟩
      rw [Nat.toDigits_of_base_le (by decide) (by omega), hrest, List.cons_append]

theorem length_toDigits_le {n : Nat} (h : n < 10 ^ maxDigits) :
    (Nat.toDigits 10 n).length ≤ maxDigits :=
  (Nat.length_toDigits_le_iff (by decide) (by decide)).mpr h

theorem isDigit_of_mem {n : Nat} {c : Char} (h : c ∈ Nat.toDigits 10 n) : c.isDigit = true :=
  Nat.isDigit_of_mem_toDigits (by decide) (by decide) h

/-- There is always a digit to begin with. -/
theorem toDigits_eq_cons (n : Nat) :
    ∃ d digits, Nat.toDigits 10 n = d :: digits ∧ d.isDigit = true := by
  obtain ⟨d, digits, hdigits⟩ := List.exists_cons_of_ne_nil
    (Nat.toDigits_ne_nil (n := n) (b := 10))
  refine ⟨d, digits, hdigits, isDigit_of_mem (n := n) ?_⟩
  rw [hdigits]
  exact List.mem_cons_self

theorem toList_toString (n : Int) : (toString n).toList =
    if n < 0 then '-' :: Nat.toDigits 10 n.natAbs else Nat.toDigits 10 n.natAbs := by
  rw [Int.toString_eq_repr, Int.repr_eq_if]
  by_cases hn : n < 0
  · rw [if_neg (by omega), if_pos hn, String.toList_append, Nat.toList_repr,
      show (-n).toNat = n.natAbs by omega]
    rfl
  · rw [if_pos (by omega), if_neg hn, Nat.toList_repr, show n.toNat = n.natAbs by omega]

/-! ## What follows a number -/

/-- What stands behind a value in a written text: a comma, a line feed or nothing. -/
def Follows (rest : List Char) : Prop :=
  ∀ c, rest.head? = some c → c = ',' ∨ c = '\n'

theorem follows_comma (rest : List Char) : Follows (',' :: rest) := by
  intro c h
  exact .inl (Option.some.inj h).symm

theorem follows_feed (rest : List Char) : Follows ('\n' :: rest) := by
  intro c h
  exact .inr (Option.some.inj h).symm

variable {rest : List Char}

theorem span_digits {digits : List Char} (hdigits : ∀ c ∈ digits, c.isDigit = true)
    (hrest : Follows rest) : (digits ++ rest).span Char.isDigit = (digits, rest) := by
  -- neither a comma nor a line feed is a digit
  have hstop : rest.takeWhile Char.isDigit = [] ∧ rest.dropWhile Char.isDigit = rest := by
    cases rest with
    | nil => exact ⟨rfl, rfl⟩
    | cons c rest =>
      have hc : ¬ c.isDigit = true := by
        rcases hrest c rfl with rfl | rfl <;> decide
      exact ⟨List.takeWhile_cons_of_neg hc, List.dropWhile_cons_of_neg hc⟩
  rw [List.span_eq_takeWhile_dropWhile, List.takeWhile_append_of_pos hdigits,
    List.dropWhile_append_of_pos hdigits, hstop.1, hstop.2, List.append_nil]

theorem wholeDigits_toDigits (n : Nat) (hrest : Follows rest) :
    wholeDigits (Nat.toDigits 10 n ++ rest) = (Nat.toDigits 10 n, rest) := by
  by_cases hn : n = 0
  · subst hn
    rfl
  · obtain ⟨d, digits, hdigits, hd⟩ := toDigits_head (Nat.pos_of_ne_zero hn)
    have hall : ∀ c ∈ d :: digits, c.isDigit = true := by
      rw [← hdigits]
      exact fun c => isDigit_of_mem
    rw [hdigits, List.cons_append, wholeDigits, if_neg hd, if_pos (hall d List.mem_cons_self),
      ← List.cons_append, span_digits hall hrest]

theorem fractionDigits_of_follows (hrest : Follows rest) : fractionDigits rest = (none, rest) := by
  cases rest with
  | nil => rfl
  | cons c rest => rcases hrest c rfl with rfl | rfl <;> rfl

theorem powerOfTen_of_follows (hrest : Follows rest) : powerOfTen rest = (none, rest) := by
  cases rest with
  | nil => rfl
  | cons c rest => rcases hrest c rfl with rfl | rfl <;> rfl

/-! ## Whole numbers -/

/-- Digits, with a sign or without one, are read as a whole number. -/
theorem number_toString {n : Int} (hn : n.natAbs < 10 ^ maxDigits) (hrest : Follows rest) :
    number ((toString n).toList ++ rest) = .ok (.int n, rest) := by
  have hlength := length_toDigits_le hn
  have hne : (Nat.toDigits 10 n.natAbs).isEmpty = false := by
    rw [List.isEmpty_eq_false_iff]
    exact Nat.toDigits_ne_nil
  rw [toList_toString]
  by_cases hneg : n < 0
  · have hsigned : signed true n.natAbs = n := by
      rw [signed, if_pos rfl]
      omega
    rw [if_pos hneg, List.cons_append, number]
    simp only [wholeDigits_toDigits _ hrest, hne, fractionDigits_of_follows hrest,
      powerOfTen_of_follows hrest, Nat.not_lt.mpr hlength, digitsValue_toDigits, hsigned,
      Bool.false_eq_true, ↓reduceIte]
  · have hsigned : signed false n.natAbs = n := by
      rw [signed, if_neg Bool.false_ne_true]
      omega
    -- without a sign the reader must not take the branch for negative numbers
    have hplain : ∀ t, Nat.toDigits 10 n.natAbs ++ rest ≠ '-' :: t := by
      intro t ht
      obtain ⟨d, digits, hdigits, hd⟩ := toDigits_eq_cons n.natAbs
      rw [hdigits, List.cons_append] at ht
      rw [(List.cons.inj ht).1] at hd
      exact absurd hd (by decide)
    rw [if_neg hneg, number]
    · simp only [wholeDigits_toDigits _ hrest, hne, fractionDigits_of_follows hrest,
        powerOfTen_of_follows hrest, Nat.not_lt.mpr hlength, digitsValue_toDigits, hsigned,
        Bool.false_eq_true, ↓reduceIte]
    · exact hplain

/-- The written form of a number begins with a digit, or with a minus sign and a digit. -/
theorem toString_head (n : Int) : ∃ c t, (toString n).toList = c :: t ∧
    (c.isDigit = true ∨ c = '-' ∧ ∃ d u, t = d :: u ∧ d.isDigit = true) := by
  obtain ⟨d, digits, hdigits, hd⟩ := toDigits_eq_cons n.natAbs
  rw [toList_toString, hdigits]
  by_cases hneg : n < 0
  · rw [if_pos hneg]
    exact ⟨'-', _, rfl, .inr ⟨rfl, d, digits, rfl, hd⟩⟩
  · rw [if_neg hneg]
    exact ⟨d, digits, rfl, .inl hd⟩

theorem isPrefixOf?_of_ne {a b : Char} (h : a ≠ b) (s t : List Char) :
    (a :: s).isPrefixOf? (b :: t) = none := by
  show (if a == b then s.isPrefixOf? t else none) = none
  rw [beq_eq_false_iff_ne.mpr h]
  rfl

/-- No word begins like a number. -/
theorem isPrefixOf?_word {c : Char} {t : List Char}
    (hc : c.isDigit = true ∨ c = '-' ∧ ∃ d u, t = d :: u ∧ d.isDigit = true) :
    ∀ w ∈ words, w.1.isPrefixOf? (c :: t) = none := by
  have hdigit : ∀ a d : Char, a.isDigit = false → d.isDigit = true → a ≠ d := by
    rintro a d ha hd rfl
    rw [ha] at hd
    cases hd
  have hletter : ∀ a : Char, a.isDigit = false → a ≠ '-' → a ≠ c := by
    intro a ha hminus
    rcases hc with hc | ⟨rfl, -⟩
    · exact hdigit a c ha hc
    · exact hminus
  intro w hw
  simp only [words, List.mem_cons, List.not_mem_nil, or_false] at hw
  rcases hw with rfl | rfl | rfl | rfl | rfl | rfl
  · exact isPrefixOf?_of_ne (hletter 'n' rfl (by decide)) _ _
  · exact isPrefixOf?_of_ne (hletter 't' rfl (by decide)) _ _
  · exact isPrefixOf?_of_ne (hletter 'f' rfl (by decide)) _ _
  · exact isPrefixOf?_of_ne (hletter 'N' rfl (by decide)) _ _
  · exact isPrefixOf?_of_ne (hletter 'I' rfl (by decide)) _ _
  · -- the last word begins with a minus sign as well, but goes on with a letter
    rcases hc with hc | ⟨rfl, d, u, rfl, hd⟩
    · exact isPrefixOf?_of_ne (hdigit '-' c rfl hc) _ _
    · exact isPrefixOf?_of_ne (hdigit 'I' d rfl hd) "nfinity".toList u

/-- A written number is read. -/
theorem atom_toString {n : Int} (hn : n.natAbs < 10 ^ maxDigits) (hrest : Follows rest) :
    atom ((toString n).toList ++ rest) = .ok (.int n, rest) := by
  obtain ⟨c, t, hct, hc⟩ := toString_head n
  have hc' : c.isDigit = true ∨ c = '-' ∧ ∃ d u, t ++ rest = d :: u ∧ d.isDigit = true :=
    hc.imp_right fun ⟨hminus, d, u, hu, hd⟩ => ⟨hminus, d, u ++ rest, by rw [hu]; rfl, hd⟩
  have hwords : (words.findSome? fun w =>
      (w.1.isPrefixOf? (c :: (t ++ rest))).map fun after => (w.2, after)) = none := by
    rw [List.findSome?_eq_none_iff]
    intro w hw
    rw [isPrefixOf?_word hc' w hw, Option.map_none]
  rw [atom, ← number_toString hn hrest, hct, List.cons_append, hwords]

end WorkspaceDesk.Json
