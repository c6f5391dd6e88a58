import Mathlib.Data.List.TakeWhile
import WorkspaceDesk.Text.Numeral

/-!
# Numbers that digits write

A text of digits writes a number if all of them are decimal digits and there are not too many. A digit that
stands alone, such as a superscript, has no place in a number, and the text is refused (`parseInt_digits`).
-/

namespace WorkspaceDesk.Text

/-- A decimal digit of some script. -/
def isDecimal (c : Char) : Bool :=
  (decimalValue? c).isSome

variable {c : Char} {digits : List Char}

/-- The code points of a set, one by one. -/
def CodePoints.points (s : CodePoints) : List Nat :=
  s.ranges.flatMap fun r => List.range' r.1 (r.2 + 1 - r.1)

theorem CodePoints.mem_points_of_covers {s : CodePoints} {n : Nat} (h : s.covers n = true) :
    n ∈ s.points := by
  obtain ⟨r, hr, hn⟩ := List.any_eq_true.mp h
  rw [Bool.and_eq_true, decide_eq_true_eq, decide_eq_true_eq] at hn
  refine List.mem_flatMap.mpr ⟨r, hr, ?_⟩
  rw [List.mem_range'_1]
  omega

/-- A digit is no blank. -/
theorem isBlank_of_isDigit (h : isDigit c = true) : isBlank c = false := by
  refine Bool.eq_false_iff.mpr fun hblank => ?_
  have hnone : ∀ n ∈ blanks.points, isDigit (Char.ofNat n) = false := by decide
  have hc := hnone _ (CodePoints.mem_points_of_covers hblank)
  rw [Char.ofNat_toNat, h] at hc
  cases hc

theorem ne_of_isDigit {d : Char} (h : isDigit c = true) (hd : isDigit d = false) : c ≠ d := by
  rintro rfl
  rw [h] at hd
  cases hd

/-- A run of digits ends before the first one that stands alone. -/
theorem digitRun?_digits (h : ∀ c ∈ digits, isDigit c = true) (after : Bool) :
    digitRun? after digits =
      some ((digits.takeWhile isDecimal).filterMap decimalValue?, digits.dropWhile isDecimal) := by
  induction digits generalizing after with
  | nil => rfl
  | cons c digits ih =>
    have hrest := ih (fun d hd => h d (List.mem_cons_of_mem c hd))
    cases hc : decimalValue? c with
    | some d => simp [digitRun?, isDecimal, hc, hrest]
    | none =>
      have hscore : c ≠ '_' := ne_of_isDigit (h c List.mem_cons_self) (by decide)
      simp [digitRun?, isDecimal, hc, hscore]

theorem length_decimalValues (digits : List Char) :
    ((digits.takeWhile isDecimal).filterMap decimalValue?).length =
      (digits.takeWhile isDecimal).length :=
  List.filterMap_length_eq_length.mpr fun _ hc =>
    List.all_eq_true.mp (List.all_takeWhile (p := isDecimal)) _ hc

theorem isNumeralBlank_of_isDigit (h : isDigit c = true) : isNumeralBlank c = false := by
  rw [isNumeralBlank, isBlank_of_isDigit h, Bool.false_and]

/-- The first of some digits is neither a blank nor a sign. -/
theorem splitSign_digits (h : ∀ c ∈ digits, isDigit c = true) :
    splitSign (digits.dropWhile isNumeralBlank) = (false, digits) := by
  cases digits with
  | nil => rfl
  | cons c tail =>
    have hc := h c List.mem_cons_self
    have hplus : c ≠ '+' := ne_of_isDigit hc (by decide)
    have hminus : c ≠ '-' := ne_of_isDigit hc (by decide)
    rw [List.dropWhile_cons_of_neg (by simp [isNumeralBlank_of_isDigit hc])]
    unfold splitSign
    split <;> simp_all

/-- What follows the run begins with a digit, so that it is not blank. -/
theorem not_all_isNumeralBlank_of_digits (h : ∀ c ∈ digits, isDigit c = true)
    (hnot : ¬ digits.all isDecimal = true) : (digits.dropWhile isDecimal).all isNumeralBlank = false := by
  have hnil : digits.dropWhile isDecimal ≠ [] := fun hnil =>
    hnot (List.all_eq_true.mpr (List.dropWhile_eq_nil_iff.mp hnil))
  have hmem := List.head_mem hnil
  exact List.all_eq_false.mpr ⟨_, hmem,
    by simp [isNumeralBlank_of_isDigit (h _ ((List.dropWhile_suffix _).subset hmem))]⟩

/-- The number that digits write, or why they write none. A digit that stands alone makes a text malformed,
unless there are too many decimal digits before it. -/
theorem parseInt_digits (hne : digits ≠ []) (h : ∀ c ∈ digits, isDigit c = true) :
    parseInt digits =
      if maxDigits < (digits.takeWhile isDecimal).length then
        .error (.tooLong (digits.takeWhile isDecimal).length)
      else if digits.all isDecimal then .ok (ofDigits (digits.filterMap decimalValue?))
      else .error (.malformed digits) := by
  have hlength := length_decimalValues digits
  unfold parseInt
  rw [splitSign_digits h]
  dsimp only
  rw [digitRun?_digits h]
  dsimp only
  rw [hlength]
  by_cases hall : digits.all isDecimal = true
  · have hwhole : digits.takeWhile isDecimal = digits :=
      List.takeWhile_eq_self_iff.mpr (List.all_eq_true.mp hall)
    have hrest : digits.dropWhile isDecimal = [] :=
      List.dropWhile_eq_nil_iff.mpr (List.all_eq_true.mp hall)
    have hsome : (digits.filterMap decimalValue?).isEmpty = false := by
      rw [hwhole] at hlength
      rw [List.isEmpty_eq_false_iff, ← List.length_pos_iff, hlength]
      exact List.length_pos_iff.mpr hne
    rw [hwhole, hrest, hsome, hall]
    rfl
  · rw [not_all_isNumeralBlank_of_digits h hall, if_neg hall]
    split
    · rename_i hempty
      rw [List.isEmpty_iff_length_eq_zero, hlength] at hempty
      rw [if_neg (by omega)]
    · rfl

end WorkspaceDesk.Text
