import Mathlib.Data.List.Basic
import Mathlib.Data.List.TakeDrop
import Mathlib.Data.List.TakeWhile
import WorkspaceDesk.Text.Layout
import WorkspaceDesk.Text.Printable

/-!
# Cells of laid out lines

A line that is cut takes exactly the cells that it is cut to (`cells_cutTo`), and so a line in a
field takes the cells of the field (`cells_field`). A printable line that fits a field stands in it
as it is (`field_of_printable`).
-/

namespace WorkspaceDesk.Text

variable {s t : List Char} {width : Nat}

/-! ## Counting cells -/

theorem foldl_cells (s : List Char) (n : Nat) :
    s.foldl (fun n c => n + charCells c) n = n + cells s := by
  induction s generalizing n with
  | nil => rfl
  | cons c s ih =>
    rw [cells, List.foldl_cons, List.foldl_cons, ih, ih, Nat.zero_add, Nat.add_assoc]

@[simp]
theorem cells_nil : cells [] = 0 :=
  rfl

@[simp]
theorem cells_cons (c : Char) (s : List Char) : cells (c :: s) = charCells c + cells s := by
  rw [cells, List.foldl_cons, foldl_cells, Nat.zero_add]

@[simp]
theorem cells_append (s t : List Char) : cells (s ++ t) = cells s + cells t := by
  rw [cells, List.foldl_append, foldl_cells, foldl_cells, Nat.zero_add]

theorem charCells_le (c : Char) : charCells c ≤ 2 := by
  unfold charCells
  repeat' split
  all_goals decide

theorem charCells_space : charCells ' ' = 1 := by
  decide

@[simp]
theorem cells_spaces (n : Nat) : cells (spaces n) = n := by
  induction n with
  | zero => rfl
  | succ n ih =>
    rw [spaces, List.replicate_succ, cells_cons, charCells_space, ← spaces, ih, Nat.add_comm]

theorem cells_take_le (s : List Char) {i j : Nat} (h : i ≤ j) :
    cells (s.take i) ≤ cells (s.take j) := by
  obtain ⟨t, ht⟩ := List.take_prefix_take_left (l := s) h
  rw [← ht, cells_append]
  exact Nat.le_add_right _ _

/-! ## Cutting -/

/-- With the character at a position a text first takes as many cells as the width, or one more. -/
def Crosses (width : Nat) (s : List Char) (m : Nat) : Prop :=
  cells (s.take m) < width ∧ width ≤ cells (s.take (m + 1))

theorem exists_crosses (hwidth : 0 < width) (h : width ≤ cells s) : ∃ m, Crosses width s m := by
  have htake : ∀ k, width ≤ cells (s.take k) → ∃ m, Crosses width s m := by
    intro k hk
    induction k with
    | zero =>
      rw [List.take_zero, cells_nil] at hk
      omega
    | succ k ih =>
      by_cases hless : width ≤ cells (s.take k)
      · exact ih hless
      · exact ⟨k, by omega, hk⟩
  exact htake s.length (by rwa [List.take_length])

theorem Crosses.lt_length {m : Nat} (h : Crosses width s m) : m < s.length := by
  by_contra hle
  have hsame : s.take (m + 1) = s.take m := by
    rw [List.take_of_length_le (by omega), List.take_of_length_le (by omega)]
  obtain ⟨hbelow, habove⟩ := h
  rw [hsame] at habove
  omega

theorem take_succ_eq {m : Nat} (h : m < s.length) : s.take (m + 1) = s.take m ++ [s[m]] :=
  (List.take_concat_get' s m h).symm

/-- Halving the range finds the position where the width is reached. -/
theorem cells_cutSearch {m fuel low high : Nat} (hm : Crosses width s m) (hlow : low ≤ m)
    (hhigh : m < high) (hfuel : high - low ≤ fuel) :
    cells (cutSearch width s fuel low high) = width := by
  have hlength := hm.lt_length
  induction fuel generalizing low high with
  | zero => omega
  | succ fuel ih =>
    rw [cutSearch]
    have hlast : (s.take (m + 1)).getLast? = some s[m] := by
      rw [take_succ_eq hlength, List.getLast?_concat]
    have hcells : cells (s.take (m + 1)) = cells (s.take m) + charCells s[m] := by
      rw [take_succ_eq hlength, cells_append, cells_cons, cells_nil, Nat.add_zero]
    have htwo := charCells_le s[m]
    obtain ⟨hbelow, habove⟩ := hm
    split
    · rename_i hwide
      obtain ⟨htaken, hwide⟩ := hwide
      obtain ⟨c, hc, hcc⟩ := Option.map_eq_some_iff.mp hwide
      have hsplit := List.dropLast_append_getLast? c hc
      rw [← hsplit, cells_append, cells_cons, cells_nil, hcc] at htaken
      rw [cells_append, cells_cons, cells_nil, charCells_space]
      omega
    split
    · assumption
    split
    · rename_i hwide _ htaken
      -- the position is before the middle, since with it the search would have ended
      have hle : m ≤ (low + high) / 2 := by
        by_contra hlt
        have := cells_take_le s (i := (low + high) / 2 + 1) (j := m) (by omega)
        omega
      have hne : m ≠ (low + high) / 2 := by
        intro heq
        rw [← heq] at hwide htaken
        refine hwide ⟨by omega, ?_⟩
        rw [hlast, Option.map_some]
        congr 1
        omega
      exact ih hlow (by omega) (by omega)
    · rename_i hne hle
      have hlt : (low + high) / 2 < m := by
        by_contra hge
        have := cells_take_le s (i := m + 1) (j := (low + high) / 2 + 1) (by omega)
        omega
      exact ih (Nat.le_of_lt hlt) hhigh (by omega)

/-- A text that is cut takes the cells that it is cut to. -/
theorem cells_cutTo (h : width ≤ cells s) : cells (cutTo width s) = width := by
  unfold cutTo
  split
  · rename_i hzero
    rw [hzero, cells_nil]
  · obtain ⟨m, hm⟩ := exists_crosses (by omega) h
    exact cells_cutSearch hm (Nat.zero_le m) hm.lt_length (by omega)

theorem cells_truncate_le (hwidth : 0 < width) (s : List Char) : cells (truncate width s) ≤ width := by
  unfold truncate
  split
  · assumption
  · have hellipsis : charCells '…' = 1 := by decide +kernel
    rw [cells_append, cells_cutTo (by omega), cells_cons, cells_nil, hellipsis]
    omega

theorem cells_padTo (h : cells s ≤ width) : cells (padTo width s) = width := by
  rw [padTo, cells_append, cells_spaces]
  omega

/-- A line in a field takes the cells of the field. -/
theorem cells_field (hwidth : 0 < width) (s : List Char) :
    cells (padTo width (fitLine width s)) = width :=
  cells_padTo (cells_truncate_le hwidth _)

/-! ## Printable lines -/

/-- The space is the only blank that is printable. -/
theorem eq_space_of_printable {c : Char} (hblank : isBlank c = true) (h : isPrintable c = true) :
    c = ' ' := by
  have hranges : ∀ r ∈ blanks.ranges, ∀ n ∈ List.range' r.1 (r.2 + 1 - r.1),
      n = 0x20 ∨ unprintable.covers n = true := by
    decide +kernel
  obtain ⟨r, hr, hin⟩ := List.any_eq_true.mp hblank
  rw [Bool.and_eq_true, decide_eq_true_eq, decide_eq_true_eq] at hin
  rcases hranges r hr c.toNat (List.mem_range'_1.mpr ⟨hin.1, by omega⟩) with hn | hn
  · rw [← Char.ofNat_toNat c, hn]
  · have : unprintable.contains c = true := hn
    rw [isPrintable, this] at h
    cases h

theorem expandTabsFrom_of_not_mem (h : '\t' ∉ s) (column : Nat) : expandTabsFrom column s = s := by
  induction s generalizing column with
  | nil => rfl
  | cons c s ih =>
    rw [List.mem_cons, not_or] at h
    rw [expandTabsFrom, if_neg (Ne.symm h.1), ih h.2]

/-- What stands behind a part of a text is blank if it is no longer than the blanks at the end. -/
theorem isBlank_of_mem_drop {k : Nat} (h : s.length - k ≤ (s.reverse.takeWhile isBlank).length)
    {c : Char} (hc : c ∈ s.drop k) : isBlank c = true := by
  have hc' : c ∈ s.reverse.take (s.length - k) := by
    have hk : k ≤ s.length := by
      have := List.length_pos_of_mem hc
      rw [List.length_drop] at this
      omega
    rw [List.take_reverse, List.mem_reverse, Nat.sub_sub_self hk]
    exact hc
  have hhead : s.reverse.take (s.length - k) <+: s.reverse.takeWhile isBlank :=
    List.prefix_of_prefix_length_le (List.take_prefix _ _) (List.takeWhile_prefix _)
      (by rw [List.length_take]; omega)
  exact List.mem_takeWhile_imp (hhead.subset hc')

/-- What is dropped of a printable line are spaces. -/
theorem exists_dropOverhang_append (h : ∀ c ∈ s, isPrintable c = true) (width : Nat) :
    ∃ n, dropOverhang width s ++ spaces n = s := by
  unfold dropOverhang
  dsimp only
  generalize hk : s.length - min (s.reverse.takeWhile isBlank).length (s.length - width) = k
  refine ⟨(s.drop k).length, ?_⟩
  have hspaces : s.drop k = spaces (s.drop k).length := by
    apply List.eq_replicate_of_mem
    intro c hc
    exact eq_space_of_printable (isBlank_of_mem_drop (by omega) hc) (h c (List.mem_of_mem_drop hc))
  rw [← hspaces, List.take_append_drop]

/-- A printable line that fits a field stands at its head as it is. -/
theorem field_of_printable (h : ∀ c ∈ s, isPrintable c = true) (hwidth : cells s ≤ width) :
    padTo width (fitLine width s) = s ++ spaces (width - cells s) := by
  have htab : '\t' ∉ s := fun hmem => by cases h '\t' hmem
  obtain ⟨n, hn⟩ := exists_dropOverhang_append h width
  have hcells : cells (dropOverhang width s) + n = cells s := by
    rw [← cells_spaces n, ← cells_append, hn]
  rw [fitLine, expandTabs, expandTabsFrom_of_not_mem htab, truncate, if_pos (by omega), padTo]
  -- the spaces that were dropped are filled in again
  have hfill : width - cells (dropOverhang width s) = n + (width - cells s) := by omega
  rw [hfill, spaces, ← List.replicate_append_replicate, ← spaces, ← spaces, ← List.append_assoc, hn]

end WorkspaceDesk.Text
