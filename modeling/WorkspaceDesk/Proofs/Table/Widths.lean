import Mathlib.Algebra.GroupWithZero.Nat
import Mathlib.Algebra.Order.BigOperators.Group.List
import Mathlib.Algebra.Order.Group.Nat
import WorkspaceDesk.Table.Drawing

/-!
# The widths of columns

Where a screen has room for all columns, the gaps between them and the sides of the box, each column
gets the cells of its width and its padding, and only there (`unshrunk_iff`).
-/

namespace WorkspaceDesk.Table

theorem total_eq_sum (widths : List Nat) : total widths = widths.sum := by
  rw [total, List.sum_eq_foldl]

/-- The cells that columns take with their padding. -/
def outerSum (columns : List Column) : Nat :=
  (columns.map (·.width + 2)).sum

/-- No column is shrunk on the screen. -/
def Unshrunk (screen : Nat) (columns : List Column) : Prop :=
  outerWidths (innerCells screen columns - gapCount columns) columns = columns.map (·.width + 2)

theorem roundShare_zero (columns : Nat) : roundShare 0 (columns + 1) = 0 := by
  simp [roundShare, Decimal.Binary64.roundQuotient]

theorem roundShare_one (excess : Nat) : roundShare excess 1 = excess := by
  simp [roundShare, Decimal.Binary64.roundQuotient, Nat.mod_one]

theorem shrink_zero (widths : List Nat) : shrink 0 widths = widths := by
  induction widths with
  | nil => rfl
  | cons w rest ih => simp [shrink, roundShare_zero, ih]

/-- Where columns keep their cells, there is nothing to take off. -/
theorem eq_zero_of_shrink_eq {excess : Nat} {widths : List Nat} (hne : widths ≠ [])
    (hpos : ∀ w ∈ widths, 0 < w) (h : shrink excess widths = widths) : excess = 0 := by
  induction widths generalizing excess with
  | nil => exact absurd rfl hne
  | cons w rest ih =>
    have hw := hpos w List.mem_cons_self
    obtain ⟨hhead, htail⟩ := List.cons.inj h
    have hshare : min w (roundShare excess (rest.length + 1)) = 0 := by omega
    rw [hshare, Nat.sub_zero] at htail
    cases rest with
    | nil =>
      rw [List.length_nil, roundShare_one] at hshare
      omega
    | cons v others =>
      exact ih (List.cons_ne_nil v others) (fun u hu => hpos u (List.mem_cons_of_mem w hu)) htail

/-- No column gets more cells than it has. -/
theorem le_of_shrink_eq {excess : Nat} {columns : List Column} {wide narrow : Column → Nat}
    (h : shrink excess (columns.map wide) = columns.map narrow) :
    ∀ c ∈ columns, narrow c ≤ wide c := by
  induction columns generalizing excess with
  | nil => exact List.forall_mem_nil _
  | cons d rest ih =>
    obtain ⟨hhead, htail⟩ := List.cons.inj h
    intro c hc
    rcases List.mem_cons.mp hc with rfl | hc
    · omega
    · exact ih htail c hc

theorem width_le_outerSum {columns : List Column} {c : Column} (hc : c ∈ columns) :
    c.width + 2 ≤ outerSum columns :=
  List.single_le_sum (by simp) _ (List.mem_map_of_mem (f := (·.width + 2)) hc)

theorem outerWidths_of_le {room : Nat} {columns : List Column} (h : outerSum columns ≤ room) :
    outerWidths room columns = columns.map (·.width + 2) := by
  have hwidths : columns.map (fun c => max 1 (min (c.width + 2) room)) =
      columns.map (·.width + 2) := by
    apply List.map_congr_left
    intro c hc
    have := width_le_outerSum hc
    omega
  rw [outerWidths, hwidths, total_eq_sum, ← outerSum, Nat.sub_eq_zero_of_le h, shrink_zero]

/-- Columns keep their cells only where there is room for all of them. -/
theorem outerSum_le_of_outerWidths {room : Nat} {columns : List Column} (hcolumns : columns ≠ [])
    (h : outerWidths room columns = columns.map (·.width + 2)) : outerSum columns ≤ room := by
  have hwidths : columns.map (fun c => max 1 (min (c.width + 2) room)) =
      columns.map (·.width + 2) := by
    apply List.map_congr_left
    intro c hc
    have := le_of_shrink_eq h c hc
    omega
  rw [outerWidths, hwidths, total_eq_sum, ← outerSum] at h
  have hpos : ∀ w ∈ columns.map (·.width + 2), 0 < w := by
    intro w hw
    obtain ⟨c, -, rfl⟩ := List.mem_map.mp hw
    omega
  have := eq_zero_of_shrink_eq (by simpa using hcolumns) hpos h
  omega

theorem innerCells_of_le {screen : Nat} {columns : List Column}
    (h : outerSum columns + gapCount columns + sideCells ≤ screen) :
    innerCells screen columns = outerSum columns + gapCount columns := by
  have hsides : sideCells = 4 := rfl
  have hwidths : outerWidths (screen - 2 - gapCount columns) columns = columns.map (·.width + 2) :=
    outerWidths_of_le (by omega)
  have hwanted : columns.map (fun c => min (c.width + 2) (outerSum columns)) =
      columns.map (·.width + 2) := by
    apply List.map_congr_left
    intro c hc
    exact Nat.min_eq_left (width_le_outerSum hc)
  have htotal : total (columns.map (·.width + 2)) = outerSum columns := total_eq_sum _
  rw [innerCells, wantedCells, hwidths, htotal, hwanted, htotal]
  omega

/-- No column is shrunk just where the screen has room for all columns, the gaps and the sides of the
box. -/
theorem unshrunk_iff {screen : Nat} {columns : List Column} (hcolumns : columns ≠ []) :
    Unshrunk screen columns ↔ outerSum columns + gapCount columns + sideCells ≤ screen := by
  constructor
  · intro h
    have hsum := outerSum_le_of_outerWidths hcolumns h
    have hinner : innerCells screen columns ≤ screen - sideCells := Nat.min_le_right _ _
    obtain ⟨c, rest, rfl⟩ := List.exists_cons_of_ne_nil hcolumns
    have : c.width + 2 ≤ outerSum (c :: rest) := width_le_outerSum List.mem_cons_self
    omega
  · intro h
    rw [Unshrunk, innerCells_of_le h]
    exact outerWidths_of_le (by omega)

end WorkspaceDesk.Table
