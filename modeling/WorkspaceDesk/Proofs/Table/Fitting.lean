import WorkspaceDesk.Table.Column

/-!
# The columns that fit

Columns are visible from the left as long as the window has room for them. As each of them takes up room, these
are all the first columns that fit together (`prefix_fit_iff`): no more of them would fit, and a wider window
shows what a narrower one does.
-/

namespace WorkspaceDesk.Table

variable {columns : List Column} {width : Int}

/-- The cells that columns take together. -/
def totalWidth : List Column → Nat
  | [] => 0
  | c :: rest => c.width + totalWidth rest

theorem totalWidth_concat_pos (before : List Column) (c : Column) : 0 < totalWidth (before ++ [c]) := by
  induction before with
  | nil => exact c.width_pos
  | cons d before ih =>
    rw [List.cons_append, totalWidth]
    omega

/-- The visible columns are the first ones of the schema. -/
theorem fit_prefix_columns (columns : List Column) (width : Int) : fit columns width <+: columns := by
  induction columns generalizing width with
  | nil => exact List.prefix_rfl
  | cons c rest ih =>
    rw [fit]
    split
    · exact List.cons_prefix_cons.mpr ⟨rfl, ih _⟩
    · exact List.nil_prefix

/-- The first columns of a schema are all visible just where the window has room for them together. -/
theorem prefix_fit_iff {p : List Column} (h : p <+: columns) :
    p <+: fit columns width ↔ (totalWidth p : Int) ≤ max 0 width := by
  induction columns generalizing width p with
  | nil =>
    obtain rfl := List.prefix_nil.mp h
    exact iff_of_true List.nil_prefix (Int.le_max_left 0 width)
  | cons c rest ih =>
    cases p with
    | nil => exact iff_of_true List.nil_prefix (Int.le_max_left 0 width)
    | cons d q =>
      obtain ⟨rfl, hq⟩ := List.cons_prefix_cons.mp h
      have hpos := d.width_pos
      rw [fit]
      split
      · -- what is left of the window is for the columns behind this one
        rw [List.cons_prefix_cons, and_iff_right rfl, ih hq, totalWidth]
        omega
      · simp only [List.prefix_nil, reduceCtorEq, totalWidth, false_iff]
        omega

theorem totalWidth_fit_le (columns : List Column) (width : Int) :
    (totalWidth (fit columns width) : Int) ≤ max 0 width :=
  (prefix_fit_iff (fit_prefix_columns columns width)).mp List.prefix_rfl

/-- The visible columns are the longest prefix of the schema that the window has room for: they fit together, and
no longer prefix does; none from an overflowing column on is visible; and a narrower window shows a prefix of
them. -/
theorem fit_longest (columns : List Column) (width : Int) :
    fit columns width <+: columns ∧
      (totalWidth (fit columns width) : Int) ≤ max 0 width ∧
      (∀ p, p <+: columns → (fit columns width).length < p.length → max 0 width < totalWidth p) ∧
      (∀ before c after, columns = before ++ c :: after → width < totalWidth (before ++ [c]) →
        fit columns width <+: before) ∧
      ∀ narrower ≤ width, fit columns narrower <+: fit columns width := by
  have hfirst := fit_prefix_columns columns width
  have htotal := totalWidth_fit_le columns width
  refine ⟨hfirst, htotal, ?_, ?_, ?_⟩
  · intro p hp hlonger
    apply Int.not_le.mp
    intro hroom
    have hle := ((prefix_fit_iff hp).mpr hroom).length_le
    omega
  · rintro before c after rfl hover
    have hp : before ++ [c] <+: before ++ c :: after := ⟨after, by simp⟩
    have hpos := totalWidth_concat_pos before c
    -- of two prefixes of the schema one begins with the other; the one with `c` is not visible
    rcases List.prefix_or_prefix_of_prefix hfirst hp with h | h
    · rcases List.prefix_concat_iff.mp h with heq | h
      · rw [heq] at htotal
        omega
      · exact h
    · have hle := (prefix_fit_iff hp).mp h
      omega
  · intro narrower hnarrower
    have hnarrow := totalWidth_fit_le columns narrower
    apply (prefix_fit_iff (fit_prefix_columns columns narrower)).mpr
    omega

/-- A narrow column behind one that is too wide is not shown. -/
example : fit [⟨"Id", 3, by decide⟩, ⟨"Name", 40, by decide⟩, ⟨"No", 2, by decide⟩] 10 =
    [⟨"Id", 3, by decide⟩] := by
  decide

end WorkspaceDesk.Table
