import WorkspaceDesk.Table.Cursor

/-!
# Cursors and their views

A cursor is on an item of a list, and a view of some height shows it. `ensureVisible_scroll` says where
the view comes to rest: in the range of places that show the cursor and no room past the last item, as
near as possible to where it was. All else about views follows from it by arithmetic.
-/

namespace WorkspaceDesk.Table

/-- In a range that is not empty, clamping is a cut at both ends. -/
theorem clamp_eq_max_min {lo hi : Int} (h : lo ≤ hi) (v : Int) :
    clamp v lo hi = max lo (min hi v) := by
  rw [clamp, if_neg (by omega)]

attribute [ext] Cursor

namespace Cursor

/-- The cursor is on an item of a list of `n` items, or at its head when there are none. -/
structure OnItem (c : Cursor) (n : Int) : Prop where
  selected_nonneg : 0 ≤ c.selected
  selected_lt : 0 < n → c.selected < n
  selected_eq : n ≤ 0 → c.selected = 0

/-- A view of `height` items shows the cursor and no room past the last of `n` items. -/
structure Shows (c : Cursor) (height n : Int) : Prop extends OnItem c n where
  scroll_nonneg : 0 ≤ c.scroll
  scroll_add_le : c.scroll + height ≤ n
  scroll_le : 0 < n → c.scroll ≤ c.selected
  lt_scroll_add : 0 < n → c.selected < c.scroll + height

/-! ## Movements stay on items -/

/-- Whatever a list's cursor was, clamping puts it on an item. -/
theorem onItem_clampTo (c : Cursor) (n : Int) : (c.clampTo n).OnItem n := by
  rw [clampTo]
  split
  · exact ⟨Int.le_refl 0, fun h => by omega, fun _ => rfl⟩
  · rw [clamp_eq_max_min (by omega)]
    exact ⟨by dsimp only; omega, fun _ => by dsimp only; omega, fun h => by omega⟩

/-- Every movement ends on an item. -/
theorem onItem_move (c : Cursor) (delta n : Int) : (c.move delta n).OnItem n := by
  rw [move]
  split
  · exact ⟨Int.le_refl 0, fun h => by omega, fun _ => rfl⟩
  · rw [clamp_eq_max_min (by omega)]
    exact ⟨by dsimp only; omega, fun _ => by dsimp only; omega, fun h => by omega⟩

/-! ## Where the view comes to rest -/

@[simp]
theorem ensureVisible_selected (c : Cursor) (height n : Int) :
    (c.ensureVisible height n).selected = c.selected := by
  rw [ensureVisible]
  split <;> rfl

/-- Without items or without height the view rests at the head. -/
theorem ensureVisible_scroll_of_empty (c : Cursor) {height n : Int} (h : n ≤ 0 ∨ height ≤ 0) :
    (c.ensureVisible height n).scroll = 0 := by
  rw [ensureVisible, if_pos h]

/-- The view rests at the place nearest to where it was, of those that show the cursor and no room past
the last item. -/
theorem ensureVisible_scroll {c : Cursor} {height n : Int} (hheight : 0 < height) (hc : c.OnItem n)
    (hn : 0 < n) :
    (c.ensureVisible height n).scroll =
      max (max 0 (c.selected - height + 1)) (min (min c.selected (max 0 (n - height))) c.scroll) := by
  have hnonneg := hc.selected_nonneg
  have hlt := hc.selected_lt hn
  -- whether the cursor was above the view, below it or in it, both sides are the same cut
  rw [ensureVisible, if_neg (by omega)]
  dsimp only
  rw [clamp_eq_max_min (by omega)]
  split
  · omega
  · split <;> omega

/-- The view is at one of its places: it shows the cursor and, if there are enough items for it, no room
past the last one; if there are not, it is at the head of the list. -/
structure AtRest (c : Cursor) (height n : Int) : Prop where
  scroll_nonneg : 0 ≤ c.scroll
  scroll_le : c.scroll ≤ c.selected
  lt_scroll_add : c.selected < c.scroll + height
  scroll_add_le : height ≤ n → c.scroll + height ≤ n
  scroll_eq : n < height → c.scroll = 0

/-- The places of a view are those between two bounds. -/
theorem atRest_iff {c : Cursor} {height n : Int} (hc : c.OnItem n) (hn : 0 < n) :
    c.AtRest height n ↔ max 0 (c.selected - height + 1) ≤ c.scroll ∧
      c.scroll ≤ min c.selected (max 0 (n - height)) := by
  have hnonneg := hc.selected_nonneg
  have hlt := hc.selected_lt hn
  constructor
  · rintro ⟨hzero, hle, hshown, hfull, hshort⟩
    omega
  · rintro ⟨hlow, hhigh⟩
    constructor <;> omega

/-- After `ensureVisible` a view that is no higher than the list shows the cursor. -/
theorem shows_ensureVisible {c : Cursor} {height n : Int} (hc : c.OnItem n) (hn : 0 ≤ n)
    (hheight : 0 < n → 0 < height) (hle : height ≤ n) :
    (c.ensureVisible height n).Shows height n := by
  have hitem : (c.ensureVisible height n).OnItem n := by
    obtain ⟨hnonneg, hlt, heq⟩ := hc
    exact ⟨by simpa using hnonneg, by simpa using hlt, by simpa using heq⟩
  by_cases hpos : 0 < n
  · have hnonneg := hc.selected_nonneg
    have hlt := hc.selected_lt hpos
    have hscroll := ensureVisible_scroll (hheight hpos) hc hpos
    have hpos' := hheight hpos
    refine ⟨hitem, ?_, ?_, fun _ => ?_, fun _ => ?_⟩ <;>
      simp only [ensureVisible_selected, hscroll] <;> omega
  · have hempty : n ≤ 0 ∨ height ≤ 0 := .inl (by omega)
    have hscroll := c.ensureVisible_scroll_of_empty hempty
    exact ⟨hitem, by omega, by omega, fun h => by omega, fun h => by omega⟩

/-! ## A view at rest stays -/

/-- Clamping leaves a cursor on the item that it is on. -/
theorem OnItem.clampTo_selected {c : Cursor} {n : Int} (h : c.OnItem n) :
    (c.clampTo n).selected = c.selected := by
  have hnonneg := h.selected_nonneg
  rw [clampTo]
  split
  · rename_i hempty
    exact (h.selected_eq hempty).symm
  · have hlt := h.selected_lt (by omega)
    rw [clamp_eq_max_min (by omega)]
    dsimp only
    omega

/-- Clamping changes nothing where the view shows the cursor. -/
theorem Shows.clampTo_eq {c : Cursor} {height n : Int} (h : c.Shows height n)
    (hheight : 0 ≤ height) : c.clampTo n = c := by
  have hselected := h.toOnItem.clampTo_selected
  have hnonneg := h.scroll_nonneg
  have hend := h.scroll_add_le
  have hscroll : (c.clampTo n).scroll = c.scroll := by
    rw [clampTo]
    split
    · dsimp only
      omega
    · have hle := h.scroll_le (by omega)
      have hlt := h.selected_lt (by omega)
      rw [clamp_eq_max_min (by omega)]
      dsimp only
      rw [clamp_eq_max_min (by omega)]
      omega
  exact Cursor.ext hselected hscroll

/-- A view at one of its places stays there. -/
theorem AtRest.ensureVisible_eq {c : Cursor} {height n : Int} (h : c.AtRest height n)
    (hheight : 0 < height) (hc : c.OnItem n) (hn : 0 < n) : c.ensureVisible height n = c := by
  obtain ⟨hlow, hhigh⟩ := (atRest_iff hc hn).mp h
  refine Cursor.ext (c.ensureVisible_selected height n) ?_
  rw [ensureVisible_scroll hheight hc hn]
  omega

theorem Shows.atRest {c : Cursor} {height n : Int} (h : c.Shows height n) (hn : 0 < n) :
    c.AtRest height n := by
  have hnonneg := h.scroll_nonneg
  have hend := h.scroll_add_le
  exact ⟨hnonneg, h.scroll_le hn, h.lt_scroll_add hn, fun _ => hend, fun hlow => by omega⟩

/-- The view rests where it shows the cursor and no room past the last item. -/
theorem Shows.ensureVisible_eq {c : Cursor} {height n : Int} (h : c.Shows height n)
    (hheight : 0 ≤ height) : c.ensureVisible height n = c := by
  by_cases hempty : n ≤ 0 ∨ height ≤ 0
  · have hnonneg := h.scroll_nonneg
    have hend := h.scroll_add_le
    refine Cursor.ext (c.ensureVisible_selected height n) ?_
    rw [c.ensureVisible_scroll_of_empty hempty]
    by_cases hn : 0 < n
    · have hlt := h.lt_scroll_add hn
      have hle := h.scroll_le hn
      omega
    · omega
  · exact (h.atRest (by omega)).ensureVisible_eq (by omega) h.toOnItem (by omega)

/-! ## The view moves no further than it has to -/

/-- The cursor stays, and the view moves to the nearest of the places between the bounds. These are the places where
it shows the cursor and, if there are enough items for it, no room past the last one; it moves no further than to
any other of them, and from there it does not move again. -/
theorem ensureVisible_nearest {c : Cursor} {height n : Int} (hheight : 0 < height)
    (hnonneg : 0 ≤ c.selected) (hlt : c.selected < n) :
    let low := max 0 (c.selected - height + 1)
    let high := min c.selected (max 0 (n - height))
    let d := c.ensureVisible height n
    d.selected = c.selected ∧ low ≤ high ∧ low ≤ d.scroll ∧ d.scroll ≤ high ∧
      (∀ k, low ≤ k → k ≤ high → k ≠ d.scroll →
        (d.scroll - c.scroll).natAbs < (k - c.scroll).natAbs) ∧
      d.AtRest height n ∧
      (∀ e : Cursor, e.selected = c.selected → e.AtRest height n →
        (d.scroll - c.scroll).natAbs ≤ (e.scroll - c.scroll).natAbs) ∧
      d.ensureVisible height n = d := by
  intro low high d
  have hn : 0 < n := by omega
  have hitem : ∀ e : Cursor, e.selected = c.selected → e.OnItem n := fun e he =>
    ⟨by omega, fun _ => by omega, fun h => by omega⟩
  have hselected : d.selected = c.selected := c.ensureVisible_selected height n
  have hscroll : d.scroll = max low (min high c.scroll) :=
    ensureVisible_scroll hheight (hitem c rfl) hn
  have hle : low ≤ high := by omega
  have hrest : d.AtRest height n := by
    rw [atRest_iff (hitem d hselected) hn, hselected]
    omega
  refine ⟨hselected, hle, by omega, by omega, ?_, hrest, ?_, ?_⟩
  · intro k hlow hhigh hne
    omega
  · intro e he hat
    obtain ⟨hlow, hhigh⟩ := (atRest_iff (hitem e he) hn).mp hat
    rw [he] at hlow hhigh
    omega
  · exact hrest.ensureVisible_eq hheight (hitem d hselected) hn

/-- A view of four items that was beyond the end of ten of them comes to rest with the selected item at its head,
which is nearer than any other place that shows it. -/
theorem ensureVisible_nearest_of_view_beyond_end :
    let c : Cursor := ⟨5, 20⟩
    let d := c.ensureVisible 4 10
    (0 : Int) < 4 ∧ 0 ≤ c.selected ∧ c.selected < 10 ∧ d = ⟨5, 5⟩ ∧ d.AtRest 4 10 ∧
      (∀ e : Cursor, e.selected = 5 → e.AtRest 4 10 →
        (d.scroll - 20).natAbs ≤ (e.scroll - 20).natAbs) ∧
      d.ensureVisible 4 10 = d := by
  intro c d
  have hheight : (0 : Int) < 4 := by decide
  have hnonneg : 0 ≤ c.selected := by decide
  have hlt : c.selected < 10 := by decide
  obtain ⟨-, -, -, -, -, hrest, hleast, hstays⟩ := ensureVisible_nearest hheight hnonneg hlt
  exact ⟨hheight, hnonneg, hlt, by decide, hrest, hleast, hstays⟩

end Cursor

end WorkspaceDesk.Table
