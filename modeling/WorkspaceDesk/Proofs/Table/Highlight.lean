import WorkspaceDesk.Proofs.Table.Viewport
import WorkspaceDesk.Table.View

/-!
# The highlighted row

Of the rows of a view just one stands out (`View.Highlights`): that under the cursor, which is in view after
any events. It is the row that `enter` chooses, and after that the row that has been chosen
(`Session.highlighted_row_is_chosen`).
-/

namespace WorkspaceDesk.Table

/-- The `j`-th row of the view, which shows some cells, stands out, and no other row does. -/
def View.Highlights (v : View) (j : Nat) (e : Emphasis) (cells : Row) : Prop :=
  e ≠ .plain ∧ ∃ columns rows, v = .grid columns rows ∧ rows[j]? = some (e, cells) ∧
    ∀ i r, i ≠ j → rows[i]? = some r → r.1 = .plain

namespace Session

/-! ## The row under the cursor -/

theorem emphasize_getElem? (s : Session) (index : Int) (rows : List Row) (j : Nat) :
    (s.emphasize index rows)[j]? = rows[j]?.map fun row => (s.emphasis (index + j), row) := by
  induction rows generalizing index j with
  | nil => rfl
  | cons row rest ih =>
    cases j with
    | zero => simp [emphasize]
    | succ j =>
      rw [emphasize, List.getElem?_cons_succ, List.getElem?_cons_succ, ih, Int.natCast_succ,
        Int.add_assoc, Int.add_comm 1]

/-- A view that shows the cursor highlights the row under it. -/
theorem highlights_of_inView {s : Session} (hview : s.InView) (hselectable : s.selectable = true)
    (hsize : 0 < s.size) (hcolumns : s.visibleColumns ≠ []) :
    ∃ row, s.cursorRow? = some row ∧ s.view.Highlights (s.cursor.selected - s.top).toNat
      (if s.focused then .focused else .unfocused) (row.take s.visibleColumns.length) := by
  have htop : 0 ≤ s.top := hview.scroll_nonneg
  have hle : s.top ≤ s.cursor.selected := hview.scroll_le hsize
  have hlt : s.cursor.selected < s.top + s.viewHeight := hview.lt_scroll_add hsize
  have hlast : s.cursor.selected < s.size := hview.selected_lt hsize
  have hlength := length_window hview
  -- the place of the cursor in the window, and in the table
  have hj : (s.cursor.selected - s.top).toNat < s.window.length := by omega
  have hsum : s.top.toNat + (s.cursor.selected - s.top).toNat = s.cursor.selected.toNat := by omega
  have hbound : s.cursor.selected.toNat < s.rows.length := by
    simp only [size] at hlast
    omega
  obtain ⟨row, hrow⟩ : ∃ row, s.cursorRow? = some row := ⟨_, List.getElem?_eq_getElem hbound⟩
  have hshown := window_getElem? hj
  rw [hsum, show s.rows[s.cursor.selected.toNat]? = some row from hrow, Option.map_some] at hshown
  refine ⟨row, hrow, by split <;> simp, s.visibleColumns, s.emphasize s.top s.window, ?_, ?_, ?_⟩
  · rw [view, if_neg (by simpa using hcolumns)]
  · rw [emphasize_getElem?, hshown, Option.map_some, emphasis, if_pos ⟨hselectable, by omega⟩]
  · intro i r hi hr
    rw [emphasize_getElem?] at hr
    obtain ⟨other, -, rfl⟩ := Option.map_eq_some_iff.mp hr
    exact if_neg fun h => hi (by omega)

/-! ## Tables that can be chosen from -/

/-- No event changes whether a table can be chosen from. -/
theorem handle_selectable (s : Session) (e : Event) : (s.handle e).1.selectable = s.selectable := by
  cases hdone : s.done with
  | true => rw [handle_of_done hdone]
  | false =>
    refine handle_cases (p := fun t => t.selectable = s.selectable) hdone e (fun _ _ _ => rfl) ?_
      (fun _ => rfl)
    intro k t _ hpress
    cases hpress <;> rfl

theorem run_selectable (s : Session) (events : List Event) :
    (s.run events).selectable = s.selectable :=
  run_induction (p := fun t => t.selectable = s.selectable) rfl
    (fun t e _ ht => (t.handle_selectable e).trans ht) events

/-- A session that takes keys and is not resizing is either browsed or out of focus. -/
theorem browsing_or_unfocused {s : Session} (hlive : s.done = false) (hstate : s.state ≠ .resizing) :
    s.state = .browsing ∨ s.state = .unfocused := by
  cases h : s.state with
  | browsing => exact .inl rfl
  | unfocused => exact .inr rfl
  | resizing => exact absurd h hstate
  | idle | confirmed | cancelled => simp [done, h, State.isFinal] at hlive

/-- Enter chooses the row under the cursor, whether the table is in focus or not. -/
theorem handle_enter {s : Session} (hlive : s.done = false) {cell : String} {rest : Row}
    (hrow : s.cursorRow? = some (cell :: rest)) :
    s.handle (.key .enter) = ({ s with selection := cell, state := .confirmed }, .ok true) := by
  have hpress : s.press .enter = .ok { s with selection := cell, state := .confirmed } := by
    simp only [press, Key.action?, confirm, hrow]
  rw [handle_key hlive hpress]
  rfl

/-- A session that shows columns is of a table that has columns. -/
theorem columns_ne_nil {s : Session} (h : s.visibleColumns ≠ []) : s.columns ≠ [] := by
  intro hcolumns
  rw [visibleColumns, hcolumns] at h
  exact h rfl

/-- Where rows and columns are shown, a table that can be chosen from highlights one row, in the way of a
table that is browsed or in that of one out of focus, and enter chooses this row. Once a row has been
chosen, it is the one that is highlighted. -/
theorem highlighted_row_is_chosen {columns : List Column} {rows : List Row}
    {width height activeIndex : Int} {activeId : Option String} {s : Session}
    (h : start columns rows width height activeIndex activeId true = .ok s) (events : List Event)
    (hrows : rows ≠ []) (hcolumns : (s.run events).visibleColumns ≠ []) :
    let t := s.run events
    (t.done = false → ∃ (i j : Nat) (cell : String) (rest : Row) (e : Emphasis),
      rows[i]? = some (cell :: rest) ∧
      (t.state = .browsing ∧ e = .focused ∨ t.state = .unfocused ∧ e = .unfocused) ∧
      t.view.Highlights j e ((cell :: rest).take t.visibleColumns.length) ∧
      t.handle (.key .enter) = ({ t with selection := cell, state := .confirmed }, .ok true)) ∧
    (t.state = .confirmed → ∃ (i j : Nat) (rest : Row),
      rows[i]? = some (t.selection :: rest) ∧
      t.view.Highlights j .unfocused ((t.selection :: rest).take t.visibleColumns.length)) := by
  intro t
  obtain ⟨hstart, hid⟩ := inView_start h
  have hview : t.InView := inView_run hstart events
  have hyields : t.Yields (initialId rows activeIndex activeId) := yields_run hid events
  -- the table is still the one that was given, and can still be chosen from
  have hrowsEq : t.rows = rows := rows_run h events
  have hselectable : t.selectable = true := by
    obtain ⟨_, _, -, rfl⟩ := start_eq_ok h
    exact run_selectable _ events
  have hsize : 0 < t.size := by
    have := List.length_pos_iff.mpr hrows
    rw [size, hrowsEq]
    omega
  obtain ⟨row, hrow, hhighlights⟩ := highlights_of_inView hview hselectable hsize hcolumns
  have hplace : rows[t.cursor.selected.toNat]? = some row := hrowsEq ▸ hrow
  refine ⟨fun hlive => ?_, fun hconfirmed => ?_⟩
  · cases row with
    | nil => exact absurd hrow (cursorRow?_ne_nil (columns_ne_nil hcolumns))
    | cons cell rest =>
      refine ⟨_, _, cell, rest, _, hplace, ?_, hhighlights, handle_enter hlive hrow⟩
      rcases browsing_or_unfocused hlive hyields.not_resizing with hstate | hstate
      · exact .inl ⟨hstate, by rw [focused, hstate]; rfl⟩
      · exact .inr ⟨hstate, by rw [focused, hstate]; rfl⟩
  · obtain ⟨rest, hchosen⟩ := hyields.confirmed hconfirmed
    obtain rfl : t.selection :: rest = row := Option.some.inj (hchosen.symm.trans hrow)
    rw [focused, hconfirmed] at hhighlights
    exact ⟨_, _, rest, hplace, hhighlights⟩

/-- In a window with room for one column and two rows of three, the cursor goes down to the third row, which
is highlighted. Enter chooses it, and it stays highlighted as a row that has been chosen. -/
theorem highlighted_row_is_chosen_in_low_window :
    ∃ s : Session,
      start [⟨"Id", 3, by decide⟩, ⟨"Name", 4, by decide⟩] [["a", "x"], ["b", "y"], ["c", "z"]] 5 6 1
        none true = .ok s ∧
      (∃ j, (s.run [.key .down]).view.Highlights j .focused ["c"]) ∧
      (s.run [.key .down, .key .enter]).selection = "c" ∧
      ∃ j, (s.run [.key .down, .key .enter]).view.Highlights j .unfocused ["c"] := by
  have hstart : start [⟨"Id", 3, by decide⟩, ⟨"Name", 4, by decide⟩]
    [["a", "x"], ["b", "y"], ["c", "z"]] 5 6 1 none true = .ok _ := rfl
  refine ⟨_, hstart, ?_, by decide, ?_⟩
  · obtain ⟨_, j, cell, rest, e, -, he, hhighlights, henter⟩ :=
      (highlighted_row_is_chosen hstart [.key .down] (by decide) (by decide)).1 (by decide)
    obtain rfl : "c" = cell := congrArg (fun r => r.1.selection) henter
    obtain rfl : e = .focused := he.elim And.right fun h => absurd h.1 (by decide)
    exact ⟨j, hhighlights⟩
  · obtain ⟨_, j, rest, -, hhighlights⟩ :=
      (highlighted_row_is_chosen hstart [.key .down, .key .enter] (by decide) (by decide)).2 (by decide)
    exact ⟨j, hhighlights⟩

end Session

end WorkspaceDesk.Table
