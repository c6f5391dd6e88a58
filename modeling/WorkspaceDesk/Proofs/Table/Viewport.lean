import WorkspaceDesk.Proofs.Table.Step

/-!
# The viewport of a session

Whatever a session is told, its view shows the cursor and nothing past the last row, its frame has room
in the window, and what it yields fits where it stands. `InView` and `Yields` are the two invariants;
`sound_run` draws from them all that holds of a session after any events.
-/

namespace WorkspaceDesk.Table

namespace Session

/-! ## The view shows the cursor -/

/-- The view shows the cursor and no room past the last row. -/
def InView (s : Session) : Prop :=
  s.cursor.Shows s.viewHeight s.size

theorem size_nonneg (s : Session) : 0 ≤ s.size :=
  Int.natCast_nonneg _

/-- No more rows are in view than there are. -/
theorem viewHeight_le (s : Session) : s.viewHeight ≤ s.size := by
  rw [viewHeight]
  split <;> omega

/-- A table with rows has a row in view, however low the window is. -/
theorem viewHeight_pos {s : Session} (h : 0 < s.size) : 0 < s.viewHeight := by
  rw [viewHeight]
  split <;> omega

theorem viewHeight_nonneg (s : Session) : 0 ≤ s.viewHeight := by
  have := s.size_nonneg
  rw [viewHeight]
  split <;> omega

/-- A session whose cursor is on a row comes into view by following it. -/
theorem inView_follow {s : Session} (h : s.cursor.OnItem s.size) : s.follow.InView :=
  Cursor.shows_ensureVisible h s.size_nonneg viewHeight_pos s.viewHeight_le

/-- Laying out anew brings the cursor into view, whatever the size of the window. -/
theorem inView_resize (s : Session) (width height : Int) : (s.resize width height).InView :=
  inView_follow (s := { s with
    state := .resizing, width
    height := if 0 < height then height else s.height
    cursor := s.cursor.clampTo s.size }) (s.cursor.onItem_clampTo s.size)

/-- Every action leaves the cursor on a row. -/
theorem onItem_moved {s : Session} (h : s.cursor.OnItem s.size) (action : Action) :
    (s.moved action).OnItem s.size := by
  have hnonneg := s.size_nonneg
  cases action with
  | lineUp | lineDown | pageUp | pageDown | halfPageUp | halfPageDown =>
    exact Cursor.onItem_move _ _ _
  | top => exact ⟨Int.le_refl 0, fun hpos => hpos, fun _ => rfl⟩
  | bottom =>
    refine ⟨?_, fun hpos => ?_, fun hempty => ?_⟩ <;> simp only [moved] <;> omega
  | quit | toggleFocus | confirm => exact h

/-- What a key does keeps the cursor in view. -/
theorem Pressed.inView {k : Key} {s t : Session} (h : Pressed k s t) (hs : s.InView) :
    t.InView := by
  cases h with
  | quit | toggle | confirm | nothing | unheard => exact hs
  | move action =>
    -- the view follows the cursor to wherever the action leaves it
    exact inView_follow (s := { s with cursor := s.moved action }) (onItem_moved hs.toOnItem action)
  | unbound => exact inView_follow hs.toOnItem

theorem inView_handle {s : Session} (hs : s.InView) (e : Event) : (s.handle e).1.InView := by
  cases hdone : s.done with
  | true => rwa [handle_of_done hdone]
  | false =>
    exact handle_cases hdone e (fun width height _ => s.inView_resize width height)
      (fun _ _ _ hpress => hpress.inView hs) (fun _ => hs)

theorem inView_run {s : Session} (hs : s.InView) (events : List Event) : (s.run events).InView :=
  run_induction hs (fun _ e _ ht => inView_handle ht e) events

/-! ## The session yields what fits where it stands -/

/-- What a session yields: the id that it started with until a row is confirmed or the user quits, then
the first cell of the row under the cursor, or nothing. -/
structure Yields (id : String) (s : Session) : Prop where
  not_resizing : s.state ≠ .resizing
  undecided : s.state ≠ .confirmed → s.state ≠ .cancelled → s.selection = id
  cancelled : s.state = .cancelled → s.selection = ""
  confirmed : s.state = .confirmed → ∃ rest, s.cursorRow? = some (s.selection :: rest)

/-- A session that is not done has not decided. -/
theorem undecided_of_live {s : Session} (hlive : s.done = false) :
    s.state ≠ .confirmed ∧ s.state ≠ .cancelled := by
  constructor
  · intro hstate
    simp [done, hstate, State.isFinal] at hlive
  · intro hstate
    simp [done, hstate, State.isFinal] at hlive

theorem Yields.selection_eq {id : String} {s : Session} (h : s.Yields id) (hlive : s.done = false) :
    s.selection = id :=
  h.undecided (undecided_of_live hlive).1 (undecided_of_live hlive).2

/-- What a key does to a session that is not done keeps to what it yields. -/
theorem Pressed.yields {k : Key} {id : String} {s t : Session} (h : Pressed k s t)
    (hlive : s.done = false) (hs : s.Yields id) : t.Yields id := by
  have hid := hs.selection_eq hlive
  have hundecided := undecided_of_live hlive
  cases h with
  | quit => exact ⟨by simp, by simp, fun _ => rfl, by simp⟩
  | toggle =>
    refine ⟨?_, fun _ _ => hid, ?_, ?_⟩ <;> dsimp only <;> split <;> simp
  | confirm _ cell rest hrow => exact ⟨by simp, by simp, by simp, fun _ => ⟨rest, hrow⟩⟩
  | nothing | unheard => exact hs
  | move | unbound =>
    exact ⟨hs.not_resizing, fun _ _ => hid, fun h => absurd h hundecided.2,
      fun h => absurd h hundecided.1⟩

theorem yields_handle {id : String} {s : Session} (hs : s.Yields id) (e : Event) :
    (s.handle e).1.Yields id := by
  cases hdone : s.done with
  | true => rwa [handle_of_done hdone]
  | false =>
    refine handle_cases hdone e (fun width height _ => ?_)
      (fun _ _ _ hpress => hpress.yields hdone hs) (fun _ => hs)
    -- a resize comes back to the state that the session was in
    have hundecided := undecided_of_live hdone
    exact ⟨hs.not_resizing, fun _ _ => hs.selection_eq hdone, fun h => absurd h hundecided.2,
      fun h => absurd h hundecided.1⟩

theorem yields_run {id : String} {s : Session} (hs : s.Yields id) (events : List Event) :
    (s.run events).Yields id :=
  run_induction hs (fun _ e _ ht => yields_handle ht e) events

/-! ## What the events leave as it is -/

/-- The width of the last new window size among events, or the one before them. -/
def latestWidth (width : Int) : List Event → Int
  | [] => width
  | .resize newWidth _ :: rest => latestWidth newWidth rest
  | .key _ :: rest | .foreign _ :: rest => latestWidth width rest

/-- No key changes columns, rows or the width of the window. -/
theorem Pressed.frame {k : Key} {s t : Session} (h : Pressed k s t) :
    t.content = s.content ∧ t.width = s.width := by
  cases h <;> exact ⟨rfl, rfl⟩

/-- No event changes columns and rows. -/
theorem handle_content (s : Session) (e : Event) : (s.handle e).1.content = s.content := by
  cases hdone : s.done with
  | true => rw [handle_of_done hdone]
  | false =>
    exact handle_cases (p := fun t => t.content = s.content) hdone e (fun _ _ _ => rfl)
      (fun _ _ _ hpress => hpress.frame.1) (fun _ => rfl)

theorem run_content (s : Session) (events : List Event) : (s.run events).content = s.content :=
  run_induction (p := fun t => t.content = s.content) rfl
    (fun t e _ ht => (t.handle_content e).trans ht) events

/-- The rows are those that the session started with. -/
theorem rows_run {columns : List Column} {rows : List Row} {width height activeIndex : Int}
    {activeId : Option String} {selectable : Bool} {s : Session}
    (h : start columns rows width height activeIndex activeId selectable = .ok s)
    (events : List Event) : (s.run events).rows = rows := by
  obtain ⟨_, _, -, rfl⟩ := start_eq_ok h
  exact congrArg Content.rows (run_content _ events)

/-- An event that is heeded sets the width of the window if it is a new size, and else leaves it. -/
theorem handle_width {s : Session} (hlive : s.done = false) (e : Event) :
    (s.handle e).1.width = latestWidth s.width [e] := by
  refine handle_cases (p := fun t => t.width = latestWidth s.width [e]) hlive e ?_ ?_ ?_
  · rintro width height rfl
    rfl
  · rintro k t rfl hpress
    exact hpress.frame.2
  · intro hother
    cases e with
    | resize width height => exact absurd rfl (hother width height)
    | key | foreign => rfl

theorem latestWidth_cons (width : Int) (e : Event) (rest : List Event) :
    latestWidth width (e :: rest) = latestWidth (latestWidth width [e]) rest := by
  cases e <;> rfl

/-- The window is as wide as the last new size says that was heeded. -/
theorem run_width (s : Session) (events : List Event) :
    (s.run events).width = latestWidth s.width (s.heeded events) := by
  induction events generalizing s with
  | nil => rfl
  | cons e rest ih =>
    cases hdone : s.done with
    | true => rw [run_of_done hdone, heeded_of_done hdone, latestWidth]
    | false => rw [run_cons, ih, heeded_cons hdone, latestWidth_cons, handle_width hdone]

/-! ## The rows in view -/

/-- A view that shows no room past the last row is full. -/
theorem length_window {s : Session} (h : s.InView) : (s.window.length : Int) = s.viewHeight := by
  have htop := h.scroll_nonneg
  have hend := h.scroll_add_le
  have hheight := s.viewHeight_nonneg
  rw [window, List.length_take, List.length_drop, visibleRows, List.length_map]
  simp only [size] at hend
  simp only [top]
  omega

/-- The rows in view are the rows from the top of the view on, cut down to the visible columns. -/
theorem window_getElem? {s : Session} {j : Nat} (hj : j < s.window.length) :
    s.window[j]? = s.rows[s.top.toNat + j]?.map (·.take s.visibleColumns.length) := by
  rw [window, List.length_take] at hj
  rw [window, List.getElem?_take_of_lt (by omega), List.getElem?_drop, visibleRows,
    List.getElem?_map]
  rfl

/-- A frame that shows a column has room in the window, but for the least frame. -/
theorem frameHeight_le {s : Session} (hheight : 0 < s.height) (hcolumns : s.visibleColumns ≠ []) :
    s.frameHeight ≤ max s.height (frameOverhead + 1) := by
  have hvisible : 0 < s.visibleColumns.length := List.length_pos_iff.mpr hcolumns
  rw [frameHeight, Table.frameHeight, if_neg (by omega), viewHeight, if_neg (by omega)]
  simp only [frameOverhead]
  omega

/-! ## All that holds of a session -/

/-- The id that a table yields before anything is chosen: the one that is given, else the first cell of
the active row. -/
def initialId (rows : List Row) (activeIndex : Int) (activeId : Option String) : String :=
  activeId.getD ((rows[(clamp activeIndex 0 (rows.length - 1)).toNat]?.bind List.head?).getD "")

/-- What holds of a session over columns and rows that started with an id, when the window was last
`width` columns wide. -/
structure Sound (columns : List Column) (rows : List Row) (id : String) (width : Int)
    (s : Session) : Prop where
  columns_eq : s.columns = columns
  rows_eq : s.rows = rows
  selected_nonneg : 0 ≤ s.cursor.selected
  selected_lt : rows ≠ [] → s.cursor.selected < rows.length
  selected_eq : rows = [] → s.cursor.selected = 0
  top_nonneg : 0 ≤ s.top
  top_add_le : s.top + s.viewHeight ≤ rows.length
  top_le : rows ≠ [] → s.top ≤ s.cursor.selected
  lt_top_add : rows ≠ [] → s.cursor.selected < s.top + s.viewHeight
  visibleColumns_eq : s.visibleColumns = fit columns width
  length_window : (s.window.length : Int) = s.viewHeight
  window_row : ∀ j < s.window.length, ∃ row, rows[s.top.toNat + j]? = some row ∧
    s.window[j]? = some (row.take (fit columns width).length)
  frameHeight_le : 0 < s.height → s.visibleColumns ≠ [] →
    s.frameHeight ≤ max s.height (frameOverhead + 1)
  not_resizing : s.state ≠ .resizing
  undecided : s.state ≠ .confirmed → s.state ≠ .cancelled → s.selection = id
  cancelled : s.state = .cancelled → s.selection = ""
  confirmed : s.state = .confirmed →
    ∃ rest, rows[s.cursor.selected.toNat]? = some (s.selection :: rest)
  final : s.done = true → ∀ e, s.handle e = (s, .ok true)

/-- The invariants make a session sound. -/
theorem sound_of_inView {id : String} {s : Session} (hview : s.InView) (hyields : s.Yields id) :
    s.Sound s.columns s.rows id s.width := by
  have hpos : s.rows ≠ [] → 0 < s.size := fun h => by
    have := List.length_pos_iff.mpr h
    simp only [size]
    omega
  -- the cursor and the view from `hview`, the state and the selection from `hyields`
  refine
    { columns_eq := rfl
      rows_eq := rfl
      selected_nonneg := hview.selected_nonneg
      selected_lt := fun h => hview.selected_lt (hpos h)
      selected_eq := fun h => hview.selected_eq (by simp [size, h])
      top_nonneg := hview.scroll_nonneg
      top_add_le := hview.scroll_add_le
      top_le := fun h => hview.scroll_le (hpos h)
      lt_top_add := fun h => hview.lt_scroll_add (hpos h)
      visibleColumns_eq := rfl
      length_window := length_window hview
      window_row := fun j hj => ?_
      frameHeight_le := frameHeight_le
      not_resizing := hyields.not_resizing
      undecided := hyields.undecided
      cancelled := hyields.cancelled
      confirmed := hyields.confirmed
      final := fun hdone e => handle_of_done hdone e }
  have hrow := window_getElem? hj
  have hwindow : s.window[j]? = some s.window[j] := List.getElem?_eq_getElem hj
  rw [hwindow] at hrow
  obtain ⟨row, hrow, htake⟩ := Option.map_eq_some_iff.mp hrow.symm
  exact ⟨row, hrow, by rw [hwindow, ← htake]; rfl⟩

/-- The name of the active row, where it has one, is its first cell. -/
theorem activeName_eq_ok {rows : List Row} {cursor : Cursor} {name : String}
    (h : activeName rows cursor = .ok name) :
    name = (rows[cursor.selected.toNat]?.bind List.head?).getD "" := by
  rw [activeName] at h
  split at h
  · rename_i hrow
    rw [hrow]
    exact (Except.ok.inj h).symm
  · cases h
  · rename_i cell rest hrow
    rw [hrow]
    exact (Except.ok.inj h).symm

/-- A session starts with the cursor in view, and yields the initial id. -/
theorem inView_start {columns : List Column} {rows : List Row} {width height activeIndex : Int}
    {activeId : Option String} {selectable : Bool} {s : Session}
    (h : start columns rows width height activeIndex activeId selectable = .ok s) :
    s.InView ∧ s.Yields (initialId rows activeIndex activeId) := by
  obtain ⟨hfit, selection, hselection, rfl⟩ := start_eq_ok h
  refine ⟨inView_follow (Cursor.onItem_clampTo _ _), ?_⟩
  have hid : selection = initialId rows activeIndex activeId := by
    -- without an id that is given, the clamped index is that of the cursor
    cases activeId with
    | some id => exact (Except.ok.inj hselection).symm
    | none =>
      rw [activeName_eq_ok hselection, activeRow?_eq, initialId, Option.getD_none]
  refine ⟨?_, fun _ _ => hid, ?_, ?_⟩ <;> cases selectable <;> simp [follow]

/-- After any events a session is sound: the table is the one that was given, the view is full and shows
the cursor, the frame fits the window, and what it yields is what has been chosen. -/
theorem sound_run {columns : List Column} {rows : List Row} {width height activeIndex : Int}
    {activeId : Option String} {selectable : Bool} {s : Session}
    (h : start columns rows width height activeIndex activeId selectable = .ok s)
    (events : List Event) :
    (s.run events).Sound columns rows (initialId rows activeIndex activeId)
      (latestWidth width (s.heeded events)) := by
  obtain ⟨hview, hyields⟩ := inView_start h
  have hrun := sound_of_inView
    (run_induction hview (fun t e _ ht => inView_handle ht e) events)
    (run_induction hyields (fun t e _ ht => yields_handle ht e) events)
  obtain ⟨hfit, selection, -, rfl⟩ := start_eq_ok h
  rw [Session.columns, Session.rows, run_content, run_width] at hrun
  exact hrun

/-- In a window with room for two rows of three, the third row is confirmed after the window has grown
wide enough for the second column. -/
theorem sound_run_of_low_window :
    ∃ s : Session,
      start [⟨"Id", 3, by decide⟩, ⟨"Name", 4, by decide⟩] [["a", "x"], ["b", "y"], ["c", "z"]] 5 6 1
        none true = .ok s ∧
      (s.run [.key .down, .resize 9 0, .key .enter, .key .up]).selection = "c" ∧
      (s.run [.key .down, .resize 9 0, .key .enter, .key .up]).Sound
        [⟨"Id", 3, by decide⟩, ⟨"Name", 4, by decide⟩] [["a", "x"], ["b", "y"], ["c", "z"]] "b" 9 := by
  refine ⟨_, rfl, by decide, ?_⟩
  have hstart : start [⟨"Id", 3, by decide⟩, ⟨"Name", 4, by decide⟩]
    [["a", "x"], ["b", "y"], ["c", "z"]] 5 6 1 none true = .ok _ := rfl
  exact sound_run hstart [.key .down, .resize 9 0, .key .enter, .key .up]

end Session

end WorkspaceDesk.Table
