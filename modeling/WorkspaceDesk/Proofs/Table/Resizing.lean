import WorkspaceDesk.Proofs.Table.Viewport

/-!
# Resizing does not choose

What a session yields is chosen by its keys. The width of the window only decides which columns are shown:
sessions that are told the same keys and heights stay the same in all but their width. The height also
decides how far a page goes and where the view rests; without pages, sessions that are told the same keys
stay on the same row and yield the same. `run_resized` carries a relation of two sessions along two runs
that differ in window sizes only; `choice_of_resized` states both facts.
-/

namespace WorkspaceDesk.Table

/-- The action moves the cursor by the height of the view. -/
def Action.isPaging : Action → Bool
  | .pageUp | .pageDown | .halfPageUp | .halfPageDown => true
  | _ => false

/-- The event is a key that moves the cursor by the height of the view. -/
def Event.isPaging : Event → Bool
  | .key k => k.action?.any Action.isPaging
  | _ => false

/-- The second sequence of events is the first one with other window sizes: their widths may change
freely, their heights as `alters` allows, and new sizes may come anywhere if `inserts` allows their
height. -/
inductive Resized (alters : Int → Int → Prop) (inserts : Int → Prop) : List Event → List Event → Prop
  | nil : Resized alters inserts [] []
  | keep (e : Event) {events others : List Event} (rest : Resized alters inserts events others) :
    Resized alters inserts (e :: events) (e :: others)
  | alter (width width' : Int) {height height' : Int} {events others : List Event}
    (h : alters height height') (rest : Resized alters inserts events others) :
    Resized alters inserts (.resize width height :: events) (.resize width' height' :: others)
  | insert (width : Int) {height : Int} {events others : List Event} (h : inserts height)
    (rest : Resized alters inserts events others) :
    Resized alters inserts events (.resize width height :: others)

/-- The sequences differ in widths, and in sizes without a height that the second one has besides. -/
abbrev SameHeights : List Event → List Event → Prop :=
  Resized (· = ·) (· ≤ 0)

/-- The sequences differ in window sizes, and the second one may have more of them. -/
abbrev SameKeys : List Event → List Event → Prop :=
  Resized (fun _ _ => True) (fun _ => True)

namespace Session

variable {alters : Int → Int → Prop} {inserts : Int → Prop} {events others : List Event}
variable {s t : Session}

/-! ## Two runs -/

/-- A relation of two sessions lasts along two runs if events that both are told keep it, and window sizes
that both are told in different ways or that only the second one is told. -/
theorem run_resized {r : Session → Session → Prop} (h : Resized alters inserts events others)
    (hst : r s t) (hkeep : ∀ s t e, e ∈ events → r s t → r (s.handle e).1 (t.handle e).1)
    (halter : ∀ s t width width' height height', alters height height' → r s t →
      r (s.handle (.resize width height)).1 (t.handle (.resize width' height')).1)
    (hinsert : ∀ s t width height, inserts height → r s t →
      r s (t.handle (.resize width height)).1) : r (s.run events) (t.run others) := by
  induction h generalizing s t with
  | nil => exact hst
  | keep e rest ih =>
    have hstep := hkeep s t e List.mem_cons_self hst
    exact ih hstep fun s t d hd => hkeep s t d (List.mem_cons_of_mem e hd)
  | alter width width' hheight rest ih =>
    have hstep := halter s t width width' _ _ hheight hst
    exact ih hstep fun s t d hd => hkeep s t d (List.mem_cons_of_mem _ hd)
  | insert width hheight rest ih => exact ih (hinsert s t width _ hheight hst) hkeep

/-- What a live session makes of a new window size. -/
theorem handle_resize (hlive : s.done = false) (width height : Int) :
    (s.handle (.resize width height)).1 = s.resize width height := by
  simp only [handle, hlive, Bool.false_eq_true, ↓reduceIte]

/-! ## The same but for the width -/

/-- The session in a window of some width. -/
def inWidth (s : Session) (width : Int) : Session :=
  { s with width }

theorem done_inWidth (s : Session) (width : Int) : (s.inWidth width).done = s.done := rfl

theorem resize_inWidth (s : Session) (width width' height : Int) :
    (s.inWidth width).resize width' height = (s.resize width height).inWidth width' := rfl

/-- No key looks at the width. -/
theorem press_inWidth (s : Session) (width : Int) (k : Key) :
    (s.inWidth width).press k = (s.press k).map (·.inWidth width) := by
  have hstate : (s.inWidth width).state = s.state := rfl
  unfold press
  rw [hstate]
  split
  · rfl
  · rfl
  · unfold Session.confirm
    -- the row under the cursor is looked up in the whole rows
    have hrow : (s.inWidth width).cursorRow? = s.cursorRow? := rfl
    rw [hrow]
    cases s.cursorRow? with
    | none => rfl
    | some row => cases row <;> rfl
  · split <;> rfl
  · split <;> rfl

/-- What a session makes of an event, it makes of it in a window of any width. -/
theorem exists_handle_inWidth (s : Session) (width : Int) (e : Event) :
    ∃ width', ((s.inWidth width).handle e).1 = (s.handle e).1.inWidth width' := by
  cases hdone : s.done with
  | true =>
    rw [handle_of_done hdone, handle_of_done (s := s.inWidth width) hdone]
    exact ⟨width, rfl⟩
  | false =>
    simp only [handle, done_inWidth, hdone, Bool.false_eq_true, ↓reduceIte]
    cases e with
    | resize width' height => exact ⟨width', rfl⟩
    | foreign shown => exact ⟨width, rfl⟩
    | key k =>
      dsimp only
      rw [press_inWidth]
      cases s.press k <;> exact ⟨width, rfl⟩

/-- A window size without a height changes nothing but the width of a session in view. -/
theorem InView.resize_eq (h : s.InView) (width : Int) {height : Int} (hheight : height ≤ 0) :
    s.resize width height = s.inWidth width := by
  have hclamp := Cursor.Shows.clampTo_eq h s.viewHeight_nonneg
  have hensure := Cursor.Shows.ensureVisible_eq h s.viewHeight_nonneg
  have hkept : ({ s with state := .resizing, width } : Session).follow =
      { s with state := .resizing, width } := by
    exact congrArg (fun cursor => ({ s with state := .resizing, width, cursor } : Session)) hensure
  rw [resize, if_neg (by omega), hclamp, hkept]
  rfl

/-- The second session is the first one, which is in view, in a window of some other width. -/
def SameButWidth (s t : Session) : Prop :=
  s.InView ∧ ∃ width, t = s.inWidth width

theorem SameButWidth.handle (h : SameButWidth s t) (e : Event) :
    SameButWidth (s.handle e).1 (t.handle e).1 := by
  obtain ⟨hview, width, rfl⟩ := h
  exact ⟨inView_handle hview e, exists_handle_inWidth s width e⟩

theorem SameButWidth.handle_resize (h : SameButWidth s t) (width width' height : Int) :
    SameButWidth (s.handle (.resize width height)).1 (t.handle (.resize width' height)).1 := by
  obtain ⟨hview, other, rfl⟩ := h
  refine ⟨inView_handle hview _, ?_⟩
  cases hdone : s.done with
  | true =>
    rw [handle_of_done hdone, handle_of_done (s := s.inWidth other) hdone]
    exact ⟨other, rfl⟩
  | false =>
    rw [Session.handle_resize hdone, Session.handle_resize (s := s.inWidth other) hdone]
    exact ⟨width', resize_inWidth s other width' height⟩

theorem SameButWidth.insert (h : SameButWidth s t) (width : Int) {height : Int}
    (hheight : height ≤ 0) : SameButWidth s (t.handle (.resize width height)).1 := by
  obtain ⟨hview, other, rfl⟩ := h
  refine ⟨hview, ?_⟩
  cases hdone : s.done with
  | true =>
    rw [handle_of_done (s := s.inWidth other) hdone]
    exact ⟨other, rfl⟩
  | false =>
    rw [Session.handle_resize (s := s.inWidth other) hdone]
    exact ⟨width, InView.resize_eq (s := s.inWidth other) hview width hheight⟩

/-- Widths, and window sizes without a height, change nothing but the width of the session. -/
theorem run_sameHeights (h : SameHeights events others) (hst : SameButWidth s t) :
    SameButWidth (s.run events) (t.run others) := by
  refine run_resized h hst (fun _ _ e _ hst => hst.handle e) ?_ fun _ _ width _ hheight hst =>
    hst.insert width hheight
  rintro s t width width' height _ rfl hst
  exact hst.handle_resize width width' height

/-! ## The same choice -/

/-- The sessions are over one table, on one row of it and in one state, and yield the same; both are in
view. -/
structure SameChoice (s t : Session) : Prop where
  content : t.content = s.content
  selected : t.cursor.selected = s.cursor.selected
  selection : t.selection = s.selection
  state : t.state = s.state
  inView : s.InView
  inView' : t.InView

theorem SameChoice.size (h : SameChoice s t) : t.size = s.size := by
  rw [Session.size, Session.size, Session.rows, Session.rows, h.content]

theorem SameChoice.cursorRow? (h : SameChoice s t) : t.cursorRow? = s.cursorRow? := by
  rw [Session.cursorRow?, Session.cursorRow?, Session.rows, Session.rows, h.content, h.selected]

theorem SameChoice.done (h : SameChoice s t) : t.done = s.done := by
  rw [Session.done, Session.done, h.state]

/-- Where a movement by a number of rows ends depends on the row that it begins on. -/
theorem move_selected {c d : Cursor} (h : d.selected = c.selected) (delta n : Int) :
    (d.move delta n).selected = (c.move delta n).selected := by
  rw [Cursor.move, Cursor.move, h]
  split <;> rfl

/-- An action that is no paging leads from one row to one row. -/
theorem SameChoice.moved (h : SameChoice s t) {action : Action} (haction : action.isPaging = false) :
    (t.moved action).selected = (s.moved action).selected := by
  cases action with
  | pageUp | pageDown | halfPageUp | halfPageDown => exact absurd haction (by decide)
  | lineUp | lineDown =>
    rw [Session.moved, Session.moved, h.size]
    exact move_selected h.selected _ _
  | top => rfl
  | bottom => rw [Session.moved, Session.moved, h.size]
  | quit | toggleFocus | confirm => exact h.selected

/-- What a key that is no paging makes of sessions with the same choice: either it cannot be handled in
both, or they choose the same again. -/
theorem SameChoice.press (h : SameChoice s t) {k : Key} (hk : (Event.key k).isPaging = false) :
    (∃ u v, s.press k = .ok u ∧ t.press k = .ok v ∧ v.content = u.content ∧
      v.cursor.selected = u.cursor.selected ∧ v.selection = u.selection ∧ v.state = u.state) ∨
    ∃ e, s.press k = .error e ∧ t.press k = .error e := by
  unfold Session.press
  rw [h.state]
  split
  · exact .inl ⟨_, _, rfl, rfl, h.content, h.selected, rfl, rfl⟩
  · exact .inl ⟨_, _, rfl, rfl, h.content, h.selected, h.selection, rfl⟩
  · unfold Session.confirm
    rw [h.cursorRow?]
    split
    · exact .inl ⟨_, _, rfl, rfl, h.content, h.selected, h.selection, h.state⟩
    · exact .inr ⟨_, rfl, rfl⟩
    · exact .inl ⟨_, _, rfl, rfl, h.content, h.selected, rfl, rfl⟩
  · rename_i action _ _ _ haction
    have hpaging : action.isPaging = false := by simpa [Event.isPaging, haction] using hk
    split
    · exact .inl ⟨_, _, rfl, rfl, h.content, h.selected, h.selection, h.state⟩
    · refine .inl ⟨_, _, rfl, rfl, h.content, ?_, h.selection, rfl⟩
      simpa only [follow, Cursor.ensureVisible_selected] using h.moved hpaging
  · split
    · exact .inl ⟨_, _, rfl, rfl, h.content, h.selected, h.selection, h.state⟩
    · refine .inl ⟨_, _, rfl, rfl, h.content, ?_, h.selection, h.state⟩
      simpa only [follow, Cursor.ensureVisible_selected] using h.selected

/-- A new window size leaves a session in view on its row. -/
theorem InView.resize_selected (h : s.InView) (width height : Int) :
    (s.resize width height).cursor.selected = s.cursor.selected :=
  (Cursor.ensureVisible_selected _ _ _).trans h.toOnItem.clampTo_selected

theorem SameChoice.handle_resize (h : SameChoice s t) (width width' height height' : Int) :
    SameChoice (s.handle (.resize width height)).1 (t.handle (.resize width' height')).1 := by
  cases hdone : s.done with
  | true => rwa [handle_of_done hdone, handle_of_done (h.done.trans hdone)]
  | false =>
    rw [Session.handle_resize hdone, Session.handle_resize (h.done.trans hdone)]
    refine ⟨h.content, ?_, h.selection, h.state, s.inView_resize _ _, t.inView_resize _ _⟩
    rw [h.inView.resize_selected, h.inView'.resize_selected, h.selected]

theorem SameChoice.insert (h : SameChoice s t) (width height : Int) :
    SameChoice s (t.handle (.resize width height)).1 := by
  cases hdone : t.done with
  | true => rwa [handle_of_done hdone]
  | false =>
    rw [Session.handle_resize hdone]
    refine ⟨h.content, ?_, h.selection, h.state, h.inView, t.inView_resize _ _⟩
    rw [h.inView'.resize_selected, h.selected]

theorem SameChoice.handle (h : SameChoice s t) {e : Event} (he : e.isPaging = false) :
    SameChoice (s.handle e).1 (t.handle e).1 := by
  have hs := inView_handle h.inView e
  have ht := inView_handle h.inView' e
  cases hdone : s.done with
  | true => rwa [handle_of_done hdone, handle_of_done (h.done.trans hdone)]
  | false =>
    simp only [Session.handle, hdone, h.done.trans hdone, Bool.false_eq_true, ↓reduceIte] at hs ht ⊢
    cases e with
    | resize width height =>
      have hresize := h.handle_resize width width height height
      rwa [Session.handle_resize hdone, Session.handle_resize (h.done.trans hdone)] at hresize
    | foreign shown => exact h
    | key k =>
      rcases h.press he with ⟨u, v, hu, hv, hcontent, hselected, hselection, hstate⟩ | ⟨e, hu, hv⟩
      · simp only [hu, hv] at hs ht ⊢
        exact ⟨hcontent, hselected, hselection, hstate, hs, ht⟩
      · simp only [hu, hv] at hs ht ⊢
        exact h

/-- Without pages, window sizes change neither the row nor what the session yields. -/
theorem run_sameKeys (h : SameKeys events others) (hpaging : ∀ e ∈ events, e.isPaging = false)
    (hst : SameChoice s t) : SameChoice (s.run events) (t.run others) :=
  run_resized h hst (fun _ _ e he hst => hst.handle (hpaging e he))
    (fun _ _ width width' height height' _ hst => hst.handle_resize width width' height height')
    (fun _ _ width height _ hst => hst.insert width height)

/-! ## Resizing is transparent -/

variable {columns : List Column} {rows : List Row} {width height activeIndex : Int}
variable {activeId : Option String} {selectable : Bool}

/-- Sessions over one table that start in windows of one height are the same but for their width. -/
theorem sameButWidth_start {width' : Int}
    (hs : start columns rows width height activeIndex activeId selectable = .ok s)
    (ht : start columns rows width' height activeIndex activeId selectable = .ok t) :
    SameButWidth s t := by
  refine ⟨(inView_start hs).1, width', ?_⟩
  obtain ⟨_, selection, hselection, rfl⟩ := start_eq_ok hs
  obtain ⟨_, selection', hselection', rfl⟩ := start_eq_ok ht
  obtain rfl : selection' = selection := Except.ok.inj (hselection'.symm.trans hselection)
  rfl

/-- Sessions over one table start with the same choice in all windows. -/
theorem sameChoice_start {width' height' : Int}
    (hs : start columns rows width height activeIndex activeId selectable = .ok s)
    (ht : start columns rows width' height' activeIndex activeId selectable = .ok t) :
    SameChoice s t := by
  have hview := (inView_start hs).1
  have hview' := (inView_start ht).1
  obtain ⟨_, selection, hselection, rfl⟩ := start_eq_ok hs
  obtain ⟨_, selection', hselection', rfl⟩ := start_eq_ok ht
  obtain rfl : selection' = selection := Except.ok.inj (hselection'.symm.trans hselection)
  refine ⟨rfl, ?_, rfl, rfl, hview, hview'⟩
  simp only [follow, Cursor.ensureVisible_selected]

/-- Over columns and rows that fit them, sessions start in windows of any size. With one height to start
with, the same keys and the same positive heights lead to the same state, row, view and yield, whatever
the widths and however many sizes without a height come between. Without pages the same keys lead to the
same state, row and yield, whatever the sizes of the windows. -/
theorem choice_of_resized (hcolumns : columns ≠ [])
    (hrows : ∀ row ∈ rows, row.length = columns.length) (activeIndex : Int)
    (activeId : Option String) (width width' height height' : Int) :
    ∃ s t u, start columns rows width height activeIndex activeId true = .ok s ∧
      start columns rows width' height activeIndex activeId true = .ok t ∧
      start columns rows width' height' activeIndex activeId true = .ok u ∧
      (∀ events others, SameHeights events others →
        (t.run others).state = (s.run events).state ∧
          (t.run others).cursor.selected = (s.run events).cursor.selected ∧
          (t.run others).cursor.scroll = (s.run events).cursor.scroll ∧
          (t.run others).selection = (s.run events).selection) ∧
      ∀ events others, SameKeys events others → (∀ e ∈ events, e.isPaging = false) →
        (u.run others).state = (s.run events).state ∧
          (u.run others).cursor.selected = (s.run events).cursor.selected ∧
          (u.run others).selection = (s.run events).selection := by
  obtain ⟨s, hs, -, -⟩ := exists_start_eq_ok hcolumns hrows width height activeIndex activeId
  obtain ⟨t, ht, -, -⟩ := exists_start_eq_ok hcolumns hrows width' height activeIndex activeId
  obtain ⟨u, hu, -, -⟩ := exists_start_eq_ok hcolumns hrows width' height' activeIndex activeId
  refine ⟨s, t, u, hs, ht, hu, fun events others h => ?_, fun events others h hpaging => ?_⟩
  · obtain ⟨-, w, hw⟩ := run_sameHeights h (sameButWidth_start hs ht)
    rw [hw]
    exact ⟨rfl, rfl, rfl, rfl⟩
  · have hchoice := run_sameKeys h hpaging (sameChoice_start hs hu)
    exact ⟨hchoice.state, hchoice.selected, hchoice.selection⟩

/-- In a window of one line and in one of ten, the same row is confirmed after sizes of the window have
come between the keys. -/
theorem choice_of_resized_between_keys :
    ∃ s u,
      start [⟨"Id", 3, by decide⟩] [["a"], ["b"], ["c"]] 5 10 0 none true = .ok s ∧
      start [⟨"Id", 3, by decide⟩] [["a"], ["b"], ["c"]] 2 1 0 none true = .ok u ∧
      (s.run [.key .down, .resize 8 6, .key .down, .key .enter]).selection = "c" ∧
      (u.run [.resize 0 7, .key .down, .resize 1 0, .key .down, .key .enter]).selection = "c" := by
  have hcolumns : [(⟨"Id", 3, by decide⟩ : Column)] ≠ [] := by simp
  have hrows : ∀ row ∈ ([["a"], ["b"], ["c"]] : List Row), row.length = 1 := by simp
  obtain ⟨s, t, u, hs, -, hu, -, hkeys⟩ := choice_of_resized hcolumns hrows 0 none 5 2 10 1
  obtain rfl := Except.ok.inj hs
  have hresized : SameKeys [.key .down, .resize 8 6, .key .down, .key .enter]
      [.resize 0 7, .key .down, .resize 1 0, .key .down, .key .enter] :=
    .insert 0 trivial <| .keep _ <| .alter 8 1 trivial <| .keep _ <| .keep _ .nil
  have hchosen := (hkeys _ _ hresized (by decide)).2.2
  exact ⟨_, u, rfl, hu, by decide, hchosen.trans (by decide)⟩

end Session

end WorkspaceDesk.Table
