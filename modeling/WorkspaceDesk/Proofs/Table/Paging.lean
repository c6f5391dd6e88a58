import Mathlib.Data.Nat.Find
import WorkspaceDesk.Proofs.Table.Highlight

/-!
# Scrolling skips no row

The view follows the cursor, and no key but those for the ends of the table moves it further than it is high
(`adjoins_handle`): the rows in view before and after overlap or touch. Views that adjoin each other leave no gap
between the first and the last of them (`exists_view_of_steps`), so that paging from one end of the table to the
other shows every row (`scrolling_skips_no_row`).
-/

namespace WorkspaceDesk.Table

/-- Views of one height that move by no more than it at a time show everything from the first of them to the
last. -/
theorem exists_view_of_steps {top : Nat → Int} {height : Int}
    (hstep : ∀ j, top (j + 1) ≤ top j + height ∧ top j ≤ top (j + 1) + height) {i : Int} {m : Nat}
    (h : top 0 ≤ i ∧ i < top m + height ∨ top m ≤ i ∧ i < top 0 + height) :
    ∃ j ≤ m, top j ≤ i ∧ i < top j + height := by
  induction m with
  | zero => exact ⟨0, Nat.le_refl 0, by omega, by omega⟩
  | succ m ih =>
    obtain ⟨hdown, hup⟩ := hstep m
    by_cases hlast : top (m + 1) ≤ i ∧ i < top (m + 1) + height
    · exact ⟨m + 1, Nat.le_refl _, hlast⟩
    · -- what the last view does not show lies on the side of the views before it
      obtain ⟨j, hj, hshown⟩ := ih (by omega)
      exact ⟨j, by omega, hshown⟩

/-- What advances by equal steps until it stops at the end has advanced by as many of them as were made. -/
theorem eq_min_of_steps {f : Nat → Int} {last delta : Int} (hlast : 0 ≤ last) (hdelta : 0 < delta)
    (hzero : f 0 = 0) (hstep : ∀ j, f (j + 1) = max 0 (min last (f j + delta))) (j : Nat) :
    f j = min last (j * delta) := by
  induction j with
  | zero =>
    rw [hzero, Int.natCast_zero, Int.zero_mul]
    omega
  | succ j ih =>
    have hnonneg : 0 ≤ (j : Int) * delta := Int.mul_nonneg (Int.natCast_nonneg j) (by omega)
    rw [hstep, ih, Int.natCast_succ, Int.add_mul, Int.one_mul]
    omega

namespace Cursor

variable {c d : Cursor} {height n : Int}

/-- Where the cursor moves by no more than the height of the view, so does the view. -/
theorem Shows.scroll_near (hc : c.Shows height n) (hd : d.OnItem n) (hheight : 0 < height) (hn : 0 < n)
    (hscroll : d.scroll = c.scroll) (hdown : d.selected ≤ c.selected + height)
    (hup : c.selected ≤ d.selected + height) :
    (d.ensureVisible height n).scroll ≤ c.scroll + height ∧
      c.scroll ≤ (d.ensureVisible height n).scroll + height := by
  have hle := hc.scroll_le hn
  have hlt := hc.lt_scroll_add hn
  have hend := hc.scroll_add_le
  have hzero := hc.scroll_nonneg
  have hnonneg := hd.selected_nonneg
  rw [ensureVisible_scroll hheight hd hn, hscroll]
  omega

/-- A movement stops at both ends of the list. -/
theorem selected_move (c : Cursor) (delta : Int) (hn : 0 < n) :
    (c.move delta n).selected = max 0 (min (n - 1) (c.selected + delta)) := by
  rw [move, if_neg (by omega), clamp_eq_max_min (by omega)]

/-- A movement leaves the view where it is. -/
theorem scroll_move (c : Cursor) (delta : Int) (hn : 0 < n) : (c.move delta n).scroll = c.scroll := by
  rw [move, if_neg (by omega)]

end Cursor

namespace Session

variable {s : Session} {k : Key} {action : Action}

/-! ## From one view to the next -/

/-- The next view is as high as the one before, and they overlap or touch. -/
structure Adjoins (s t : Session) : Prop where
  viewHeight_eq : t.viewHeight = s.viewHeight
  top_le : t.top ≤ s.top + s.viewHeight
  le_top : s.top ≤ t.top + s.viewHeight

theorem Adjoins.of_eq {t : Session} (hheight : t.viewHeight = s.viewHeight) (htop : t.top = s.top) :
    Adjoins s t := by
  have hnonneg := s.viewHeight_nonneg
  exact ⟨hheight, by omega, by omega⟩

/-- Of the movements only those to the ends of the table go further than the view is high. -/
theorem moved_near (hs : s.InView) (hsize : 0 < s.size) (htop : action ≠ .top) (hbottom : action ≠ .bottom) :
    (s.moved action).scroll = s.cursor.scroll ∧
      (s.moved action).selected ≤ s.cursor.selected + s.viewHeight ∧
      s.cursor.selected ≤ (s.moved action).selected + s.viewHeight := by
  have hheight := viewHeight_pos hsize
  have hnonneg := hs.selected_nonneg
  have hlt := hs.selected_lt hsize
  have hmove : ∀ delta, delta ≤ s.viewHeight → -s.viewHeight ≤ delta →
      (s.cursor.move delta s.size).scroll = s.cursor.scroll ∧
        (s.cursor.move delta s.size).selected ≤ s.cursor.selected + s.viewHeight ∧
        s.cursor.selected ≤ (s.cursor.move delta s.size).selected + s.viewHeight := by
    intro delta hle hge
    rw [Cursor.selected_move _ _ hsize]
    exact ⟨Cursor.scroll_move _ _ hsize, by omega, by omega⟩
  cases action with
  | lineUp | lineDown | pageUp | pageDown | halfPageUp | halfPageDown =>
    exact hmove _ (by omega) (by omega)
  | top => exact absurd rfl htop
  | bottom => exact absurd rfl hbottom
  | quit | toggleFocus | confirm =>
    have hself : s.cursor.selected ≤ s.cursor.selected + s.viewHeight := by omega
    exact ⟨rfl, hself, hself⟩

/-- The view goes with the cursor, and no further. -/
theorem adjoins_go (hs : s.InView) (htop : action ≠ .top) (hbottom : action ≠ .bottom) :
    Adjoins s (s.go action) := by
  have hview : (s.go action).InView := inView_follow (onItem_moved hs.toOnItem action)
  have hnonneg := s.size_nonneg
  by_cases hsize : 0 < s.size
  · obtain ⟨hscroll, hdown, hup⟩ := moved_near hs hsize htop hbottom
    obtain ⟨hle, hge⟩ := Cursor.Shows.scroll_near hs (onItem_moved hs.toOnItem action)
      (viewHeight_pos hsize) hsize hscroll hdown hup
    exact ⟨rfl, hle, hge⟩
  · -- without rows the view stays at the top
    have htop : s.top + s.viewHeight ≤ s.size := hs.scroll_add_le
    have htop' : (s.go action).top + s.viewHeight ≤ s.size := hview.scroll_add_le
    have hheight := s.viewHeight_nonneg
    have hzero : 0 ≤ s.top := hs.scroll_nonneg
    have hzero' : 0 ≤ (s.go action).top := hview.scroll_nonneg
    exact .of_eq rfl (by omega)

theorem Pressed.adjoins {t : Session} (h : Pressed k s t) (hs : s.InView)
    (htop : k.action? ≠ some .top) (hbottom : k.action? ≠ some .bottom) : Adjoins s t := by
  cases h with
  | quit | toggle | confirm | nothing | unheard => exact .of_eq rfl rfl
  | move action hk =>
    exact adjoins_go hs (by rintro rfl; exact htop hk) (by rintro rfl; exact hbottom hk)
  | unbound =>
    exact .of_eq rfl (congrArg Cursor.scroll (Cursor.Shows.ensureVisible_eq hs s.viewHeight_nonneg))

/-- Whatever key is pressed, but for those for the ends of the table, the views before and after adjoin each
other. -/
theorem adjoins_handle (hs : s.InView) (htop : k.action? ≠ some .top) (hbottom : k.action? ≠ some .bottom) :
    Adjoins s (s.handle (.key k)).1 := by
  cases hdone : s.done with
  | true =>
    rw [handle_of_done hdone]
    exact .of_eq rfl rfl
  | false =>
    refine handle_cases hdone (.key k) (fun _ _ h => by cases h) ?_ (fun _ => .of_eq rfl rfl)
    rintro _ t ⟨⟩ hpress
    exact hpress.adjoins hs htop hbottom

/-- The keys for the ends of the table are bound to nothing else. -/
theorem not_end_of_not_mem (hk : k ∉ [Key.home, .char 'g', .endKey, .char 'G']) :
    k.action? ≠ some .top ∧ k.action? ≠ some .bottom := by
  unfold Key.action?
  split <;> simp_all

/-! ## Paging from end to end -/

/-- The row with an index stands in the window, at its place and cut down to the visible columns; and where a
column is visible, it is shown. -/
def Draws (s : Session) (i : Nat) : Prop :=
  ∃ (j : Nat) (row : Row), s.rows[i]? = some row ∧ s.top + j = i ∧
    s.window[j]? = some (row.take s.visibleColumns.length) ∧
    (s.visibleColumns ≠ [] → ∃ shown e, s.view = .grid s.visibleColumns shown ∧
      shown[j]? = some (e, row.take s.visibleColumns.length))

theorem draws_of_inView (hs : s.InView) {i : Nat} (htop : s.top ≤ i) (hend : i < s.top + s.viewHeight) :
    s.Draws i := by
  have hnonneg : 0 ≤ s.top := hs.scroll_nonneg
  have hfull : s.top + s.viewHeight ≤ s.size := hs.scroll_add_le
  have hlength := length_window hs
  obtain ⟨j, hj⟩ : ∃ j : Nat, s.top.toNat + j = i := ⟨i - s.top.toNat, by omega⟩
  obtain ⟨row, hrow⟩ : ∃ row, s.rows[i]? = some row := by
    refine ⟨_, List.getElem?_eq_getElem ?_⟩
    simp only [size] at hfull
    omega
  have hwindow := window_getElem? (s := s) (j := j) (by omega)
  rw [hj, hrow, Option.map_some] at hwindow
  refine ⟨j, row, hrow, by omega, hwindow, fun hcolumns => ?_⟩
  refine ⟨s.emphasize s.top s.window, s.emphasis (s.top + j), ?_, ?_⟩
  · rw [view, if_neg (by simpa using hcolumns)]
  · rw [emphasize_getElem?, hwindow, Option.map_some]

/-- The session after one key, and then another one pressed a number of times. -/
def paged (s : Session) (first next : Key) (presses : Nat) : Session :=
  s.run (.key first :: List.replicate presses (.key next))

theorem paged_succ (s : Session) (first next : Key) (presses : Nat) :
    s.paged first next (presses + 1) = ((s.paged first next presses).handle (.key next)).1 := by
  rw [paged, List.replicate_succ', ← List.cons_append, run_append]
  rfl

/-- The session is still browsed: over the same table, with a view of the same height, and in view. -/
structure BrowsedFrom (s t : Session) : Prop where
  content : t.content = s.content
  browsing : t.state = .browsing
  viewHeight : t.viewHeight = s.viewHeight
  inView : t.InView

theorem BrowsedFrom.rows {t : Session} (h : BrowsedFrom s t) : t.rows = s.rows :=
  congrArg Content.rows h.content

theorem BrowsedFrom.size {t : Session} (h : BrowsedFrom s t) : t.size = s.size := by
  rw [Session.size, h.rows, Session.size]

theorem BrowsedFrom.handle {t : Session} (h : BrowsedFrom s t) (hk : k.action? = some action)
    (hmovement : action.isMovement = true) : BrowsedFrom s (t.handle (.key k)).1 := by
  rw [handle_movement h.browsing hk hmovement]
  exact ⟨h.content, h.browsing, h.viewHeight, inView_follow (onItem_moved h.inView.toOnItem action)⟩

variable {first next : Key} {opening step : Action}

theorem browsedFrom_paged (hs : s.InView) (hstate : s.state = .browsing)
    (hfirst : first.action? = some opening) (hopening : opening.isMovement = true)
    (hnext : next.action? = some step) (hstep : step.isMovement = true) (j : Nat) :
    BrowsedFrom s (s.paged first next j) := by
  induction j with
  | zero => exact BrowsedFrom.handle ⟨rfl, hstate, rfl, hs⟩ hfirst hopening
  | succ j ih =>
    rw [paged_succ]
    exact ih.handle hnext hstep

/-- From one key on, another one that is pressed until the cursor is on a row takes the view over every row of
the table. -/
def Sweeps (s : Session) (first next : Key) (last : Nat) : Prop :=
  ∃ m, (s.paged first next m).cursor.selected = last ∧
    (∀ j < m, (s.paged first next j).cursor.selected ≠ last) ∧
    ∀ i < s.rows.length, ∃ j ≤ m, (s.paged first next j).Draws i

/-- The view of the first row is at the top of the table. -/
theorem top_eq_of_first (hs : s.InView) (hselected : s.cursor.selected = 0) : s.top = 0 := by
  have hzero : 0 ≤ s.top := hs.scroll_nonneg
  have hend : s.top + s.viewHeight ≤ s.size := hs.scroll_add_le
  have hheight := s.viewHeight_nonneg
  have hle : 0 < s.size → s.top ≤ s.cursor.selected := hs.scroll_le
  omega

/-- The view of the last row ends with it. -/
theorem top_eq_of_last (hs : s.InView) (hselected : s.cursor.selected = s.size - 1) :
    s.top + s.viewHeight = s.size := by
  have hend : s.top + s.viewHeight ≤ s.size := hs.scroll_add_le
  have hzero : 0 ≤ s.top := hs.scroll_nonneg
  have hheight := s.viewHeight_nonneg
  have hnonneg := hs.selected_nonneg
  have hlt : 0 < s.size → s.cursor.selected < s.top + s.viewHeight := hs.lt_scroll_add
  omega

/-- A key that moves the cursor by a number of rows does so again each time it is pressed, until the cursor is
at the end. -/
theorem selected_paged_succ (hsize : 0 < s.size) {delta : Int} {j : Nat}
    (hfrom : BrowsedFrom s (s.paged first next j)) (hnext : next.action? = some step)
    (hstep : step.isMovement = true)
    (hmoved : ∀ t, BrowsedFrom s t → t.moved step = t.cursor.move delta s.size) :
    (s.paged first next (j + 1)).cursor.selected =
      max 0 (min (s.size - 1) ((s.paged first next j).cursor.selected + delta)) := by
  rw [paged_succ, handle_movement hfrom.browsing hnext hstep, go_selected, hmoved _ hfrom,
    Cursor.selected_move _ _ hsize]

/-- The cursor goes down from the first row by equal steps, and no further than to the last row. -/
theorem selected_paged_down (hs : s.InView) (hstate : s.state = .browsing) (hsize : 0 < s.size)
    (hnext : next.action? = some step) (hstep : step.isMovement = true) {delta : Int} (hdelta : 0 < delta)
    (hmoved : ∀ t, BrowsedFrom s t → t.moved step = t.cursor.move delta s.size) (j : Nat) :
    (s.paged .home next j).cursor.selected = min (s.size - 1) (j * delta) := by
  have hopen : Key.home.action? = some .top := rfl
  have hfrom := browsedFrom_paged hs hstate hopen rfl hnext hstep
  have hfirst : (s.paged .home next 0).cursor.selected = 0 := by
    rw [paged, List.replicate_zero, run_cons, run_nil, handle_movement hstate hopen rfl, go_selected]
    rfl
  exact eq_min_of_steps (f := fun j => (s.paged .home next j).cursor.selected) (by omega) hdelta hfirst
    (fun j => selected_paged_succ hsize (hfrom j) hnext hstep hmoved) j

/-- The cursor goes up from the last row by equal steps, and no further than to the first row. -/
theorem selected_paged_up (hs : s.InView) (hstate : s.state = .browsing) (hsize : 0 < s.size)
    (hnext : next.action? = some step) (hstep : step.isMovement = true) {delta : Int} (hdelta : 0 < delta)
    (hmoved : ∀ t, BrowsedFrom s t → t.moved step = t.cursor.move (-delta) s.size) (j : Nat) :
    (s.paged .endKey next j).cursor.selected = s.size - 1 - min (s.size - 1) (j * delta) := by
  have hopen : Key.endKey.action? = some .bottom := rfl
  have hfrom := browsedFrom_paged hs hstate hopen rfl hnext hstep
  have hlast : (s.paged .endKey next 0).cursor.selected = s.size - 1 := by
    rw [paged, List.replicate_zero, run_cons, run_nil, handle_movement hstate hopen rfl, go_selected]
    exact Int.max_eq_right (by omega)
  -- seen from the last row, going up is going down from the first
  have hback : ∀ j : Nat, s.size - 1 - (s.paged .endKey next j).cursor.selected =
      min (s.size - 1) (j * delta) := by
    refine eq_min_of_steps (by omega) hdelta (by omega) fun j => ?_
    rw [selected_paged_succ hsize (hfrom j) hnext hstep hmoved]
    omega
  have hj := hback j
  omega

/-- Steps of at least one row take the cursor over all rows. -/
theorem min_eq_of_steps {last delta : Int} (hlast : 0 ≤ last) (hdelta : 0 < delta) :
    min last (last.toNat * delta) = last := by
  have hle : last * 1 ≤ last * delta := Int.mul_le_mul_of_nonneg_left hdelta hlast
  rw [Int.toNat_of_nonneg hlast]
  omega

/-- The views on the way from one end of the table to the other show every row. -/
theorem draws_of_ends (hs : s.InView) (hstate : s.state = .browsing)
    (hfirst : first.action? = some opening) (hopening : opening.isMovement = true)
    (hnext : next.action? = some step) (hstep : step.isMovement = true)
    (htop : step ≠ .top) (hbottom : step ≠ .bottom) {m : Nat}
    (hends : (s.paged first next 0).cursor.selected = 0 ∧
        (s.paged first next m).cursor.selected = s.size - 1 ∨
      (s.paged first next 0).cursor.selected = s.size - 1 ∧ (s.paged first next m).cursor.selected = 0)
    {i : Nat} (hi : i < s.rows.length) : ∃ j ≤ m, (s.paged first next j).Draws i := by
  have hfrom := browsedFrom_paged hs hstate hfirst hopening hnext hstep
  have hviews : ∀ j, (s.paged first next (j + 1)).top ≤ (s.paged first next j).top + s.viewHeight ∧
      (s.paged first next j).top ≤ (s.paged first next (j + 1)).top + s.viewHeight := by
    intro j
    have hadjoins : Adjoins (s.paged first next j) (s.paged first next (j + 1)) := by
      rw [paged_succ, handle_movement (hfrom j).browsing hnext hstep]
      exact adjoins_go (hfrom j).inView htop hbottom
    have hheight := (hfrom j).viewHeight
    exact ⟨hheight ▸ hadjoins.top_le, hheight ▸ hadjoins.le_top⟩
  have hsize : (i : Int) < s.size := by
    rw [size]
    exact Int.ofNat_lt.mpr hi
  have hzero : ∀ j, (s.paged first next j).cursor.selected = 0 → (s.paged first next j).top = 0 :=
    fun j hj => top_eq_of_first (hfrom j).inView hj
  have hfull : ∀ j, (s.paged first next j).cursor.selected = s.size - 1 →
      (s.paged first next j).top + s.viewHeight = s.size := by
    intro j hj
    have hlast := top_eq_of_last (hfrom j).inView (by rw [hj, (hfrom j).size])
    rwa [(hfrom j).size, (hfrom j).viewHeight] at hlast
  -- the first view is at one end of the table, and the last one at the other
  have hcovered : (s.paged first next 0).top ≤ i ∧ (i : Int) < (s.paged first next m).top + s.viewHeight ∨
      (s.paged first next m).top ≤ i ∧ (i : Int) < (s.paged first next 0).top + s.viewHeight := by
    rcases hends with ⟨hbegin, hfinish⟩ | ⟨hbegin, hfinish⟩
    · have htop := hzero 0 hbegin
      have hend := hfull m hfinish
      omega
    · have hend := hfull 0 hbegin
      have htop := hzero m hfinish
      omega
  obtain ⟨j, hj, hshown⟩ := exists_view_of_steps hviews hcovered
  refine ⟨j, hj, draws_of_inView (hfrom j).inView hshown.1 ?_⟩
  rw [(hfrom j).viewHeight]
  exact hshown.2

/-- The first time that a key has taken the cursor to a row, all rows have been shown if they have been shown by
every such time. -/
theorem sweeps_of_reaches {last : Nat} (hreach : ∃ m, (s.paged first next m).cursor.selected = last)
    (hdraws : ∀ m, (s.paged first next m).cursor.selected = last →
      ∀ i < s.rows.length, ∃ j ≤ m, (s.paged first next j).Draws i) : s.Sweeps first next last :=
  ⟨Nat.find hreach, Nat.find_spec hreach, fun _ hj => Nat.find_min hreach hj,
    hdraws _ (Nat.find_spec hreach)⟩

/-- Without rows there is nothing to show, and the cursor is where it would be on the first one. -/
theorem sweeps_of_empty (hs : s.InView) (hstate : s.state = .browsing)
    (hfirst : first.action? = some opening) (hopening : opening.isMovement = true)
    (hnext : next.action? = some step) (hstep : step.isMovement = true) (hrows : s.rows.length = 0) :
    s.Sweeps first next 0 := by
  have hfrom := browsedFrom_paged hs hstate hfirst hopening hnext hstep 0
  have hsize : (s.paged first next 0).size ≤ 0 := by
    rw [hfrom.size, size]
    omega
  exact sweeps_of_reaches ⟨0, hfrom.inView.selected_eq hsize⟩ fun m _ i hi => by omega

/-- Paging down from the first row to the last one shows every row. -/
theorem sweeps_down (hs : s.InView) (hstate : s.state = .browsing) :
    s.Sweeps .home .pageDown (s.rows.length - 1) := by
  have hopen : Key.home.action? = some .top := rfl
  have hnext : Key.pageDown.action? = some .pageDown := rfl
  by_cases hrows : s.rows.length = 0
  · rw [hrows]
    exact sweeps_of_empty hs hstate hopen rfl hnext rfl hrows
  have hsize : 0 < s.size := by
    rw [size]
    omega
  have hlast : ((s.rows.length - 1 : Nat) : Int) = s.size - 1 := by
    rw [size]
    omega
  have hmoved : ∀ t, BrowsedFrom s t → t.moved .pageDown = t.cursor.move (max 1 s.viewHeight) s.size := by
    intro t ht
    rw [moved, Cursor.page, ht.viewHeight, ht.size, Int.one_mul]
  have hselected := selected_paged_down hs hstate hsize hnext rfl (by omega) hmoved
  refine sweeps_of_reaches ⟨(s.size - 1).toNat, ?_⟩ fun m hm i hi => ?_
  · rw [hselected, hlast]
    exact min_eq_of_steps (by omega) (by omega)
  · have hbegin := hselected 0
    rw [Int.natCast_zero, Int.zero_mul] at hbegin
    exact draws_of_ends hs hstate hopen rfl hnext rfl (by decide) (by decide)
      (.inl ⟨by omega, by omega⟩) hi

/-- Paging up from the last row to the first one shows every row. -/
theorem sweeps_up (hs : s.InView) (hstate : s.state = .browsing) : s.Sweeps .endKey .pageUp 0 := by
  have hopen : Key.endKey.action? = some .bottom := rfl
  have hnext : Key.pageUp.action? = some .pageUp := rfl
  by_cases hrows : s.rows.length = 0
  · exact sweeps_of_empty hs hstate hopen rfl hnext rfl hrows
  have hsize : 0 < s.size := by
    rw [size]
    omega
  have hmoved : ∀ t, BrowsedFrom s t → t.moved .pageUp = t.cursor.move (-max 1 s.viewHeight) s.size := by
    intro t ht
    rw [moved, Cursor.page, ht.viewHeight, ht.size, Int.neg_mul, Int.one_mul]
  have hselected := selected_paged_up hs hstate hsize hnext rfl (by omega) hmoved
  refine sweeps_of_reaches ⟨(s.size - 1).toNat, ?_⟩ fun m hm i hi => ?_
  · rw [hselected, min_eq_of_steps (by omega) (by omega)]
    exact Int.sub_self _
  · have hbegin := hselected 0
    rw [Int.natCast_zero, Int.zero_mul] at hbegin
    exact draws_of_ends hs hstate hopen rfl hnext rfl (by decide) (by decide)
      (.inr ⟨by omega, hm⟩) hi

/-- After any events, the views before and after a key adjoin each other, unless it is one for the ends of the
table. So while the table is browsed, every row is shown on the way from the first row, paging down until the
cursor is on the last one, and on the way from the last row, paging up until it is on the first. -/
theorem scrolling_skips_no_row {columns : List Column} {rows : List Row}
    {width height activeIndex : Int} {activeId : Option String} {selectable : Bool}
    (h : start columns rows width height activeIndex activeId selectable = .ok s)
    (events : List Event) :
    let t := s.run events
    (∀ k ∉ [Key.home, .char 'g', .endKey, .char 'G'], t.Adjoins (t.handle (.key k)).1) ∧
      (t.state = .browsing →
        t.Sweeps .home .pageDown (rows.length - 1) ∧ t.Sweeps .endKey .pageUp 0) := by
  intro t
  have hview : t.InView := inView_run (inView_start h).1 events
  refine ⟨fun k hk => ?_, fun hstate => ?_⟩
  · obtain ⟨htop, hbottom⟩ := not_end_of_not_mem hk
    exact adjoins_handle hview htop hbottom
  · rw [← rows_run h events]
    exact ⟨sweeps_down hview hstate, sweeps_up hview hstate⟩

/-- In a window with room for two rows of five, the first page down moves the view by one row only, and the
second one by two; all rows have been shown then. -/
theorem scrolling_skips_no_row_of_five :
    ∃ s : Session,
      start [⟨"Id", 3, by decide⟩] [["a"], ["b"], ["c"], ["d"], ["e"]] 5 6 3 none true = .ok s ∧
      (s.run [.key .pageUp]).Adjoins ((s.run [.key .pageUp]).handle (.key .pageDown)).1 ∧
      (s.run [.key .pageUp]).Sweeps .home .pageDown 4 ∧
      (s.paged .home .pageDown 1).window = [["b"], ["c"]] ∧
      (s.paged .home .pageDown 2).window = [["d"], ["e"]] := by
  have hstart : start [⟨"Id", 3, by decide⟩] [["a"], ["b"], ["c"], ["d"], ["e"]] 5 6 3 none true =
    .ok _ := rfl
  obtain ⟨hkeys, hpages⟩ := scrolling_skips_no_row hstart [.key .pageUp]
  exact ⟨_, hstart, hkeys .pageDown (by decide), (hpages (by decide)).1, by decide, by decide⟩

end Session

end WorkspaceDesk.Table
