import WorkspaceDesk.Proofs.Table.Paging
import WorkspaceDesk.Proofs.Table.Resizing

/-!
# Every row can be chosen

From wherever a table is browsed, a few keys lead to each of its rows (`Session.keysTo`), and new window sizes
that come between them do not keep it from being confirmed; nor does a window that shows no column. The keys
that quit do so from everywhere (`Session.every_row_can_be_chosen`).
-/

namespace WorkspaceDesk.Table

/-- The key that is pressed, if the event is one. -/
def Event.key? : Event → Option Key
  | .key k => some k
  | _ => none

/-- Keys that are pressed while the window changes are these keys, with new window sizes between them. -/
theorem sameKeys_of_keys {events : List Event} (hproper : ∀ e ∈ events, e.IsProper) :
    SameKeys ((events.filterMap Event.key?).map .key) events := by
  induction events with
  | nil => exact .nil
  | cons e rest ih =>
    have hrest := ih fun d hd => hproper d (List.mem_cons_of_mem e hd)
    cases e with
    | key k => exact .keep _ hrest
    | resize width height => exact .insert width trivial hrest
    | foreign shown => exact (hproper (.foreign shown) List.mem_cons_self).elim

namespace Session

variable {s : Session}

/-- The keys that choose the row with an index: the one that brings the table back into focus, if it is out of
it, then the one to the first row, those down to the row, and the one that confirms. -/
def keysTo (s : Session) (i : Nat) : List Key :=
  (if s.state = .unfocused then [.escape] else []) ++ .home :: List.replicate i .down ++ [.enter]

/-- None of these keys goes by pages. -/
theorem not_isPaging_of_mem_keysTo {i : Nat} {e : Event} (he : e ∈ (s.keysTo i).map .key) :
    e.isPaging = false := by
  obtain ⟨k, hk, rfl⟩ := List.mem_map.mp he
  rcases List.mem_append.mp hk with hk | hk
  · rcases List.mem_append.mp hk with hk | hk
    · split at hk
      · obtain rfl := List.mem_singleton.mp hk
        rfl
      · cases hk
    · rcases List.mem_cons.mp hk with rfl | hk
      · rfl
      · obtain rfl := List.eq_of_mem_replicate hk
        rfl
  · obtain rfl := List.mem_singleton.mp hk
    rfl

/-- A session that takes keys is browsed after the key that brings it back into focus. -/
theorem exists_focused (hs : s.InView) (hlive : s.done = false) (hstate : s.state ≠ .resizing) :
    ∃ t, s.run ((if s.state = .unfocused then [.escape] else []).map .key) = t ∧ t.state = .browsing ∧
      t.content = s.content ∧ t.InView := by
  rcases browsing_or_unfocused hlive hstate with hfocus | hfocus
  · exact ⟨s, by simp [hfocus], hfocus, rfl, hs⟩
  · refine ⟨{ s with state := .browsing }, ?_, rfl, rfl, hs⟩
    have hpress : s.press .escape = .ok { s with state := .browsing } := by
      simp [press, Key.action?, hfocus]
    simp [hfocus, handle_key hlive hpress]

/-- The keys to a row confirm it. -/
theorem run_keysTo (hs : s.InView) (hlive : s.done = false) (hstate : s.state ≠ .resizing) {i : Nat}
    {cell : String} {rest : Row} (hrow : s.rows[i]? = some (cell :: rest)) :
    (s.run ((s.keysTo i).map .key)).state = .confirmed ∧
      (s.run ((s.keysTo i).map .key)).selection = cell := by
  obtain ⟨t, ht, hbrowsing, hcontent, hview⟩ := exists_focused hs hlive hstate
  have hrows : t.rows = s.rows := congrArg Content.rows hcontent
  have hbound : (i : Int) < t.size := by
    rw [size, hrows]
    exact Int.ofNat_lt.mpr (List.getElem?_eq_some_iff.mp hrow).1
  have hkeys : s.run ((s.keysTo i).map .key) = ((t.paged .home .down i).handle (.key .enter)).1 := by
    rw [keysTo, List.map_append, List.map_append, run_append, run_append, ht]
    simp only [List.map_cons, List.map_replicate, List.map_nil, run_cons, run_nil]
    rfl
  -- the cursor goes down one row with each key
  have hopen : Key.home.action? = some .top := rfl
  have hnext : Key.down.action? = some .lineDown := rfl
  have hfrom := browsedFrom_paged hview hbrowsing hopen rfl hnext rfl i
  have hmoved : ∀ u, BrowsedFrom t u → u.moved .lineDown = u.cursor.move 1 t.size := by
    intro u hu
    rw [moved, hu.size]
  have hselected := selected_paged_down hview hbrowsing (by omega) hnext rfl (by omega) hmoved i
  have hcursor : (t.paged .home .down i).cursorRow? = some (cell :: rest) := by
    rw [cursorRow?, hfrom.rows, hrows, hselected, ← hrow]
    congr 1
    omega
  rw [hkeys, handle_enter (by rw [done, hfrom.browsing]; rfl) hcursor]
  exact ⟨rfl, rfl⟩

/-- The keys that quit end the session without a result. -/
theorem handle_quit {k : Key} (hlive : s.done = false) (hk : k.action? = some .quit) :
    s.handle (.key k) = ({ s with selection := "", state := .cancelled }, .ok true) := by
  have hpress : s.press k = .ok { s with selection := "", state := .cancelled } := by
    unfold press
    rw [hk]
  rw [handle_key hlive hpress]
  rfl

/-- From every session that takes keys, after whatever events, the keys to a row confirm it, whatever new window
sizes come between them: each of the events is handled, and the result is the first cell of the row, shown or not.
And the keys that quit end the session without a result, also where there is no row. -/
theorem every_row_can_be_chosen {columns : List Column} {rows : List Row}
    {width height activeIndex : Int} {activeId : Option String}
    (h : start columns rows width height activeIndex activeId true = .ok s) (events : List Event)
    (hlive : (s.run events).done = false) :
    let t := s.run events
    (columns ≠ [] → ∀ i < rows.length, ∀ others : List Event, (∀ e ∈ others, e.IsProper) →
      others.filterMap Event.key? = t.keysTo i →
      (∀ before e after, others = before ++ e :: after →
        ((t.run before).handle e).2 = .ok ((t.run before).handle e).1.done) ∧
      (t.run others).state = .confirmed ∧
      ∃ rest, rows[i]? = some ((t.run others).selection :: rest)) ∧
    ∀ k ∈ [Key.char 'q', .controlC],
      t.handle (.key k) = ({ t with selection := "", state := .cancelled }, .ok true) := by
  intro t
  obtain ⟨hstart, hid⟩ := inView_start h
  have hview : t.InView := inView_run hstart events
  have hstate : t.state ≠ .resizing := (yields_run hid events).not_resizing
  have hrowsEq : t.rows = rows := rows_run h events
  refine ⟨fun hcolumns i hi others hproper hkeys => ⟨?_, ?_⟩, fun k hk => ?_⟩
  · rintro before e after rfl
    have hcolumnsEq : (t.run before).columns = columns := by
      obtain ⟨_, _, -, rfl⟩ := start_eq_ok h
      exact congrArg Content.columns ((run_content t before).trans (run_content _ events))
    exact handle_snd (hcolumnsEq ▸ hcolumns) (hproper e (by simp))
  · obtain ⟨row, hrow⟩ : ∃ row, rows[i]? = some row := ⟨_, List.getElem?_eq_getElem hi⟩
    have hfit : row.length = columns.length := by
      obtain ⟨hfit, -⟩ := start_eq_ok h
      exact hfit row (List.mem_of_getElem? hrow)
    cases row with
    | nil => exact absurd (List.length_eq_zero_iff.mp hfit.symm) hcolumns
    | cons cell rest =>
      obtain ⟨hconfirmed, hcell⟩ := run_keysTo hview hlive hstate (i := i) (hrowsEq ▸ hrow)
      -- the window sizes between the keys change neither the state nor what is yielded
      have hchoice := run_sameKeys (hkeys ▸ sameKeys_of_keys hproper)
        (fun e he => not_isPaging_of_mem_keysTo he) ⟨rfl, rfl, rfl, rfl, hview, hview⟩
      refine ⟨hchoice.state.trans hconfirmed, rest, ?_⟩
      rw [hchoice.selection, hcell, hrow]
  · have hquit : k.action? = some .quit := by
      revert k
      decide
    exact handle_quit hlive hquit

/-- A table that is out of focus is made too narrow for any column and then too low for more than one row; its
third row is confirmed all the same. -/
theorem every_row_can_be_chosen_unseen :
    ∃ s : Session,
      start [⟨"Id", 3, by decide⟩] [["a"], ["b"], ["c"]] 5 6 0 none true = .ok s ∧
      (s.run [.key .escape]).done = false ∧
      ((s.run [.key .escape]).run [.resize 2 0, .key .escape, .key .home, .key .down, .resize 1 3, .key .down,
        .resize 0 (-1), .key .enter]).state = .confirmed ∧
      ∃ rest, [["a"], ["b"], ["c"]][2]? = some
        (((s.run [.key .escape]).run [.resize 2 0, .key .escape, .key .home, .key .down, .resize 1 3, .key .down,
          .resize 0 (-1), .key .enter]).selection :: rest) := by
  have hstart : start [⟨"Id", 3, by decide⟩] [["a"], ["b"], ["c"]] 5 6 0 none true = .ok _ := rfl
  obtain ⟨hrows, -⟩ := every_row_can_be_chosen hstart [.key .escape] (by decide)
  have hchosen := hrows (by simp) 2 (by decide) [.resize 2 0, .key .escape, .key .home, .key .down, .resize 1 3,
    .key .down, .resize 0 (-1), .key .enter] (by simp [Event.IsProper]) (by decide)
  exact ⟨_, hstart, by decide, hchosen.2⟩

end Session

end WorkspaceDesk.Table
