import WorkspaceDesk.Proofs.Table.Cursor
import WorkspaceDesk.Proofs.Table.Start

/-!
# What an event does to a session

`Session.Pressed` lists what a key can do, case by case and with the reason for each; `pressed_of_press`
says that nothing else happens. What holds of sessions at all times is proved from these cases and from
`resize`, and carried along a run by `run_induction`.
-/

namespace WorkspaceDesk.Table

/-- The event is a key or a new window size. -/
def Event.IsProper : Event → Prop
  | .key _ | .resize _ _ => True
  | .foreign _ => False

/-- The action moves the cursor. -/
def Action.isMovement : Action → Bool
  | .quit | .toggleFocus | .confirm => false
  | _ => true

namespace Session

/-! ## Keys -/

/-- What a key can do to a session. -/
inductive Pressed (k : Key) (s : Session) : Session → Prop
  | quit (hk : k.action? = some .quit) :
    Pressed k s { s with selection := "", state := .cancelled }
  | toggle (hk : k.action? = some .toggleFocus) :
    Pressed k s { s with state := if s.state = .browsing then .unfocused else .browsing }
  | confirm (hk : k.action? = some .confirm) (cell : String) (rest : Row)
    (hrow : s.cursorRow? = some (cell :: rest)) :
    Pressed k s { s with selection := cell, state := .confirmed }
  /-- There is no row to confirm. -/
  | nothing (hk : k.action? = some .confirm) (hrow : s.cursorRow? = none) : Pressed k s s
  /-- The table is out of focus. -/
  | unheard (hstate : s.state = .unfocused) : Pressed k s s
  | move (action : Action) (hk : k.action? = some action) (hstate : s.state ≠ .unfocused) :
    Pressed k s { s with cursor := s.moved action }.follow
  /-- The key is bound to nothing. -/
  | unbound (hk : k.action? = none) (hstate : s.state ≠ .unfocused) : Pressed k s s.follow

/-- A key that can be handled does one of the things that keys can do. -/
theorem pressed_of_press {k : Key} {s t : Session} (h : s.press k = .ok t) : Pressed k s t := by
  -- the branches of `press`: the three keys that are heard out of focus, then all others
  rw [press] at h
  split at h
  · rename_i hk
    cases h
    exact .quit hk
  · rename_i hk
    cases h
    exact .toggle hk
  · rename_i hk
    rw [Session.confirm] at h
    split at h
    · rename_i hrow
      cases h
      exact .nothing hk hrow
    · cases h
    · rename_i cell rest hrow
      cases h
      exact .confirm hk cell rest hrow
  · rename_i action _ _ _ hk
    split at h
    · rename_i hstate
      cases h
      exact .unheard hstate
    · rename_i hstate
      cases h
      exact .move action hk hstate
  · rename_i hk
    split at h
    · rename_i hstate
      cases h
      exact .unheard hstate
    · rename_i hstate
      cases h
      exact .unbound hk hstate

/-! ## Events -/

/-- A session that is done heeds no event. -/
theorem handle_of_done {s : Session} (h : s.done = true) (e : Event) :
    s.handle e = (s, .ok true) := by
  simp only [handle, h, ↓reduceIte]

/-- A key that a live session can apply does what it does, and is told whether the session is done. -/
theorem handle_key {s t : Session} {k : Key} (hlive : s.done = false) (h : s.press k = .ok t) :
    s.handle (.key k) = (t, .ok t.done) := by
  simp only [handle, hlive, h, Bool.false_eq_true, ↓reduceIte]

/-- An event that can be handled tells whether the session is done. -/
theorem done_eq_of_handle {s t : Session} {e : Event} {b : Bool} (h : s.handle e = (t, .ok b)) :
    t.done = b := by
  simp only [handle] at h
  split at h
  · rename_i hdone
    cases h
    exact hdone
  · cases e with
    | resize =>
      cases h
      rfl
    | foreign => cases h
    | key k =>
      dsimp only at h
      split at h
      · cases h
        rfl
      · cases h

/-- What an event that is heeded leaves of the session: what the key makes of it, the new layout, or the
session as it was. -/
theorem handle_cases {s : Session} (hlive : s.done = false) (e : Event) {p : Session → Prop}
    (hresize : ∀ width height, e = .resize width height → p (s.resize width height))
    (hkey : ∀ k t, e = .key k → Pressed k s t → p t)
    (hself : (∀ width height, e ≠ .resize width height) → p s) : p (s.handle e).1 := by
  simp only [handle, hlive, Bool.false_eq_true, ↓reduceIte]
  cases e with
  | resize width height => exact hresize width height rfl
  | foreign shown => exact hself (by simp)
  | key k =>
    dsimp only
    split
    · rename_i t ht
      exact hkey k t rfl (pressed_of_press ht)
    · exact hself (by simp)

/-- The session after a movement: the cursor moves, and the view follows it. -/
def go (s : Session) (action : Action) : Session :=
  { s with cursor := s.moved action }.follow

@[simp]
theorem go_content (s : Session) (action : Action) : (s.go action).content = s.content := rfl

@[simp]
theorem go_state (s : Session) (action : Action) : (s.go action).state = s.state := rfl

@[simp]
theorem go_size (s : Session) (action : Action) : (s.go action).size = s.size := rfl

@[simp]
theorem go_viewHeight (s : Session) (action : Action) : (s.go action).viewHeight = s.viewHeight := rfl

@[simp]
theorem go_selected (s : Session) (action : Action) :
    (s.go action).cursor.selected = (s.moved action).selected :=
  Cursor.ensureVisible_selected _ _ _

/-- A table that is being browsed heeds every movement. -/
theorem handle_movement {s : Session} (hstate : s.state = .browsing) {k : Key} {action : Action}
    (hk : k.action? = some action) (hmovement : action.isMovement = true) :
    (s.handle (.key k)).1 = s.go action := by
  have hlive : s.done = false := by rw [done, hstate]; rfl
  have hfocus : s.state ≠ .unfocused := by simp [hstate]
  have hpress : s.press k = .ok (s.go action) := by
    unfold press
    rw [hk]
    cases action with
    | quit | toggleFocus | confirm => cases hmovement
    | lineUp | lineDown | pageUp | pageDown | halfPageUp | halfPageDown | top | bottom =>
      exact if_neg hfocus
  rw [handle_key hlive hpress]

/-- What every event preserves holds after every run. -/
theorem run_induction {p : Session → Prop} {s : Session} (hs : p s)
    (hstep : ∀ t e, t.done = false → p t → p (t.handle e).1) (events : List Event) :
    p (s.run events) := by
  induction events generalizing s with
  | nil => exact hs
  | cons e rest ih =>
    refine ih ?_
    cases hdone : s.done with
    | true => simpa only [handle_of_done hdone] using hs
    | false => exact hstep s e hdone hs

@[simp]
theorem run_nil (s : Session) : s.run [] = s := rfl

@[simp]
theorem run_cons (s : Session) (e : Event) (rest : List Event) :
    s.run (e :: rest) = (s.handle e).1.run rest := rfl

theorem run_append (s : Session) (first second : List Event) :
    s.run (first ++ second) = (s.run first).run second :=
  List.foldl_append

/-- Events after the end change nothing. -/
theorem run_of_done {s : Session} (h : s.done = true) (events : List Event) : s.run events = s := by
  induction events with
  | nil => rfl
  | cons e rest ih => rw [run_cons, handle_of_done h, ih]

/-- The events that a session heeds: those up to the first one that ends it. -/
def heeded (s : Session) : List Event → List Event
  | [] => []
  | e :: rest => if s.done then [] else e :: (s.handle e).1.heeded rest

theorem heeded_of_done {s : Session} (h : s.done = true) (events : List Event) :
    s.heeded events = [] := by
  cases events with
  | nil => rfl
  | cons e rest => rw [heeded, if_pos h]

theorem heeded_cons {s : Session} (h : s.done = false) (e : Event) (rest : List Event) :
    s.heeded (e :: rest) = e :: (s.handle e).1.heeded rest := by
  rw [heeded, if_neg (by simp [h])]

/-- Of the sessions that come one after the other, the `m`-th is the first that is done. -/
def EndsAt (after : Nat → Session) (m : Nat) : Prop :=
  (after m).done = true ∧ ∀ i < m, (after i).done = false

theorem EndsAt.succ {after : Nat → Session} {m : Nat} (hlive : (after 0).done = false)
    (h : EndsAt (fun i => after (i + 1)) m) : EndsAt after (m + 1) := by
  refine ⟨h.1, fun i hi => ?_⟩
  cases i with
  | zero => exact hlive
  | succ i => exact h.2 i (by omega)

/-- Where there are columns, every row has a cell. -/
theorem cursorRow?_ne_nil {s : Session} (h : s.columns ≠ []) : s.cursorRow? ≠ some [] := by
  intro hrow
  have hmem : ([] : Row) ∈ s.content.rows := List.mem_of_getElem? hrow
  have hlength := s.content.rows_fit [] hmem
  exact h (List.length_eq_zero_iff.mp hlength.symm)

/-- Where there are columns, every key can be handled. -/
theorem exists_press_eq_ok {s : Session} (h : s.columns ≠ []) (k : Key) :
    ∃ t, s.press k = .ok t := by
  rw [press]
  split
  · exact ⟨_, rfl⟩
  · exact ⟨_, rfl⟩
  · rw [Session.confirm]
    split
    · exact ⟨_, rfl⟩
    · rename_i hrow
      exact absurd hrow (cursorRow?_ne_nil h)
    · exact ⟨_, rfl⟩
  · split <;> exact ⟨_, rfl⟩
  · split <;> exact ⟨_, rfl⟩

/-- Where there are columns, every proper event can be handled, and tells whether the session is done. -/
theorem handle_snd {s : Session} (h : s.columns ≠ []) {e : Event} (he : e.IsProper) :
    (s.handle e).2 = .ok (s.handle e).1.done := by
  cases hdone : s.done with
  | true => rw [handle_of_done hdone, hdone]
  | false =>
    cases e with
    | resize => simp only [handle, hdone, Bool.false_eq_true, ↓reduceIte]
    | foreign => exact he.elim
    | key k =>
      obtain ⟨t, ht⟩ := exists_press_eq_ok h k
      rw [handle_key hdone ht]

end Session

end WorkspaceDesk.Table
