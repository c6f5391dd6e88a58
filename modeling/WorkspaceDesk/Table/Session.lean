import WorkspaceDesk.Table.Column
import WorkspaceDesk.Table.Cursor
import WorkspaceDesk.Table.Key

/-!
# Sessions

A session is a table that the user browses. It takes keys and new window sizes until a row is
confirmed or the user quits; a table that is not selectable is done from the start. The rows stay
whole through all changes of the window, so a wider window shows again what a narrow one hid.
-/

namespace WorkspaceDesk.Table

/-- Columns and rows that fit them. -/
structure Content where
  columns : List Column
  rows : List Row
  rows_fit : ∀ row ∈ rows, row.length = columns.length

/-- Where a session stands. -/
inductive State where
  /-- Not selectable. -/
  | idle
  | browsing
  | unfocused
  /-- A new window size is being laid out. -/
  | resizing
  | confirmed
  | cancelled
deriving DecidableEq, Repr

/-- The name of a state. -/
def State.name : State → String
  | .idle => "idle"
  | .browsing => "browsing"
  | .unfocused => "unfocused"
  | .resizing => "resizing"
  | .confirmed => "confirmed"
  | .cancelled => "cancelled"

/-- The states that end a session. -/
def State.isFinal : State → Bool
  | .idle | .confirmed | .cancelled => true
  | _ => false

/-- What a session is told. -/
inductive Event where
  | key (k : Key)
  /-- A new window size; a height that is not positive leaves the height as it is. -/
  | resize (width height : Int)
  /-- A value that is no event, by the form in which it shows itself. -/
  | foreign (shown : String)

/-- Why an event cannot be handled. -/
inductive EventError where
  /-- The value is no event; it shows itself in this form. -/
  | unsupported (shown : String)
  /-- The selected row has no cell. -/
  | noCell

/-- The wording for a row without a cell. -/
def noCellMessage : String := "tuple index out of range"

/-- The wording of an error. -/
def EventError.message : EventError → String
  | .unsupported shown => "unsupported table event: " ++ shown
  | .noCell => noCellMessage

/-- Why a session cannot start. -/
inductive StartError where
  /-- The active row has no cell that could name it. -/
  | noCell
  | schema (e : SchemaError)
deriving DecidableEq, Repr

/-- The wording of an error. -/
def StartError.message : StartError → String
  | .noCell => noCellMessage
  | .schema e => e.message

/-- A table that is being browsed. -/
structure Session where
  content : Content
  selectable : Bool
  cursor : Cursor
  /-- The id that the session yields. -/
  selection : String
  /-- Columns of the window. -/
  width : Int
  /-- Lines of the window; without bound when not positive. -/
  height : Int
  state : State

namespace Session

/-- The columns of the table. -/
def columns (s : Session) : List Column := s.content.columns

/-- The rows of the table, whole. -/
def rows (s : Session) : List Row := s.content.rows

/-- The number of rows. -/
def size (s : Session) : Int := s.rows.length

/-- The columns that the window has room for. -/
def visibleColumns (s : Session) : List Column := fit s.columns s.width

/-- All rows, cut down to the visible columns. -/
def visibleRows (s : Session) : List Row := s.rows.map (project s.visibleColumns.length)

/-- The session takes no more events. -/
def done (s : Session) : Bool := s.state.isFinal

/-- The cursor moves and its row stands out. -/
def focused (s : Session) : Bool := s.state = .browsing

/-- The number of rows in view: all of them unless the window is lower. -/
def viewHeight (s : Session) : Int :=
  if s.height ≤ 0 then s.size else min s.size (max 1 (s.height - frameOverhead))

/-- The index of the first row in view. -/
def top (s : Session) : Int := s.cursor.scroll

/-- The rows in view, cut down to the visible columns. -/
def window (s : Session) : List Row :=
  (s.visibleRows.drop s.top.toNat).take s.viewHeight.toNat

/-- The lines that the table takes on the screen. -/
def frameHeight (s : Session) : Int := Table.frameHeight s.viewHeight s.visibleColumns.length

/-- The row under the cursor, whole. -/
def cursorRow? (s : Session) : Option Row := s.rows[s.cursor.selected.toNat]?

/-- Moves the view so that it shows the cursor. -/
def follow (s : Session) : Session :=
  { s with cursor := s.cursor.ensureVisible s.viewHeight s.size }

/-- The first cell of the active row names what the session yields unless an id is given. -/
def activeName (rows : List Row) (cursor : Cursor) : Except StartError String :=
  match rows[cursor.selected.toNat]? with
  | none => .ok ""
  | some [] => .error .noCell
  | some (cell :: _) => .ok cell

/-- A new session, with the cursor on the active row. -/
def start (columns : List Column) (rows : List Row) (width height activeIndex : Int)
    (activeId : Option String) (selectable : Bool) : Except StartError Session :=
  let cursor := (Cursor.onItem activeIndex).clampTo rows.length
  -- the active row is looked at before the rows are compared with the columns
  match activeId.elim (activeName rows cursor) .ok with
  | .error e => .error e
  | .ok selection =>
    match h : misfit? columns.length 0 rows with
    | some e => .error (.schema e)
    | none =>
      .ok <| follow
        { content := ⟨columns, rows, (misfit?_eq_none_iff _ _ _).1 h⟩
          selectable, cursor, selection, width, height
          state := if selectable then .browsing else .idle }

/-- Lays the table out for a new window size. -/
def resize (s : Session) (width height : Int) : Session :=
  -- while it is laid out the session is in a state of its own, and afterwards in the one it was in
  let laying := { s with
    state := .resizing
    width
    height := if 0 < height then height else s.height
    cursor := s.cursor.clampTo s.size }
  { laying.follow with state := s.state }

/-- The cursor after a movement; the actions that are no movement leave it where it is. -/
def moved (s : Session) : Action → Cursor
  | .lineUp => s.cursor.move (-1) s.size
  | .lineDown => s.cursor.move 1 s.size
  | .pageUp => s.cursor.page (-1) s.viewHeight s.size
  | .pageDown => s.cursor.page 1 s.viewHeight s.size
  | .halfPageUp => s.cursor.move (-max 1 (s.viewHeight / 2)) s.size
  | .halfPageDown => s.cursor.move (max 1 (s.viewHeight / 2)) s.size
  | .top => { s.cursor with selected := 0 }
  | .bottom => { s.cursor with selected := max 0 (s.size - 1) }
  | .quit | .toggleFocus | .confirm => s.cursor

/-- Chooses the row under the cursor; there is nothing to choose in an empty table. -/
def confirm (s : Session) : Except EventError Session :=
  match s.cursorRow? with
  | none => .ok s
  | some [] => .error .noCell
  | some (cell :: _) => .ok { s with selection := cell, state := .confirmed }

/-- Applies a key. A table out of focus heeds only the keys that quit, confirm or give focus. -/
def press (s : Session) (k : Key) : Except EventError Session :=
  match k.action? with
  | some .quit => .ok { s with selection := "", state := .cancelled }
  | some .toggleFocus =>
    .ok { s with state := if s.state = .browsing then .unfocused else .browsing }
  | some .confirm => s.confirm
  | some action =>
    if s.state = .unfocused then .ok s else .ok { s with cursor := s.moved action }.follow
  | none => if s.state = .unfocused then .ok s else .ok s.follow

/-- Applies an event: the session afterwards, and whether it is done or why the event could not be
handled. A session that is done stays as it is. -/
def handle (s : Session) (e : Event) : Session × Except EventError Bool :=
  if s.done then (s, .ok true)
  else
    match e with
    | .resize width height =>
      let t := s.resize width height
      (t, .ok t.done)
    | .key k =>
      match s.press k with
      | .ok t => (t, .ok t.done)
      | .error e => (s, .error e)
    | .foreign shown => (s, .error (.unsupported shown))

/-- The session after events in a row; one that cannot be handled changes nothing. -/
def run (s : Session) (events : List Event) : Session :=
  events.foldl (fun s e => (s.handle e).1) s

end Session

end WorkspaceDesk.Table
