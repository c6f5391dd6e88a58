import WorkspaceDesk.Table.Session

/-!
# Views

What a session shows: the visible columns and the rows in view, each with the emphasis it is drawn
with, or a notice when the window has no room for any column.
-/

namespace WorkspaceDesk.Table

/-- How a row stands out. -/
inductive Emphasis where
  | plain
  /-- The row under the cursor, while the table is being browsed. -/
  | focused
  /-- The row under the cursor otherwise. -/
  | unfocused
deriving DecidableEq, Repr

/-- What is shown of a table. -/
inductive View where
  /-- No column fits the window. -/
  | notice
  | grid (columns : List Column) (rows : List (Emphasis × Row))
deriving DecidableEq

namespace Session

/-- The emphasis of the row with an index. -/
def emphasis (s : Session) (index : Int) : Emphasis :=
  if s.selectable ∧ index = s.cursor.selected then
    if s.focused then .focused else .unfocused
  else .plain

/-- Rows with their emphasis, counted from an index on. -/
def emphasize (s : Session) : (index : Int) → List Row → List (Emphasis × Row)
  | _, [] => []
  | index, row :: rest => (s.emphasis index, row) :: s.emphasize (index + 1) rest

/-- What a session shows. -/
def view (s : Session) : View :=
  if s.visibleColumns.isEmpty then .notice
  else .grid s.visibleColumns (s.emphasize s.top s.window)

end Session

end WorkspaceDesk.Table
