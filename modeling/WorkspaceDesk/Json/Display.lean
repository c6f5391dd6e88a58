import WorkspaceDesk.Decimal.Notation
import WorkspaceDesk.Json.Value
import WorkspaceDesk.Text.Quoted

/-!
# Values as texts

Where a text is expected and another value stands, the value is shown: `True`, `None`, numbers by
their shortest form, lists and objects with their strings between quotes. The values have been read, so no
number has too many digits to be shown.
-/

namespace WorkspaceDesk.Json

open Text

mutual

/-- A value within another one, or in a message: strings stand between quotes. -/
def Value.inspect : Value → String
  | .null => "None"
  | .bool b => if b then "True" else "False"
  | .int n => toString n
  | .float x => x.text
  | .str s => quoted s
  | .arr items => "[" ++ String.intercalate ", " (inspectItems items) ++ "]"
  | .obj fields => "\x7b" ++ String.intercalate ", " (inspectFields fields) ++ "\x7d"

/-- The items of a list, shown one by one. -/
def inspectItems : List Value → List String
  | [] => []
  | v :: rest => v.inspect :: inspectItems rest

/-- The fields of an object, shown one by one. -/
def inspectFields : List (String × Value) → List String
  | [] => []
  | (name, v) :: rest => (quoted name ++ ": " ++ v.inspect) :: inspectFields rest

end

/-- The text of a value: a string is its own text. -/
def Value.text : Value → String
  | .str s => s
  | v => v.inspect

end WorkspaceDesk.Json
