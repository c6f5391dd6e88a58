import WorkspaceDesk.Decimal.Binary64

/-!
# JSON values

Whole numbers and binary numbers are told apart, as the notation of a number tells them apart. The
fields of an object keep their order; a name occurs once, at the place of its first occurrence and
with its last value.
-/

namespace WorkspaceDesk.Json

open Decimal

/-- A JSON value. -/
inductive Value where
  | null
  | bool (b : Bool)
  | int (n : Int)
  | float (x : Binary64)
  | str (s : String)
  | arr (items : List Value)
  | obj (fields : List (String × Value))
deriving Inhabited, Repr

/-- The fields of an object, in order. -/
abbrev Fields := List (String × Value)

/-- The value of a field. -/
def Fields.get? (fields : Fields) (name : String) : Option Value :=
  List.lookup name fields

/-- Sets a field: at its place when there is one of this name, else at the end. -/
def Fields.set (fields : Fields) (name : String) (value : Value) : Fields :=
  match fields with
  | [] => [(name, value)]
  | (n, v) :: rest => if n = name then (n, value) :: rest else (n, v) :: Fields.set rest name value

/-- The fields that remain of pairs in the order of writing. -/
def Fields.ofPairs (pairs : List (String × Value)) : Fields :=
  pairs.foldl (fun fields p => Fields.set fields p.1 p.2) []

/-- The value says something: it is not null, false, a zero or empty. -/
def Value.isTruthy : Value → Bool
  | .null => false
  | .bool b => b
  | .int n => n ≠ 0
  | .float x => !x.isZero
  | .str s => s ≠ ""
  | .arr items => !items.isEmpty
  | .obj fields => !fields.isEmpty

/-- The name of the kind of a value in messages. -/
def Value.kindName : Value → String
  | .null => "NoneType"
  | .bool _ => "bool"
  | .int _ => "int"
  | .float _ => "float"
  | .str _ => "str"
  | .arr _ => "list"
  | .obj _ => "dict"

end WorkspaceDesk.Json
