import WorkspaceDesk.Json.Display
import WorkspaceDesk.Text.Numeral

/-!
# Lenient fields

Fields of objects are read generously: a missing or empty field has a default, numbers may be given as
texts, and values of other kinds are shown as texts where a text is wanted.
-/

namespace WorkspaceDesk.Json

open Text Decimal

/-- Why a field cannot be read. -/
inductive FieldError where
  /-- The value has no items. -/
  | notIterable (kind : String)
  /-- The value has no fields. -/
  | noFields (kind : String)
  /-- The value is neither a number nor a text. -/
  | notNumeric (kind : String)
  | numeral (e : NumeralError)
  /-- Infinity is no whole number. -/
  | infinite
  /-- What is not a number is no whole number. -/
  | notANumber
deriving DecidableEq, Repr

/-- The wording of an error. -/
def FieldError.message : FieldError → String
  | .notIterable kind => "'" ++ kind ++ "' object is not iterable"
  | .noFields kind => "'" ++ kind ++ "' object has no attribute 'get'"
  | .notNumeric kind =>
    "int() argument must be a string, a bytes-like object or a real number, not '" ++ kind ++ "'"
  | .numeral e => e.message
  | .infinite => "cannot convert float infinity to integer"
  | .notANumber => "cannot convert float NaN to integer"

/-- The fields of an object. -/
def Value.fields : Value → Except FieldError Fields
  | .obj fields => .ok fields
  | v => .error (.noFields v.kindName)

/-- The value of a field, if it says something. -/
def Fields.truthy? (fields : Fields) (name : String) : Option Value :=
  (fields.get? name).filter Value.isTruthy

/-- The text of a field; empty if the field says nothing. -/
def Fields.text (fields : Fields) (name : String) : String :=
  ((fields.truthy? name).map Value.text).getD ""

/-- A field that is a string. -/
def Fields.string? (fields : Fields) (name : String) : Option String :=
  match fields.get? name with
  | some (.str s) => some s
  | _ => none

/-- A value as a whole number; fractions are cut off. -/
def Value.toInt : Value → Except FieldError Int
  | .int n => .ok n
  | .bool b => .ok (if b then 1 else 0)
  | .float (.finite negative m e) => .ok (signed negative (Binary64.wholePart m e))
  | .float (.infinite _) => .error .infinite
  | .float .nan => .error .notANumber
  | .str s => (parseInt s.toList).mapError .numeral
  | v => .error (.notNumeric v.kindName)

/-- A field as a whole number; zero if the field says nothing. -/
def Fields.int (fields : Fields) (name : String) : Except FieldError Int :=
  match fields.truthy? name with
  | some v => v.toInt
  | none => .ok 0

/-- What a value consists of: items, names of fields or characters. -/
def Value.parts : Value → Except FieldError (List Value)
  | .arr items => .ok items
  | .obj fields => .ok (fields.map fun f => .str f.1)
  | .str s => .ok (s.toList.map fun c => .str (String.ofList [c]))
  | v => .error (.notIterable v.kindName)

/-- The parts of a field; none if the field says nothing. -/
def Fields.parts (fields : Fields) (name : String) : Except FieldError (List Value) :=
  match fields.truthy? name with
  | some v => v.parts
  | none => .ok []

end WorkspaceDesk.Json
