/-!
# Literal values

The arguments of an action must be literal values: numbers, texts, the constants `True`, `False`,
`None` and `...`, and tuples, sets and dictionaries of such values. Of a value only what decides
about sums, members of sets and keys of dictionaries is kept.
-/

namespace WorkspaceDesk.Action

/-- A literal value, as far as it matters where the value stands. -/
inductive Literal where
  /-- A number without a sign. -/
  | number (imaginary : Bool)
  /-- A number behind a sign. -/
  | signed (imaginary : Bool)
  /-- Another value that may be a key or a member. -/
  | fixed
  /-- A value that may be neither, and what such values are called. -/
  | loose (kind : String)
deriving DecidableEq, Repr

/-- Why an expression has no literal value. -/
inductive Defect where
  /-- The expression is no literal. -/
  | notLiteral
  /-- A mapping is unpacked into a dictionary. -/
  | unpackedMapping
  /-- A key or member of a kind that can be neither. -/
  | unhashable (kind : String)
deriving DecidableEq, Repr

/-- The wording of a defect. -/
def Defect.message : Defect → String
  | .notLiteral => "malformed node or string on line 1"
  | .unpackedMapping => "malformed node or string: None"
  | .unhashable kind => "unhashable type: '" ++ kind ++ "'"

/-- What an expression means: a literal value, unless it has a defect. -/
abbrev Meaning := Except Defect Literal

namespace Literal

/-- A value that is to be a key or a member. -/
def asKey : Literal → Meaning
  | .loose kind => .error (.unhashable kind)
  | v => .ok v

/-- A tuple may be a key or a member if all its parts may. -/
def tuple (parts : List Literal) : Literal :=
  match parts.find? (fun v => v.asKey.toOption.isNone) with
  | some v => v
  | none => .fixed

end Literal

namespace Meaning

/-- A number behind a plus or minus. -/
def signed : Meaning → Meaning
  | .ok (.number imaginary) => .ok (.signed imaginary)
  | _ => .error .notLiteral

/-- The sum or difference of a real and an imaginary number is a number; no other sum is a literal.
-/
def sum : Meaning → Meaning → Meaning
  | .ok (.number false), .ok (.number true) | .ok (.signed false), .ok (.number true) => .ok .fixed
  | _, _ => .error .notLiteral

/-- A tuple of parts, which are evaluated in order. -/
def tuple (parts : List Meaning) : Meaning :=
  (parts.mapM id).map Literal.tuple

/-- A set of members, each of which is evaluated and taken in before the next. -/
def set (members : List Meaning) : Meaning :=
  (members.mapM fun m : Meaning => m.bind Literal.asKey).map fun _ => .loose "set"

/-- An entry of a dictionary: first the key is evaluated, then the value. -/
def entry (key value : Meaning) : Meaning :=
  key.bind fun k => value.bind fun _ => k.asKey

/-- A dictionary of entries in order. -/
def dictionary (entries : List Meaning) : Meaning :=
  (entries.mapM id).map fun _ => .loose "dict"

end Meaning

end WorkspaceDesk.Action
