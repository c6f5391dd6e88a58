import WorkspaceDesk.Json.Field

/-!
# Profiles

A profile tells how to reach a host and the workspace service on it. One profile is built in; one id is
kept for the row that offers to create a profile.
-/

namespace WorkspaceDesk

open Json

/-- How a user is recognised by the host. -/
structure Auth where
  user : String
  password : Option String
  privateKeyPath : Option String
deriving DecidableEq, Repr, Inhabited

/-- A connection profile. -/
structure Profile where
  id : String
  name : String
  hostname : String
  port : Int
  auth : Auth
  /-- Address of the workspace service. -/
  apiUrl : String
deriving DecidableEq, Repr, Inhabited

namespace Profile

/-- The id of the built-in profile. -/
def defaultId : String := "default"

/-- The id of the row that offers to create a profile. -/
def newId : String := "+"

/-- The built-in profile. -/
def builtIn : Profile :=
  ⟨defaultId, "Default", "localhost", 2222, ⟨"", none, none⟩, "http://localhost:3000"⟩

/-- The row that offers to create a profile. -/
def offer : Profile :=
  ⟨newId, "Add new profile", "", 0, ⟨"", none, none⟩, ""⟩

/-- A text or null. -/
def optionalText : Option String → Value
  | some s => .str s
  | none => .null

/-- A profile as JSON. -/
def toJson (p : Profile) : Value :=
  .obj [("id", .str p.id), ("name", .str p.name), ("hostname", .str p.hostname), ("port", .int p.port),
    ("auth", .obj [("user", .str p.auth.user), ("password", optionalText p.auth.password),
      ("privateKeyPath", optionalText p.auth.privateKeyPath)]),
    ("apiUrl", .str p.apiUrl)]

/-- The fields of the part about recognition; none if it is no object. -/
def authFields (fields : Fields) : Fields :=
  match fields.get? "auth" with
  | some (.obj auth) => auth
  | _ => []

/-- The profile that fields describe. -/
def ofFields (fields : Fields) : Except FieldError Profile :=
  let auth := authFields fields
  (fields.int "port").map fun port =>
    { id := fields.text "id"
      name := fields.text "name"
      hostname := fields.text "hostname"
      port
      auth := ⟨auth.text "user", auth.string? "password", auth.string? "privateKeyPath"⟩
      apiUrl := fields.text "apiUrl" }

/-- The profile that a JSON value describes. -/
def ofJson (v : Value) : Except FieldError Profile :=
  match v.fields with
  | .error e => .error e
  | .ok fields => ofFields fields

end Profile

end WorkspaceDesk
