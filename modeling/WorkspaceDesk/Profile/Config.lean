import WorkspaceDesk.Profile.Basic
import WorkspaceDesk.Text.Quoted

/-!
# The configuration

The profiles in order, and the id of the active one.
-/

namespace WorkspaceDesk

open Json Text

/-- Profiles and the active one. -/
structure Config where
  activeId : String
  profiles : List Profile
deriving DecidableEq, Repr, Inhabited

/-- Why a change of the configuration is refused. -/
inductive ConfigError where
  /-- The active id belongs to no profile. -/
  | activeMissing (id : String)
  | profileMissing (id : String)
  /-- The id is empty or kept for something else. -/
  | invalidId (id : String)
  | alreadyExists (id : String)
  /-- The profile has both a password and a key. -/
  | twoSecrets
  /-- The built-in profile stays. -/
  | builtInStays
deriving DecidableEq, Repr

/-- The wording of an error. -/
def ConfigError.message : ConfigError → String
  | .activeMissing id => "active profile " ++ quoted id ++ " does not exist"
  | .profileMissing id => "profile " ++ quoted id ++ " does not exist"
  | .invalidId id => "invalid profile id: " ++ quoted id
  | .alreadyExists id => "profile " ++ quoted id ++ " already exists"
  | .twoSecrets => "a profile uses either a password or a private key, not both"
  | .builtInStays => "the default profile cannot be removed"

namespace Config

/-- The configuration before anything has been changed. -/
def initial : Config :=
  ⟨Profile.defaultId, [Profile.builtIn]⟩

/-- The first profile of an id. -/
def get? (c : Config) (id : String) : Option Profile :=
  c.profiles.find? (·.id = id)

/-- The active profile. -/
def active (c : Config) : Except ConfigError Profile :=
  match c.get? c.activeId with
  | some p => .ok p
  | none => .error (.activeMissing c.activeId)

/-- Makes a profile the active one. -/
def use (c : Config) (id : String) : Except ConfigError Config :=
  if (c.get? id).isSome then .ok { c with activeId := id } else .error (.profileMissing id)

/-- Adds a profile at the end. -/
def add (c : Config) (p : Profile) : Except ConfigError Config :=
  if p.id = "" ∨ p.id = Profile.defaultId ∨ p.id = Profile.newId then .error (.invalidId p.id)
  else if (c.get? p.id).isSome then .error (.alreadyExists p.id)
  else if p.auth.password.isSome ∧ p.auth.privateKeyPath.isSome then .error .twoSecrets
  else .ok { c with profiles := c.profiles ++ [p] }

/-- Removes all profiles of an id; if it was the active one, the built-in profile becomes active. -/
def remove (c : Config) (id : String) : Except ConfigError Config :=
  if id = Profile.defaultId then .error .builtInStays
  else if (c.get? id).isNone then .error (.profileMissing id)
  else
    .ok
      { activeId := if c.activeId = id then Profile.defaultId else c.activeId
        profiles := c.profiles.filter (·.id ≠ id) }

/-- The configuration as JSON. -/
def toJson (c : Config) : Value :=
  .obj [("activeProfile", .str c.activeId), ("profiles", .arr (c.profiles.map Profile.toJson))]

/-- The profiles among values: those that are objects. -/
def profilesOf : List Value → Except FieldError (List Profile)
  | [] => .ok []
  | .obj fields :: rest =>
    match Profile.ofFields fields with
    | .error e => .error e
    | .ok p => (profilesOf rest).map (p :: ·)
  | _ :: rest => profilesOf rest

/-- The profiles with the built-in one at the head, unless they hold one of its id. -/
def withBuiltIn (profiles : List Profile) : List Profile :=
  if profiles.any (·.id = Profile.defaultId) then profiles else Profile.builtIn :: profiles

/-- The active id that fields name; the built-in one if they name none. -/
def activeIdOf (fields : Fields) : String :=
  match fields.string? "activeProfile" with
  | some id => if id = "" then Profile.defaultId else id
  | none => Profile.defaultId

/-- The configuration that fields describe. -/
def ofFields (fields : Fields) : Except FieldError Config :=
  match fields.parts "profiles" with
  | .error e => .error e
  | .ok values => (profilesOf values).map fun profiles => ⟨activeIdOf fields, withBuiltIn profiles⟩

end Config

end WorkspaceDesk
