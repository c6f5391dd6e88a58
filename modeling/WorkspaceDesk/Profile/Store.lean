import WorkspaceDesk.Disk.Basic
import WorkspaceDesk.Json.Reader
import WorkspaceDesk.Json.Writer
import WorkspaceDesk.Profile.Config
import WorkspaceDesk.Text.Line

/-!
# The configuration on disk

The configuration is a JSON file. It is saved by writing a temporary file beside it, which then takes
its place, so that the file is never seen half written; if a step fails, the temporary file is removed
and the old file is as it was.
-/

namespace WorkspaceDesk.Store

open Json Text

/-- The file in a configuration directory. -/
def configPath (dir : Path) : Path :=
  dir.child "config.json"

/-! ## Loading -/

/-- Why a configuration cannot be loaded. -/
inductive LoadError where
  | unreadable (path : Path) (e : DiskError)
  | notJson (path : Path) (e : Json.ReadError)
  | notObject (path : Path)
  | badProfile (path : Path) (e : FieldError)
  /-- The file is not UTF-8. -/
  | undecodable (f : Utf8.Fault)
  /-- A port is infinite. -/
  | infinitePort
  /-- The values are nested too deeply. -/
  | tooDeep (c : Json.Container)
  /-- The path holds a null character, so that it names nothing. -/
  | nullInPath
deriving DecidableEq, Repr

/-- The wording of an error. -/
def LoadError.message : LoadError → String
  | .unreadable path e => "cannot read " ++ path.text ++ ": " ++ e.message
  | .notJson path e => path.text ++ " is not valid JSON: " ++ e.message
  | .notObject path => path.text ++ " must contain a JSON object"
  | .badProfile path e => path.text ++ ": invalid profile: " ++ e.message
  | .undecodable f => f.message
  | .infinitePort => FieldError.infinite.message
  | .tooDeep c => (Json.Problem.tooDeep c).message
  | .nullInPath => DiskProblem.nullInPath.message

/-- The error is one that the program reports in a line of its own. -/
def LoadError.isReported : LoadError → Bool
  | .undecodable _ | .infinitePort | .tooDeep _ | .nullInPath => false
  | _ => true

/-- What a fault of a JSON text means for the configuration at a path. -/
def LoadError.ofRead (path : Path) (e : Json.ReadError) : LoadError :=
  match e.problem with
  | .tooDeep c => .tooDeep c
  | _ => .notJson path e

/-- The configuration in the bytes of a file. -/
def parse (room : Room) (path : Path) (contents : Bytes) : Except LoadError Config :=
  match Utf8.decode contents with
  | .error f => .error (.undecodable f)
  | .ok text =>
    match Json.read room (unifyLineEnds text) with
    | .error e => .error (.ofRead path e)
    | .ok (.obj fields) =>
      match Config.ofFields fields with
      | .ok c => .ok c
      | .error .infinite => .error .infinitePort
      | .error e => .error (.badProfile path e)
    | .ok _ => .error (.notObject path)

/-- Loads the configuration; without a file it is the initial one. -/
def load (room : Room) (d : Disk) (dir : Path) : Except LoadError Config :=
  match d.read (configPath dir) with
  | .ok contents => parse room (configPath dir) contents
  | .error e =>
    match e.problem with
    | .noEntry => .ok .initial
    | .nullInPath => .error .nullInPath
    | _ => .error (.unreadable (configPath dir) e)

/-! ## Saving -/

/-- Why a configuration is not saved. -/
inductive SaveError where
  | disk (e : DiskError)
  /-- A port has too many digits to be written. -/
  | tooLong
deriving DecidableEq, Repr

/-- The wording of an error. -/
def SaveError.message : SaveError → String
  | .disk e => e.message
  | .tooLong => Json.unwritableMessage

/-- The contents of the file of a configuration. -/
def contents (c : Config) : Bytes :=
  Utf8.encode (c.toJson.write ++ ['\n'])

/-- The steps of saving. -/
inductive SaveStep where
  | makeDirectory
  | makeTemporary
  /-- Writing the temporary file and closing it. -/
  | write
  | rename
deriving DecidableEq, Repr

/-- What the system does to a save besides what the disk refuses of itself. -/
structure Weather where
  /-- The error of a step that fails. -/
  fails : SaveStep → Option DiskError
  /-- The number of bytes written when writing fails. -/
  written : Nat

/-- Nothing fails. -/
def Weather.fair : Weather :=
  ⟨fun _ => none, 0⟩

/-- The temporary file beside the file, with a token that keeps it apart from others. -/
def temporaryPath (dir : Path) (token : String) : Path :=
  dir.normalized.child (".config." ++ token ++ ".tmp")

/-- Puts the temporary file in the place of the file. -/
def replaceFile (d : Disk) (temporary target : Path) : Except DiskError Disk :=
  match d.locate temporary, d.locate target with
  | .ok source, .ok place =>
    match d.node? source, d.node? place with
    | some node, some (.file _) | some node, none => .ok ((d.erase source).put place node)
    | _, some .directory =>
      .error { problem := .isDirectory, path := temporary.text, target := some target.text }
    | none, _ => .error { problem := .noEntry, path := temporary.text, target := some target.text }
  | .error problem, _ | _, .error problem =>
    .error { problem, path := temporary.text, target := some target.text }

/-- Removes the temporary file. -/
def removeTemporary (d : Disk) (temporary : Path) : Disk :=
  match d.locate temporary with
  | .ok place => d.erase place
  | .error _ => d

/-- Writes some bytes to the temporary file and puts it in the place of the file, in a directory that is
there. -/
def saveInto (d : Disk) (dir : Path) (token : String) (weather : Weather) (bytes : Bytes) :
    Disk × Except DiskError Unit :=
  let temporary := temporaryPath dir token
  match weather.fails .makeTemporary with
  | some e => (d, .error e)
  | none =>
    match d.write temporary [] with
    | .error e => (d, .error e)
    | .ok created =>
      -- a write that fails may have written some of the bytes
      let amount := if (weather.fails .write).isSome then weather.written else bytes.length
      match created.write temporary (bytes.take amount) with
      | .error e => (removeTemporary created temporary, .error e)
      | .ok filled =>
        match weather.fails .write, weather.fails .rename with
        | some e, _ | none, some e => (removeTemporary filled temporary, .error e)
        | none, none =>
          match replaceFile filled temporary (configPath dir) with
          | .error e => (removeTemporary filled temporary, .error e)
          | .ok saved => (saved, .ok ())

/-- Saves a configuration. Its text is made once the directory is there, before the temporary file. -/
def save (d : Disk) (dir : Path) (token : String) (weather : Weather) (c : Config) :
    Disk × Except SaveError Unit :=
  match weather.fails .makeDirectory with
  | some e => (d, .error (.disk e))
  | none =>
    match d.ensureDirectories dir dir.parts.length with
    | (d', .error e) => (d', .error (.disk e))
    | (d', .ok ()) =>
      if c.toJson.isWritable then
        let (d', result) := saveInto d' dir token weather (contents c)
        (d', result.mapError .disk)
      else (d', .error .tooLong)

end WorkspaceDesk.Store
