import WorkspaceDesk.Json.Reader
import WorkspaceDesk.Service.Exchange
import WorkspaceDesk.Service.Workspace
import WorkspaceDesk.Text.Percent

/-!
# The client of the workspace service

The service lists workspaces and deletes them.
-/

namespace WorkspaceDesk.Service

open Json Text

/-- Why a call of the service fails. -/
inductive ClientError where
  /-- The profile names no service. -/
  | noUrl
  | notAnswered (method url : String) (e : TransportError)
  /-- The reply is not UTF-8. -/
  | undecodable (f : Utf8.Fault)
  | notJson (e : Json.ReadError)
  /-- The values in the reply are nested too deeply. -/
  | tooDeep (c : Json.Container)
  | notAList
  /-- A workspace in the list cannot be read. -/
  | badWorkspace (e : FieldError)
deriving DecidableEq, Repr

/-- What a message about a list begins with. -/
def unexpectedList : String := "unexpected workspace list response: "

/-- The wording of an error. -/
def ClientError.message : ClientError → String
  | .noUrl => "no workspace service URL configured for this profile"
  | .notAnswered _ _ (.invalid reason) => reason
  | .notAnswered method url e => method ++ " " ++ url ++ " failed: " ++ e.message
  | .undecodable f => unexpectedList ++ f.message
  | .notJson e => unexpectedList ++ e.message
  | .tooDeep c => (Json.Problem.tooDeep c).message
  | .notAList => unexpectedList ++ "not a list"
  | .badWorkspace e => e.message

/-- The error is one that the program reports in a line of its own. -/
def ClientError.isReported : ClientError → Bool
  | .notAnswered _ _ (.invalid _) | .badWorkspace _ | .tooDeep _ => false
  | _ => true

/-- A client of the service at an address. -/
structure Client where
  /-- The address, without slashes at its end. -/
  base : String
  timeout : Value

/-- The text without slashes at its end. -/
def trimSlashes (s : List Char) : List Char :=
  (s.reverse.dropWhile (· = '/')).reverse

/-- A client, unless the address is empty. -/
def Client.ofUrl (url : String) (timeout : Value) : Except ClientError Client :=
  if url = "" then .error .noUrl else .ok ⟨String.ofList (trimSlashes url.toList), timeout⟩

/-- How long a reply is waited for unless something else is said: ten seconds. -/
def defaultTimeout : Value :=
  .float (.ofDecimal false 10 0)

/-- The headers of every request, in the order of their names. -/
def headers : List (String × String) :=
  [("Accept", "application/json"), ("User-Agent", "workspace-cli-manager/0.3.1")]

namespace Client

/-- A request for a path. -/
def request (c : Client) (method path : String) : Request :=
  ⟨method, c.base ++ path, c.timeout, headers⟩

/-- Sends a request. -/
def call (c : Client) (x : Exchange) (method path : String) :
    Exchange × Except ClientError Bytes :=
  let r := c.request method path
  match x.send r with
  | (x, .ok bytes) => (x, .ok bytes)
  | (x, .error e) => (x, .error (.notAnswered method r.url e))

/-- The workspaces among values: those that are objects. -/
def workspacesOf : List Value → Except ClientError (List Workspace)
  | [] => .ok []
  | .obj fields :: rest =>
    match Workspace.ofFields fields with
    | .error e => .error (.badWorkspace e)
    | .ok w => (workspacesOf rest).map (w :: ·)
  | _ :: rest => workspacesOf rest

/-- The list in a reply: the value itself, or a field of it. -/
def listOf : Value → Except ClientError (List Value)
  | .arr items => .ok items
  | .obj fields =>
    match Fields.truthy? fields "workspaces" with
    | none => .ok []
    | some (.arr items) => .ok items
    | some _ => .error .notAList
  | _ => .error .notAList

/-- What a fault of the JSON text in a reply means. -/
def faultOf (e : Json.ReadError) : ClientError :=
  match e.problem with
  | .tooDeep c => .tooDeep c
  | _ => .notJson e

/-- The workspaces in the body of a reply; none if it is empty. -/
def parseList (room : Room) (body : Bytes) : Except ClientError (List Workspace) :=
  match Utf8.decode body with
  | .error f => .error (.undecodable f)
  | .ok text =>
    match Json.read room (if text.isEmpty then ['[', ']'] else text) with
    | .error e => .error (faultOf e)
    | .ok v =>
      match listOf v with
      | .error e => .error e
      | .ok values => workspacesOf values

/-- The path of the request that lists the workspaces. -/
def listPath : String := "/workspace"

/-- Lists the workspaces. -/
def list (c : Client) (room : Room) (x : Exchange) : Exchange × Except ClientError (List Workspace) :=
  match c.call x "GET" listPath with
  | (x, .error e) => (x, .error e)
  | (x, .ok body) => (x, parseList room body)

/-- The path of the request that deletes a workspace. -/
def removalPath (name : String) (force : Bool) : String :=
  listPath ++ "/" ++ String.ofList (Percent.encode name.toList) ++ "?force="
    ++ (if force then "true" else "false")

/-- Deletes a workspace. -/
def remove (c : Client) (x : Exchange) (name : String) (force : Bool) :
    Exchange × Except ClientError Unit :=
  match c.call x "DELETE" (removalPath name force) with
  | (x, .error e) => (x, .error e)
  | (x, .ok _) => (x, .ok ())

end Client

end WorkspaceDesk.Service
