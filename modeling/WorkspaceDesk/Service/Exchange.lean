import WorkspaceDesk.Json.Display
import WorkspaceDesk.Service.Authority
import WorkspaceDesk.Text.Blank
import WorkspaceDesk.Text.Utf8

/-!
# Requests and replies

A request is sent over a transport and answered by a body or by an error. The replies to come are given
beforehand, and each request that is sent is kept.
-/

namespace WorkspaceDesk.Service

open Text

/-- A request to the service. -/
structure Request where
  method : String
  url : String
  /-- Seconds to wait for the reply. -/
  timeout : Json.Value
  headers : List (String × String)

/-- Why a request is not answered. -/
inductive TransportError where
  /-- The service answers with an error status. -/
  | status (code : Int) (reason : String)
  /-- The service cannot be reached. -/
  | unreachable (reason : String)
  /-- The system refuses, by number and wording if it has them. -/
  | system (number : Option Int) (text : String)
  /-- The request cannot be sent. -/
  | invalid (reason : String)
deriving DecidableEq, Repr

/-- The wording of an error. -/
def TransportError.message : TransportError → String
  | .status code reason => "HTTP " ++ toString code ++ " " ++ reason
  | .unreachable reason => "<urlopen error " ++ reason ++ ">"
  | .system (some number) text => "[Errno " ++ toString number ++ "] " ++ text
  | .system none text => text
  | .invalid reason => reason

/-- The answer to a request. -/
inductive Reply where
  | body (bytes : Bytes)
  | error (e : TransportError)

/-- How requests are sent. -/
inductive Transport where
  /-- As they are. -/
  | direct
  /-- By a library that knows URLs and headers. -/
  | url
deriving DecidableEq, Repr

/-- Replies to come and requests sent. -/
structure Exchange where
  transport : Transport
  replies : List Reply
  sent : List Request

/-- A URL without blanks around it, angle brackets and the mark `URL:`. -/
def unwrapUrl (url : List Char) : List Char :=
  let url := trimBlank url
  let url :=
    if url.head? = some '<' ∧ url.getLast? = some '>' then trimBlank (url.drop 1).dropLast else url
  match "URL:".toList.isPrefixOf? url with
  | some rest => trimBlank rest
  | none => url

/-- The URL without the fragment, which follows the last number sign. -/
def withoutFragment (url : List Char) : List Char :=
  if url.contains '#' then ((url.reverse.dropWhile (· ≠ '#')).drop 1).reverse else url

/-- The URL begins with a scheme: characters other than slashes up to a colon. -/
def hasScheme (url : List Char) : Bool :=
  let (scheme, rest) := url.span fun c => c ≠ '/' ∧ c ≠ ':'
  !scheme.isEmpty && rest.head? = some ':'

/-- A header name with a capital at its head and small letters behind it. -/
def headerName (name : String) : String :=
  match name.toList with
  | [] => ""
  | c :: rest => String.ofList (c.toUpper :: rest.map Char.toLower)

/-- A URL as it is sent: unwrapped, with a scheme and a host that is not refused. -/
def sentUrl (url : List Char) : Except TransportError (List Char) :=
  let url := unwrapUrl url
  if hasScheme (withoutFragment url) then
    match checkAuthority url with
    | .ok () => .ok url
    | .error e => .error (.invalid e.message)
  else .error (.invalid ("unknown url type: " ++ quoted (String.ofList url)))

/-- The request as it is sent. -/
def Transport.prepare (t : Transport) (r : Request) : Except TransportError Request :=
  match t with
  | .direct => .ok r
  | .url =>
    (sentUrl r.url.toList).map fun url =>
      { r with
        url := String.ofList url
        headers := r.headers.map fun h => (headerName h.1, h.2) }

/-- Sends a request. Once the replies have run out, bodies are empty. -/
def Exchange.send (x : Exchange) (r : Request) : Exchange × Except TransportError Bytes :=
  match x.transport.prepare r with
  | .error e => (x, .error e)
  | .ok r =>
    -- a request is kept as it is sent, whatever the answer
    let sent := x.sent ++ [r]
    match x.replies with
    | [] => ({ x with sent }, .ok [])
    | .body bytes :: rest => ({ x with sent, replies := rest }, .ok bytes)
    | .error e :: rest => ({ x with sent, replies := rest }, .error e)

end WorkspaceDesk.Service
