import WorkspaceDesk.Service.Address
import WorkspaceDesk.Text.Blank
import WorkspaceDesk.Text.Quoted

/-!
# The authority of a URL

The part of a URL between two slashes and the next slash, question mark or number sign names the host.
Brackets in it come in pairs and hold an internet address. Characters that other programs take for
separators are refused.
-/

namespace WorkspaceDesk.Service

open Text

/-- Why an authority is refused. -/
inductive AuthorityError where
  /-- A bracket without its partner. -/
  | loneBracket
  /-- The text between brackets is no address. -/
  | noAddress (text : String)
  /-- Between brackets stands an address of four numbers. -/
  | addressOfFour
  /-- Between brackets stands no address of a version to come, though it begins like one. -/
  | badVersion
  /-- A character stands for a separator. -/
  | hiddenSeparator (authority : String)
deriving DecidableEq, Repr

/-- The wording of an error. -/
def AuthorityError.message : AuthorityError → String
  | .loneBracket => "Invalid IPv6 URL"
  | .noAddress text => quoted text ++ " does not appear to be an IPv4 or IPv6 address"
  | .addressOfFour => "An IPv4 address cannot be in brackets"
  | .badVersion => "IPvFuture address is invalid"
  | .hiddenSeparator authority =>
    "netloc '" ++ authority ++ "' contains invalid characters under NFKC normalization"

/-- The characters whose compatible form holds a slash, question mark, number sign, at sign or colon. -/
def hiddenSeparators : List Char :=
  ['\u2047', '\u2048', '\u2049', '\u2100', '\u2101', '\u2105', '\u2106', '\u2a74', '\ufe13', '\ufe16',
    '\ufe55', '\ufe56', '\ufe5f', '\ufe6b', '\uff03', '\uff0f', '\uff1a', '\uff1f', '\uff20']

/-- The characters that are left out of URLs. -/
def isLeftOut (c : Char) : Bool :=
  c = '\t' || c = '\n' || c = '\r'

/-- The URL without control characters and spaces at its head and line breaks and tabs anywhere. -/
def cleaned (url : List Char) : List Char :=
  (url.dropWhile (· ≤ ' ')).filter fun c => !isLeftOut c

/-- The characters of a scheme behind its first one, which is a letter. -/
def isSchemeChar (c : Char) : Bool :=
  c.isAlphanum || c = '+' || c = '-' || c = '.'

/-- The URL without its scheme, if it has one. -/
def withoutScheme (url : List Char) : List Char :=
  match url.span (· ≠ ':') with
  | (c :: scheme, _ :: rest) => if c.isAlpha && scheme.all isSchemeChar then rest else url
  | _ => url

/-- The authority of a URL; empty if it has none. -/
def authorityOf (url : List Char) : List Char :=
  match withoutScheme (cleaned url) with
  | '/' :: '/' :: rest => rest.takeWhile fun c => c ≠ '/' ∧ c ≠ '?' ∧ c ≠ '#'
  | _ => []

/-- What stands between the first opening bracket and the next closing one. -/
def bracketed (authority : List Char) : List Char :=
  ((authority.dropWhile (· ≠ '[')).drop 1).takeWhile (· ≠ ']')

/-- Checks the text between brackets. -/
def checkBracketed (text : List Char) : Except AuthorityError Unit :=
  if text.head? = some 'v' then
    if Address.isOfVersion text then .ok () else .error .badVersion
  else if Address.isFour text then .error .addressOfFour
  else if Address.isEight text then .ok ()
  else .error (.noAddress (String.ofList text))

/-- Checks the brackets of an authority. -/
def checkBrackets (authority : List Char) : Except AuthorityError Unit :=
  match authority.contains '[', authority.contains ']' with
  | false, false => .ok ()
  | true, true => checkBracketed (bracketed authority)
  | _, _ => .error .loneBracket

/-- Checks the authority of a URL. -/
def checkAuthority (url : List Char) : Except AuthorityError Unit :=
  let authority := authorityOf url
  match checkBrackets authority with
  | .error e => .error e
  | .ok () =>
    if authority.any hiddenSeparators.contains then
      .error (.hiddenSeparator (String.ofList authority))
    else .ok ()

end WorkspaceDesk.Service
