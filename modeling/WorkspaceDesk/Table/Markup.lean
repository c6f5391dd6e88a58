import WorkspaceDesk.Action.Parameters
import WorkspaceDesk.Table.Reader
import WorkspaceDesk.Text.Blank
import WorkspaceDesk.Text.LowerCase

/-!
# Tags

How a reader tells tags from text and matches them, whatever the styles may be. A tag opens a style, or
closes the last open one or the last open one of a name; tags take no room. A tag whose name begins with
an at sign is an action; its parameters are read when it is closed. A bracket that begins no tag is text,
and so is one behind an odd number of backslashes. Names of styles are compared as they are written, but
for blanks around them and for the case of letters.
-/

namespace WorkspaceDesk.Table.Markup

open Text

/-- A tag: its name and what follows an equals sign. -/
structure Tag where
  name : List Char
  parameters : Option (List Char)
deriving DecidableEq, Repr

/-- Why a text cannot be shown. -/
inductive Error where
  /-- A closing tag whose name is not open. -/
  | unmatched (tag : Tag) (position : Nat)
  /-- A closing tag without a name where nothing is open. -/
  | nothingToClose (position : Nat)
  /-- An action whose parameters cannot be read. -/
  | badAction (parameters : List Char) (problem : Action.Problem)
deriving DecidableEq, Repr

/-- The written form of a tag. -/
def Tag.source (t : Tag) : String :=
  match t.parameters with
  | none => "[" ++ String.ofList t.name ++ "]"
  | some p => "[" ++ String.ofList t.name ++ "=" ++ String.ofList p ++ "]"

/-- The wording of an error. -/
def Error.message : Error → String
  | .unmatched tag position =>
    "closing tag '" ++ tag.source ++ "' at position " ++ toString position
      ++ " doesn't match any open tag"
  | .nothingToClose position =>
    "closing tag '[/]' at position " ++ toString position ++ " has nothing to close"
  | .badAction parameters problem => problem.message parameters

/-- A part of a text: plain text, or a tag and its position. -/
inductive Piece where
  | plain (text : List Char)
  | tag (t : Tag) (position : Nat)
deriving DecidableEq, Repr

/-- What stands before the first closing bracket, if no opening bracket comes earlier. -/
def untilBracket? : List Char → Option (List Char)
  | [] => none
  | c :: rest =>
    if c = ']' then some []
    else if c = '[' then none
    else (untilBracket? rest).map (c :: ·)

/-- The inside of a tag at the head of a text. -/
def tagInside? : List Char → Option (List Char)
  | '[' :: c :: rest => if beginsTag c then (untilBracket? rest).map (c :: ·) else none
  | _ => none

/-- Splits the inside of a tag at its first equals sign. -/
def Tag.ofInside (inside : List Char) : Tag :=
  let (name, rest) := inside.span (· ≠ '=')
  match rest with
  | [] => ⟨name, none⟩
  | _ :: parameters => ⟨name, some parameters⟩

/-- The backslashes at the head of a text and the tag behind them: their number and its inside. -/
def tagAhead? (s : List Char) : Option (Nat × List Char) :=
  let slashes := (s.takeWhile (· = '\\')).length
  (tagInside? (s.drop slashes)).map (slashes, ·)

/-- Plain text, unless it is empty. -/
def plainPiece (text : List Char) : List Piece :=
  if text.isEmpty then [] else [.plain text]

/-- The pieces of a text from a position on. Characters that belong to a tag are skipped; `plain`
holds the plain text since the last tag, the last character first. -/
def piecesFrom (position : Nat) : (skip : Nat) → (plain : List Char) → List Char → List Piece
  | _, plain, [] => plainPiece plain.reverse
  | skip + 1, plain, _ :: rest => piecesFrom (position + 1) skip plain rest
  | 0, plain, c :: rest =>
    match tagAhead? (c :: rest) with
    | none => piecesFrom (position + 1) 0 (c :: plain) rest
    | some (slashes, inside) =>
      -- two backslashes stand for one, and one that is left over makes the tag plain text
      let kept := plainPiece (List.replicate (slashes / 2) '\\')
      let piece :=
        if slashes % 2 = 1 then Piece.plain ('[' :: inside ++ [']'])
        else .tag (Tag.ofInside inside) (position + slashes)
      plainPiece plain.reverse ++ kept ++
        piece :: piecesFrom (position + 1) (slashes + inside.length + 1) [] rest

/-- The pieces of a text. -/
def pieces (s : List Char) : List Piece :=
  piecesFrom 0 0 [] s

/-- Plain text without the backslashes that stand before opening brackets. -/
def unescape : List Char → List Char
  | [] => []
  | '\\' :: '[' :: rest => '[' :: unescape rest
  | c :: rest => c :: unescape rest

/-- The name under which a style is opened and closed. -/
def styleName (name : List Char) : List Char :=
  lowerCase (trimBlank name)

/-- An open tag under the name by which it is closed. -/
def Tag.opened (t : Tag) : Tag :=
  { t with name := styleName t.name }

/-- Closes an open tag: an action with parameters must be readable. -/
def Tag.close (t : Tag) : Except Error Unit :=
  match t.name, t.parameters with
  | '@' :: _, some (c :: rest) =>
    match Action.problem? (c :: rest) with
    | some problem => .error (.badAction (c :: rest) problem)
    | none => .ok ()
  | _, _ => .ok ()

/-- The open tag that a closing tag at a position closes, with the name behind its slash. -/
def closedBy (opened : List Tag) (t : Tag) (name : List Char) (position : Nat) : Except Error Tag :=
  if (trimBlank name).isEmpty then
    match opened with
    | [] => .error (.nothingToClose position)
    | last :: _ => .ok last
  else
    match opened.find? (·.name = styleName name) with
    | some tag => .ok tag
    | none => .error (.unmatched t position)

/-- The text of the pieces, with the open tags, the last one first. -/
def resolve : (opened : List Tag) → List Piece → Except Error (List Char)
  | _, [] => .ok []
  | opened, .plain text :: rest => (resolve opened rest).map (unescape text ++ ·)
  | opened, .tag t position :: rest =>
    match t.name with
    | '/' :: name =>
      match closedBy opened t name position with
      | .error e => .error e
      | .ok tag =>
        match tag.close with
        | .error e => .error e
        | .ok _ => resolve (opened.eraseP (·.name = tag.name)) rest
    | _ => resolve (t.opened :: opened) rest

/-- The control characters that are left out of every text: bell, backspace, vertical tab, form
feed and carriage return. -/
def isDropped (c : Char) : Bool :=
  c = '\x07' || c = '\x08' || c = '\x0b' || c = '\x0c' || c = '\x0d'

/-- The text without the characters that are left out. -/
def dropControls (s : List Char) : List Char :=
  s.filter fun c => !isDropped c

/-- What a text with markup shows. -/
def render (s : List Char) : Except Error (List Char) :=
  (resolve [] (pieces s)).map dropControls

end WorkspaceDesk.Table.Markup
