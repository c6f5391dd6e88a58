/-!
# Keys and what they do

A key is a named key of the keyboard or a character. Some keys are bound to an action of the table;
all others are ignored.
-/

namespace WorkspaceDesk.Table

/-- A key. -/
inductive Key where
  | escape | enter | tab | space | backspace | insert | delete
  | up | down | left | right | home | endKey | pageUp | pageDown
  | controlC | controlD | controlU
  | char (c : Char)
  /-- A key of another name. -/
  | other (name : String)
deriving DecidableEq, Repr

/-- The keys with names of their own. -/
def Key.named : List (String × Key) :=
  [("esc", .escape), ("enter", .enter), ("tab", .tab), ("space", .space), ("backspace", .backspace),
    ("insert", .insert), ("delete", .delete), ("up", .up), ("down", .down), ("left", .left),
    ("right", .right), ("home", .home), ("end", .endKey), ("pgup", .pageUp), ("pgdown", .pageDown),
    ("ctrl+c", .controlC), ("ctrl+d", .controlD), ("ctrl+u", .controlU)]

/-- The name of a key; a character is its own name. -/
def Key.name : Key → String
  | .escape => "esc"
  | .enter => "enter"
  | .tab => "tab"
  | .space => "space"
  | .backspace => "backspace"
  | .insert => "insert"
  | .delete => "delete"
  | .up => "up"
  | .down => "down"
  | .left => "left"
  | .right => "right"
  | .home => "home"
  | .endKey => "end"
  | .pageUp => "pgup"
  | .pageDown => "pgdown"
  | .controlC => "ctrl+c"
  | .controlD => "ctrl+d"
  | .controlU => "ctrl+u"
  | .char c => String.ofList [c]
  | .other name => name

/-- The key of a name. -/
def Key.ofName (name : String) : Key :=
  match Key.named.lookup name with
  | some k => k
  | none =>
    match name.toList with
    | [c] => .char c
    | _ => .other name

/-- What a key can do to a table. -/
inductive Action where
  | quit | toggleFocus | confirm
  | lineUp | lineDown | pageUp | pageDown | halfPageUp | halfPageDown | top | bottom
deriving DecidableEq, Repr

/-- The action that a key is bound to. -/
def Key.action? : Key → Option Action
  | .escape => some .toggleFocus
  | .controlC | .char 'q' => some .quit
  | .enter => some .confirm
  | .up | .char 'k' => some .lineUp
  | .down | .char 'j' => some .lineDown
  | .pageUp | .char 'b' => some .pageUp
  | .pageDown | .char 'f' | .space => some .pageDown
  | .controlU | .char 'u' => some .halfPageUp
  | .controlD | .char 'd' => some .halfPageDown
  | .home | .char 'g' => some .top
  | .endKey | .char 'G' => some .bottom
  | _ => none

end WorkspaceDesk.Table
