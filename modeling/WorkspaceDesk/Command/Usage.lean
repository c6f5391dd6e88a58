import WorkspaceDesk.Command.Grammar
import WorkspaceDesk.Text.Paragraph

/-!
# Help texts

The usage of a command shows its options and operand on one line, or on several where the screen is too
narrow; lines are then broken between options, and between an option that is required and its value.
The help adds a list of all operands and options with what they are for, set in two columns.
-/

namespace WorkspaceDesk.Command

open Text

/-- Spaces. -/
def blankText (n : Nat) : String :=
  String.ofList (spaces n)

/-- Words with single spaces between them. -/
def joinWords (words : List String) : String :=
  String.intercalate " " words

/-! ## Usage -/

/-- The option in a usage: between brackets unless it is required. -/
def OptionRule.usageParts (r : OptionRule) : List String :=
  let name := r.names.headD ""
  if !r.required then ["[" ++ r.form name ++ "]"]
  else if r.effect.takesValue then [name, r.valueName]
  else [name]

/-- Options of which exactly one is given, in a usage. -/
def oneOfPart (rules : List OptionRule) : String :=
  "(" ++ String.intercalate " | " (rules.map fun r => r.form (r.names.headD "")) ++ ")"

/-- The options in a usage. -/
def Grammar.optionParts (g : Grammar) : List String :=
  g.options.flatMap OptionRule.usageParts ++ if g.oneOf.isEmpty then [] else [oneOfPart g.oneOf]

/-- The names of commands between braces. -/
def choicesText (choices : List Choice) : String :=
  "\x7b" ++ String.intercalate "," (choiceNames choices) ++ "\x7d"

/-- The operand in a usage. -/
def Operand.usageParts : Operand → List String
  | .none => []
  | .text name => ["[" ++ name ++ "]"]
  | .command _ choices => [choicesText choices, "..."]

/-- Parts in lines of a width, as many as fit; `used` characters of the line are taken, and each further
line is to be indented. -/
def packParts (width : Int) (indent : Nat) :
    (line : List String) → (used : Int) → List String → List (List String)
  | line, _, [] => if line.isEmpty then [] else [line]
  | line, used, part :: rest =>
    if width < used + 1 + part.length ∧ line ≠ [] then
      line :: packParts width indent [part] (indent + part.length) rest
    else packParts width indent (line ++ [part]) (used + part.length + 1) rest

/-- Lines of parts, each line indented. -/
def indentedParts (width : Int) (indent : Nat) (parts : List String) : List String :=
  (packParts width indent [] ((indent : Int) - 1) parts).map fun line =>
    blankText indent ++ joinWords line

/-- What a usage begins with. -/
def usageWord : String := "usage: "

/-- The lines of a usage behind its first word, where one line is too long for the width. A program with
a long name stands on a line of its own. -/
def Grammar.brokenUsage (g : Grammar) (width : Int) : List String :=
  let operandParts := g.operand.usageParts
  if 4 * ((usageWord.length : Int) + g.program.length) ≤ 3 * width then
    let indent := usageWord.length + g.program.length + 1
    let lines := packParts width indent [] ((usageWord.length : Int) - 1) (g.program :: g.optionParts)
    match lines.map joinWords with
    | [] => []
    | first :: rest =>
      first :: rest.map (blankText indent ++ ·) ++ indentedParts width indent operandParts
  else
    let indent := usageWord.length
    -- options and operand share lines only if one line holds them all
    let lines := indentedParts width indent (g.optionParts ++ operandParts)
    let lines :=
      if 1 < lines.length then
        indentedParts width indent g.optionParts ++ indentedParts width indent operandParts
      else lines
    g.program :: lines

/-- The lines of the usage. -/
def Grammar.usageLines (g : Grammar) (width : Int) : List String :=
  let whole := joinWords (g.program :: g.optionParts ++ g.operand.usageParts)
  let lines :=
    if width < (usageWord.length : Int) + whole.length then g.brokenUsage width else [whole]
  match lines with
  | [] => []
  | first :: rest => (usageWord ++ first) :: rest

/-- The usage. -/
def Grammar.usage (g : Grammar) (width : Int) : String :=
  String.intercalate "\n" (g.usageLines width) ++ "\n"

/-! ## Help -/

/-- An item of the lists in a help text. -/
structure HelpItem where
  indent : Nat
  head : String
  about : String

/-- The items of the operand. -/
def Operand.helpItems : Operand → List HelpItem
  | .none => []
  | .text name => [⟨2, name, ""⟩]
  | .command _ choices =>
    ⟨2, choicesText choices, ""⟩ :: choices.map fun c =>
      let aliases :=
        if c.aliases.isEmpty then "" else " (" ++ String.intercalate ", " c.aliases ++ ")"
      ⟨4, c.name ++ aliases, c.about⟩

/-- The item of an option. -/
def OptionRule.helpItem (r : OptionRule) : HelpItem :=
  ⟨2, String.intercalate ", " (r.names.map r.form), r.about⟩

/-- The column at which the second column of the lists begins: behind the widest item, but not too far to
the right. -/
def aboutColumn (width : Int) (items : List HelpItem) : Nat :=
  let widest := items.foldl (fun n item => max n item.head.length) 0
  min (widest + 4) (min 24 (max (width - 20) 4).toNat)

/-- The width of running text in the room that is left. -/
def textWidth (room : Int) : Nat :=
  (max room 11).toNat

/-- The lines of a text filled into a width. -/
def fillText (width : Nat) (text : String) : List String :=
  (fill width text.toList).map String.ofList

/-- The lines of an item. What it is for begins beside it if there is room, else on the next line. -/
def HelpItem.lines (item : HelpItem) (width : Int) (column : Nat) : List String :=
  let head := blankText item.indent ++ item.head
  if item.about = "" then [head]
  else
    let about := fillText (textWidth (width - column)) item.about
    if head.length + 2 ≤ column then
      match about with
      | [] => [head]
      | first :: rest =>
        (head ++ blankText (column - head.length) ++ first) :: rest.map (blankText column ++ ·)
    else head :: about.map (blankText column ++ ·)

/-- A list with a heading; none if it has no items. -/
def helpList (width : Int) (column : Nat) (heading : String) (items : List HelpItem) :
    List (List String) :=
  if items.isEmpty then []
  else [(heading ++ ":") :: items.flatMap (·.lines width column)]

/-- The help: usage, description, operands and options, with empty lines between them. -/
def Grammar.help (g : Grammar) (width : Int) : String :=
  let operands := g.operand.helpItems
  let options := g.rules.map OptionRule.helpItem
  let column := aboutColumn width (operands ++ options)
  let about := if g.about = "" then [] else [fillText (textWidth width) g.about]
  let blocks :=
    [g.usageLines width] ++ about ++ helpList width column "positional arguments" operands
      ++ helpList width column "options" options
  String.intercalate "\n\n" (blocks.map (String.intercalate "\n")) ++ "\n"

end WorkspaceDesk.Command
