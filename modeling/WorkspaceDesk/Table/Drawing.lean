import WorkspaceDesk.Decimal.Binary64
import WorkspaceDesk.Table.Console
import WorkspaceDesk.Table.View
import WorkspaceDesk.Text.Layout

/-!
# Drawing

A grid is drawn as a box around a heading, a rule and the rows. Each column gets the cells of its
width and of its padding; where the box would be wider than the screen, all columns give up some cells.
Lines are drawn as spans of text with a style.
-/

namespace WorkspaceDesk.Table

open Text

/-- How a span of text stands out. -/
inductive Style where
  | none
  | bold
  | dim
  /-- The row under the cursor. -/
  | selected
  /-- The gaps in the row under the cursor. -/
  | selectedGap
  /-- The row under the cursor of a table out of focus. -/
  | reverse
deriving DecidableEq, Repr

/-- The name of a style. -/
def Style.name : Style → String
  | .none => "none"
  | .bold => "bold"
  | .dim => "dim"
  | .selected => "white on green"
  | .selectedGap => "on green"
  | .reverse => "reverse"

/-- Text of one style. -/
structure Span where
  text : List Char
  style : Style
deriving DecidableEq, Repr

/-- A drawn line. -/
abbrev Line := List Span

/-- The text of a line. -/
def Line.text (line : Line) : List Char :=
  line.flatMap (·.text)

/-- The line with neighbours of one style joined, without empty spans. -/
def Line.merge : Line → Line
  | [] => []
  | s :: rest =>
    if s.text.isEmpty then Line.merge rest
    else
      match Line.merge rest with
      | [] => [s]
      | t :: others =>
        if s.style = t.style then ⟨s.text ++ t.text, s.style⟩ :: others else s :: t :: others

/-- The head of a line, of up to some cells. -/
def Line.take (width : Nat) : Line → Line
  | [] => []
  | s :: rest =>
    if cells s.text ≤ width then s :: Line.take (width - cells s.text) rest
    else [⟨cutTo width s.text, s.style⟩]

/-! ## Widths -/

/-- The sum of widths. -/
def total (widths : List Nat) : Nat :=
  widths.foldl (· + ·) 0

/-- Half of a number and less, rounded as quotients are: to the nearest, halves to even. -/
def roundShare (excess columns : Nat) : Nat :=
  Decimal.Binary64.roundQuotient excess columns

/-- Takes cells off the columns, from the left, in even shares. -/
def shrink : (excess : Nat) → List Nat → List Nat
  | _, [] => []
  | excess, w :: rest =>
    let share := min w (roundShare excess (rest.length + 1))
    (w - share) :: shrink (excess - share) rest

/-- The outer widths of columns that share some room: each column with its padding, shrunk where they
would not fit. -/
def outerWidths (room : Nat) (columns : List Column) : List Nat :=
  let widths := columns.map fun c => max 1 (min (c.width + 2) room)
  shrink (total widths - room) widths

/-- The gaps between columns. -/
def gapCount (columns : List Column) : Nat :=
  columns.length - 1

/-- The cells that the sides of the box and the padding beside them take. -/
def sideCells : Nat := 4

/-- The cells that a grid asks for on a screen that leaves it `room`. No column asks for more than all
columns have together. -/
def wantedCells (room : Nat) (columns : List Column) : Nat :=
  let shared := total (outerWidths (room - gapCount columns) columns)
  gapCount columns + total (columns.map fun c => min (c.width + 2) shared)

/-- The cells between the paddings of the box on a screen. What the grid asks for is judged by the room
between the sides alone, without the paddings. -/
def innerCells (screen : Nat) (columns : List Column) : Nat :=
  min (wantedCells (screen - 2) columns) (screen - sideCells)

/-! ## Cells and rows -/

/-- Where a cell stands in its row; outer cells have no padding on the side of the border. -/
structure Place where
  first : Bool
  last : Bool

/-- The places of a row of cells. -/
def places (count : Nat) : List Place :=
  (List.range count).map fun i => ⟨i = 0, i + 1 = count⟩

/-- The padding left and right of a cell. -/
def Place.padding (p : Place) : Nat × Nat :=
  (if p.first then 0 else 1, if p.last then 0 else 1)

/-- The width between the paddings of a cell. -/
def Place.inner (p : Place) (outer : Nat) : Nat :=
  outer - p.padding.1 - p.padding.2

/-- The lines of a cell, each as wide as the column. -/
def cellLines (p : Place) (outer : Nat) (text : List Char) : List (List Char) :=
  let inner := p.inner outer
  (splitLines text).map fun line =>
    spaces p.padding.1 ++ padTo inner (fitLine inner line) ++ spaces p.padding.2

/-- The lines of a cell with markup. A cell without room for any text is not read. -/
def drawCell (reader : Markup.Reader) (p : Place) (outer : Nat) (cell : String) :
    Except String (List (List Char)) :=
  if p.inner outer = 0 then .ok []
  else (reader.read (p.inner outer) cell.toList).map (cellLines p outer)

/-- Where the lines of a cell stand that is lower than its row. -/
inductive Alignment where
  | top
  | bottom
deriving DecidableEq

/-- The lines of a cell, filled up to the height of its row. -/
def fillCell (a : Alignment) (outer height : Nat) (lines : List (List Char)) : List (List Char) :=
  let blank := List.replicate (height - lines.length) (spaces outer)
  match a with
  | .top => lines ++ blank
  | .bottom => blank ++ lines

/-- A cell with lines, in a column of some width. -/
structure DrawnCell where
  outer : Nat
  lines : List (List Char)

/-- The cells of a row, drawn from left to right. -/
def drawCells (reader : Markup.Reader) (widths : List Nat) (row : Row) :
    Except String (List DrawnCell) :=
  ((places widths.length).zip (widths.zip row)).mapM fun (p, outer, cell) =>
    (drawCell reader p outer cell).map fun lines => ⟨outer, lines⟩

/-- Puts the spans of cells side by side with a gap between them. -/
def joinCells (gap : Span) : List Span → Line
  | [] => []
  | [s] => [s]
  | s :: rest => s :: gap :: joinCells gap rest

/-- The lines of a row, one at least. Where no cell has any line, the cells have no style. -/
def rowLines (a : Alignment) (style gap : Style) (cells : List DrawnCell) : List Line :=
  let height := (cells.map fun c => c.lines.length).foldl max 1
  let style := if cells.all (·.lines.isEmpty) then .none else style
  let filled := cells.map fun c => fillCell a c.outer height c.lines
  (List.range height).map fun i =>
    joinCells ⟨[' '], gap⟩ (filled.map fun lines => ⟨lines[i]?.getD [], style⟩)

/-- The styles of a row and its gaps. -/
def Emphasis.styles : Emphasis → Style × Style
  | .plain => (.none, .none)
  | .focused => (.selected, .selectedGap)
  | .unfocused => (.reverse, .none)

/-! ## The box -/

/-- A line of the box, with its sides. -/
def boxed (line : Line) : Line :=
  Line.merge (⟨['│', ' '], .none⟩ :: line ++ [⟨[' ', '│'], .none⟩])

/-- A line of the box that is all border. -/
def border (left right : Char) (width : Nat) : Line :=
  [⟨left :: List.replicate width '─' ++ [right], .none⟩]

/-- The notice in place of a table without room. -/
def noticeText : List Char :=
  "(terminal too narrow to show this table)".toList

/-- The lines of a grid between its paddings, which leave it `inner` cells. Markup is read in the order
of drawing: the titles, then the rows from the top. -/
def contentLines (reader : Markup.Reader) (inner : Nat) (columns : List Column)
    (rows : List (Emphasis × Row)) : Except String (List Line) := do
  let widths := outerWidths (inner - gapCount columns) columns
  let titles ← drawCells reader widths (columns.map (·.title))
  let body ← rows.mapM fun (e, row) => do
    let cells ← drawCells reader widths row
    return rowLines .top e.styles.1 e.styles.2 cells
  let heading := rowLines .bottom .bold .none titles
  let rule : Line := [⟨List.replicate (total widths + gapCount columns) '─', .none⟩]
  return (heading ++ rule :: body.flatten).map (Line.take inner)

/-- The lines of a grid on a console. The box is empty where its sides leave no cell. -/
def gridLines (console : Console) (columns : List Column) (rows : List (Emphasis × Row)) :
    Except String (List Line) :=
  if console.columns ≤ sideCells then
    .ok [border '╭' '╮' (console.columns - 2), border '╰' '╯' (console.columns - 2)]
  else
    let inner := innerCells console.columns columns
    (contentLines console.reader inner columns rows).map fun lines =>
      border '╭' '╮' (inner + 2) :: lines.map boxed ++ [border '╰' '╯' (inner + 2)]

/-- The lines of a view on a console that has columns. -/
def View.allLines (v : View) (console : Console) : Except String (List Line) :=
  match v with
  | .notice => .ok [[⟨fitLine console.columns noticeText, .dim⟩]]
  | .grid columns rows => (gridLines console columns rows).map (·.map (Line.take console.columns))

/-- The lines of a view on a console, none if it has no columns; the notice is one line, cut where the
console ends. -/
def View.lines (v : View) (console : Console) : Except String (List Line) :=
  if console.columns = 0 then .ok [] else v.allLines console

/-- The lines of a view as running output: the notice is broken between words. -/
def View.printed (v : View) (console : Console) : Except String (List (List Char)) :=
  match v with
  | .notice => .ok (if console.columns = 0 then [] else wrap console.columns noticeText)
  | .grid _ _ => (v.lines console).map (·.map Line.text)

end WorkspaceDesk.Table
