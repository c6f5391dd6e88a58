import WorkspaceDesk.Text.Blank
import WorkspaceDesk.Text.CellWidth

/-!
# Laying out lines

A line of text is brought to a number of terminal cells: tabs become spaces, blanks that hang over the
end are dropped, what is still too wide is cut and marked by an ellipsis. Running text is broken
between words instead.
-/

namespace WorkspaceDesk.Text

/-- Spaces. -/
def spaces (n : Nat) : List Char :=
  List.replicate n ' '

/-- Distance of tab stops. -/
def tabSize : Nat := 8

/-- The text with each tab replaced by spaces up to the next tab stop; `column` cells stand before
it. -/
def expandTabsFrom (column : Nat) : List Char → List Char
  | [] => []
  | c :: rest =>
    if c = '\t' then
      let next := (column / tabSize + 1) * tabSize
      spaces (next - column) ++ expandTabsFrom next rest
    else c :: expandTabsFrom (column + charCells c) rest

/-- The text with spaces for tabs. -/
def expandTabs (s : List Char) : List Char :=
  expandTabsFrom 0 s

/-- Drops blanks at the end, but no more characters than exceed the width. -/
def dropOverhang (width : Nat) (s : List Char) : List Char :=
  let blanks := (s.reverse.takeWhile isBlank).length
  s.take (s.length - min blanks (s.length - width))

/-- Looks for the part of a text that takes exactly `width` cells, by halving the range of lengths
`low … high`. A wide character across the limit gives way to a space. -/
def cutSearch (width : Nat) (s : List Char) : (fuel low high : Nat) → List Char
  | 0, low, _ => s.take low
  | fuel + 1, low, high =>
    let middle := (low + high) / 2
    let before := s.take (middle + 1)
    let taken := cells before
    -- one cell too many, with a character of two cells at the end: half of it is left
    if taken = width + 1 ∧ (before.getLast?.map charCells) = some 2 then before.dropLast ++ [' ']
    else if taken = width then before
    else if width < taken then cutSearch width s fuel low middle
    else cutSearch width s fuel middle high

/-- The head of a text of more than `width` cells that takes exactly `width` cells. -/
def cutTo (width : Nat) (s : List Char) : List Char :=
  if width = 0 then [] else cutSearch width s (s.length + 1) 0 s.length

/-- The text cut to the width, the last cell showing an ellipsis, if it is too wide. -/
def truncate (width : Nat) (s : List Char) : List Char :=
  if cells s ≤ width then s else cutTo (width - 1) s ++ ['…']

/-- The text filled up with spaces to the width. -/
def padTo (width : Nat) (s : List Char) : List Char :=
  s ++ spaces (width - cells s)

/-- The lines of a text. -/
def splitLines (s : List Char) : List (List Char) :=
  s.splitOn '\n'

/-- A line in a field of fixed width. -/
def fitLine (width : Nat) (s : List Char) : List Char :=
  truncate width (dropOverhang width (expandTabs s))

/-! ## Running text -/

/-- A word of running text: the blanks before it where the text begins with them, its characters,
and the blanks behind it. -/
abbrev Word := List Char

/-- The words of a line, `fuel` of them at most. -/
def wordsFrom : (fuel : Nat) → List Char → List Word
  | 0, _ => []
  | fuel + 1, s =>
    let (leading, rest) := s.span isBlank
    let (body, rest) := rest.span fun c => !isBlank c
    let (trailing, rest) := rest.span isBlank
    if body.isEmpty then []
    else (leading ++ body ++ trailing) :: wordsFrom fuel rest

/-- The words of a line. -/
def words (s : List Char) : List Word :=
  wordsFrom s.length s

/-- A text cut into parts of at most `width` cells; `used` cells of the first part are taken. -/
def foldWord (width : Nat) : (used : Nat) → List Char → List (List Char)
  | _, [] => [[]]
  | used, c :: rest =>
    if width < used + charCells c then
      match foldWord width (charCells c) rest with
      | [] => [[], [c]]
      | part :: parts => [] :: (c :: part) :: parts
    else
      match foldWord width (used + charCells c) rest with
      | [] => [[c]]
      | part :: parts => (c :: part) :: parts

/-- The text without the blanks at its end. -/
def trimEnd (s : List Char) : List Char :=
  (s.reverse.dropWhile isBlank).reverse

/-- Lines under construction: those complete, and the last one with the cells counted for it. -/
structure Wrapping where
  complete : List (List Char)
  current : List Char
  used : Nat

/-- The parts of a word that fits no line. Before all other text, a wide character leaves no empty line
behind it where lines are narrower than it. -/
def Wrapping.partsOf (width : Nat) (w : Wrapping) (word : Word) : List (List Char) :=
  match foldWord width 0 word with
  | [] :: parts => if w.complete.isEmpty && w.current.isEmpty then parts else [] :: parts
  | parts => parts

/-- Adds a word: to the line if it fits, else to a new line; one that fits no line is cut up. -/
def Wrapping.add (width : Nat) (w : Wrapping) (word : Word) : Wrapping :=
  let size := cells (trimEnd word)
  if w.used + size ≤ width then { w with current := w.current ++ word, used := w.used + cells word }
  else if width < size then
    let parts := w.partsOf width word
    let done := if w.current.isEmpty then w.complete else w.complete ++ [w.current]
    { complete := done ++ parts.dropLast
      current := parts.getLast?.getD []
      used := cells (parts.getLast?.getD []) }
  else { complete := w.complete ++ [w.current], current := word, used := cells word }

/-- A line of running text, broken between words. -/
def wrapLine (width : Nat) (s : List Char) : List (List Char) :=
  let w := (words s).foldl (Wrapping.add width) ⟨[], [], 0⟩
  -- a line of blanks has no word, and stays as it is
  let broken := if (words s).isEmpty then [s] else w.complete ++ [w.current]
  broken.map fun line =>
    let line := dropOverhang width line
    if cells line ≤ width then line else cutTo width line

/-- Running text, broken between words. -/
def wrap (width : Nat) (s : List Char) : List (List Char) :=
  (splitLines s).flatMap fun line => wrapLine width (expandTabs line)

end WorkspaceDesk.Text
