import WorkspaceDesk.Text.CodePoints

/-!
# Blank characters

White space of all scripts, and texts without the blank characters at their ends.
-/

namespace WorkspaceDesk.Text

/-- The white space characters: separators, and the control characters that act as such. -/
def blanks : CodePoints where
  ranges := [
    (0x0009, 0x000d), (0x001c, 0x0020), (0x0085, 0x0085), (0x00a0, 0x00a0), (0x1680, 0x1680), (0x2000, 0x200a),
    (0x2028, 0x2029), (0x202f, 0x202f), (0x205f, 0x205f), (0x3000, 0x3000)]

/-- White space of any script. -/
def isBlank (c : Char) : Bool :=
  blanks.contains c

/-- The text without the blank characters at both ends. -/
def trimBlank (s : List Char) : List Char :=
  ((s.dropWhile isBlank).reverse.dropWhile isBlank).reverse

end WorkspaceDesk.Text
