/-!
# Line ends

Text files mark the end of a line by a line feed, a carriage return or both in a row. Texts in
memory use the line feed alone.
-/

namespace WorkspaceDesk.Text

/-- The text with a line feed for every line end. -/
def unifyLineEnds : List Char → List Char
  | [] => []
  | '\r' :: '\n' :: rest => '\n' :: unifyLineEnds rest
  | '\r' :: rest => '\n' :: unifyLineEnds rest
  | c :: rest => c :: unifyLineEnds rest

end WorkspaceDesk.Text
