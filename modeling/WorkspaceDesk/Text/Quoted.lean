import WorkspaceDesk.Text.Hex
import WorkspaceDesk.Text.Printable

/-!
# Quoted texts

Messages show names and paths between quotes, so that blanks at their ends and invisible characters
can be seen. Single quotes are used, unless the text holds a single quote and no double quote.
-/

namespace WorkspaceDesk.Text

/-- The quote around a text: single, unless only double quotes leave the text unescaped. -/
def quoteFor (s : List Char) : Char :=
  if s.contains '\'' && !s.contains '"' then '"' else '\''

/-- How a character is shown between quotes: quote and backslash follow a backslash, and what is
not printable is named by its code point in two, four or eight digits. -/
def quotedChar (quote c : Char) : List Char :=
  if c = quote ∨ c = '\\' then ['\\', c]
  else if c = '\t' then ['\\', 't']
  else if c = '\n' then ['\\', 'n']
  else if c = '\r' then ['\\', 'r']
  else if isPrintable c then [c]
  else if c.toNat < 0x100 then '\\' :: 'x' :: hexDigits 2 c.toNat
  else if c.toNat < 0x10000 then '\\' :: 'u' :: hexDigits 4 c.toNat
  else '\\' :: 'U' :: hexDigits 8 c.toNat

/-- The text between quotes. -/
def quotedChars (s : List Char) : List Char :=
  quoteFor s :: s.flatMap (quotedChar (quoteFor s)) ++ [quoteFor s]

/-- The text between quotes. -/
def quoted (s : String) : String :=
  String.ofList (quotedChars s.toList)

end WorkspaceDesk.Text
