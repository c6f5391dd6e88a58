import WorkspaceDesk.Text.Printable

/-!
# Readers of markup

The texts of cells may hold tags in square brackets, and names between colons that stand for
pictographs. What such a text shows is left to a reader: which styles there are and which pictographs is
nothing that tables depend on. They depend on three laws. Only a tag keeps a text from being shown, a
printable text without markup is shown as it is, and markup adds no line.
-/

namespace WorkspaceDesk.Table.Markup

open Text

/-- The characters that may begin a tag. -/
def beginsTag (c : Char) : Bool :=
  ('a' ≤ c && c ≤ 'z') || c = '#' || c = '/' || c = '@'

/-- The inside of a tag in brackets stands in the text. -/
def HasTag (s inside : List Char) : Prop :=
  '[' ∉ inside ∧ ']' ∉ inside ∧ '[' :: inside ++ [']'] <:+: s

/-- The text has no tag. -/
def Untagged (s : List Char) : Prop :=
  ∀ c rest, beginsTag c = true → ¬ HasTag s (c :: rest)

/-- The text has no tag, and no backslash stands before an opening bracket. -/
structure Literal (s : List Char) : Prop where
  untagged : Untagged s
  no_escape : ¬ ['\\', '['] <:+: s

/-- The text is printable, and nothing in it is markup or the name of a pictograph between colons. -/
structure Verbatim (isPictograph : List Char → Bool) (s : List Char) : Prop where
  literal : Literal s
  no_pictograph : ∀ name, isPictograph name = true → ¬ ':' :: name ++ [':'] <:+: s
  printable : ∀ c ∈ s, isPrintable c = true

/-- A way of reading texts with markup. -/
structure Reader where
  /-- The name stands for a pictograph when it is written between colons. -/
  isPictograph : List Char → Bool
  /-- What a text shows in a cell of some width, or the wording of the error if it cannot be shown. -/
  read : (width : Nat) → List Char → Except String (List Char)
  untagged : ∀ width s, Untagged s → ∃ shown, read width s = .ok shown
  verbatim : ∀ width s, Verbatim isPictograph s → read width s = .ok s
  feedFree : ∀ width s shown, read width s = .ok shown → '\n' ∉ s → '\n' ∉ shown

end WorkspaceDesk.Table.Markup
