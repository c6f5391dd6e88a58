/-!
# Patterns

Regular expressions and the search for them. A match is looked for from left to right. At a place the
alternatives of a pattern are tried in order and repetitions as often as possible first; where what
follows does not match, the next possibility is tried.
-/

namespace WorkspaceDesk.Text

/-- A regular expression. -/
inductive Pattern where
  | empty
  /-- One character of a set. -/
  | one (accepts : Char → Bool)
  /-- The beginning of a line. -/
  | lineStart
  /-- The end of a line, before its line feed if it has one. -/
  | lineEnd
  | seq (first second : Pattern)
  /-- The first alternative, or else the second. -/
  | alt (first second : Pattern)
  /-- Any number of times, as often as possible. -/
  | star (body : Pattern)

/-- A place in a text. -/
structure Spot where
  /-- A line begins here. -/
  startsLine : Bool
  /-- The text from here on. -/
  rest : List Char

/-- The place after a character. -/
def Spot.after (c : Char) (rest : List Char) : Spot :=
  ⟨c = '\n', rest⟩

/-- What is to be matched from a place on: yields where the match ends. -/
abbrev Matcher := Spot → Option Spot

/-- Repeats a match as often as possible before what is to follow. A repetition that takes no character
is not repeated. -/
def greedy (body : Matcher → Matcher) (next : Matcher) (s : Spot) : Option Spot :=
  let again := fun t => if _h : t.rest.length < s.rest.length then greedy body next t else none
  match body again s with
  | some t => some t
  | none => next s
termination_by s.rest.length

namespace Pattern

/-- Matches a pattern and then what is to follow. -/
def run : Pattern → Matcher → Matcher
  | empty, next, s => next s
  | one accepts, next, s =>
    match s.rest with
    | [] => none
    | c :: rest => if accepts c then next (.after c rest) else none
  | lineStart, next, s => if s.startsLine then next s else none
  | lineEnd, next, s =>
    match s.rest with
    | [] => next s
    | c :: _ => if c = '\n' then next s else none
  | seq first second, next, s => first.run (second.run next) s
  | alt first second, next, s =>
    match first.run next s with
    | some t => some t
    | none => second.run next s
  | star body, next, s => greedy body.run next s

/-- At least once, as often as possible. -/
def plus (p : Pattern) : Pattern :=
  seq p (star p)

/-- A text itself. -/
def literal (text : List Char) : Pattern :=
  text.foldr (fun c p => seq (one (· = c)) p) empty

/-- The first of texts that matches. -/
def anyOf (texts : List (List Char)) : Pattern :=
  texts.foldr (fun text p => alt (literal text) p) (one fun _ => false)

/-- The number of characters that a match at a place takes, if there is one. -/
def matchLength? (p : Pattern) (s : Spot) : Option Nat :=
  (p.run some s).map fun t => s.rest.length - t.rest.length

/-- The text without the matches of a pattern, and their number; `skip` characters belong to a match
that has been found. A match takes at least one character. -/
def removeFrom (p : Pattern) : (startsLine : Bool) → (skip : Nat) → List Char → List Char × Nat
  | _, _, [] => ([], 0)
  | _, skip + 1, c :: rest => p.removeFrom (c = '\n') skip rest
  | startsLine, 0, c :: rest =>
    match p.matchLength? ⟨startsLine, c :: rest⟩ with
    | some (more + 1) =>
      let (kept, n) := p.removeFrom (c = '\n') more rest
      (kept, n + 1)
    | _ =>
      let (kept, n) := p.removeFrom (c = '\n') 0 rest
      (c :: kept, n)

/-- The text without the matches of a pattern, and their number. -/
def remove (p : Pattern) (text : List Char) : List Char × Nat :=
  p.removeFrom true 0 text

end Pattern

end WorkspaceDesk.Text
