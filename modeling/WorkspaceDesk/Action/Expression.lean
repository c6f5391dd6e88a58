import WorkspaceDesk.Action.Formatted
import WorkspaceDesk.Action.Part
import WorkspaceDesk.Action.Reader

/-!
# Expressions

The reader of expressions takes the longest expression at the head of the tokens. When telling
faults are looked for, it also reads on behind a place where no expression can go on: a comma, an
`else` or a colon may have been forgotten, or an equals sign may stand where values are compared. A
place that stops all reading is reported first.

Every function has a budget that goes down with each call.
-/

namespace WorkspaceDesk.Action

/-- An operator. Without `loose` it is one of arithmetic. -/
def operator (loose : Bool) : Reader Operator := do
  match ← peek with
  | .mark m =>
    if arithmeticSigns.contains m then
      advance
      return ⟨.arithmetic, m = "+" || m = "-"⟩
    if loose && comparisonSigns.contains m then
      advance
      if m = "is" then
        let _ ← accept "not"
      return ⟨.comparison, false⟩
    if loose && (m = "and" || m = "or") then
      advance
      return ⟨.logic, false⟩
    if loose && m = "not" then
      advance
      expect "in"
      return ⟨.comparison, false⟩
    fail .unexpected
  | _ => fail .unexpected

/-- The quoted texts that come next. -/
def quotedTexts : (budget : Nat) → Reader (List QuotedText)
  | 0 => fail .unexpected
  | budget + 1 => do
    match ← peek with
    | .text t =>
      advance
      return t :: (← quotedTexts budget)
    | _ => return []

/-- The arguments that came before an argument. -/
structure Seen where
  anything : Bool
  /-- One with a name. -/
  keyword : Bool
  /-- An unpacked mapping. -/
  mapping : Bool

/-- An argument without a name may not stand behind one with a name. -/
def positional (seen : Seen) : Reader Seen := do
  if seen.mapping then
    failTelling (.positionalAfterKeyword true)
  if seen.keyword then
    failTelling (.positionalAfterKeyword false)
  return seen

mutual

/-- An expression. Commas are missed within brackets only. -/
def expression (inside : Bool) : (budget : Nat) → Reader Part
  | 0 => fail .unexpected
  | budget + 1 => do
    if ← accept "lambda" then
      parameters budget
      let _ ← expression inside budget
      return .plain .lambda .loosest
    let start := (← get).tokens
    let first ← chain true budget
    if (← get).telling then
      missed inside start first budget
    match ← tryRead (alternative inside budget) with
    | some _ => return .plain .conditional .loosest
    | none => return first

/-- What may have been forgotten behind the operands of an expression. -/
def missed (inside : Bool) (start : List Token) (first : Part) : (budget : Nat) → Reader Unit
  | 0 => fail .unexpected
  | budget + 1 => do
    let here ← get
    -- two expressions side by side
    if (← peek).beginsExpression && !startsOtherwise start then
      if (← trySilently (do let _ ← expression inside budget; peek)).isSome then
        if inside && !(first.bareName.isSome && (oldCommand? start).isSome) then
          fail .forgottenComma
        goBack here
    -- a condition without the other case
    if ← accept "if" then
      if (← tryRead (chain true budget)).isSome then
        if !(← seesAny ["else", ":"]) then
          fail .missingElse
      goBack here
    -- a command of an older language, which took its values without brackets
    let signed ← seesAny ["+", "-"]
    let bare := first.bareName.isSome && !signed
    if bare || (oldCommand? start).isSome || startsOtherwise start then
      modify fun r => { r with tokens := start.drop 1 }
      if !(← sees "(") then
        if (← tryRead (values inside budget)).isSome then
          if let some command := oldCommand? start then
            fail (.missingBrackets command)
      goBack here

/-- The condition and the other case behind the first case of a conditional expression. -/
def alternative (inside : Bool) : (budget : Nat) → Reader Unit
  | 0 => fail .unexpected
  | budget + 1 => do
    expect "if"
    let _ ← chain true budget
    expect "else"
    let _ ← expression inside budget

/-- Operands with operators between them. Without `loose` the operators are those of arithmetic. -/
def chain (loose : Bool) : (budget : Nat) → Reader Part
  | 0 => fail .unexpected
  | budget + 1 => do
    chainFrom loose (← operand loose budget) budget

/-- Further operators and operands behind an expression. -/
def chainFrom (loose : Bool) (first : Part) : (budget : Nat) → Reader Part
  | 0 => fail .unexpected
  | budget + 1 => do
    match ← tryRead (operation loose budget) with
    | none => return first
    | some (o, second) => chainFrom loose (first.joined o second) budget

/-- An operator and the operand behind it. -/
def operation (loose : Bool) : (budget : Nat) → Reader (Operator × Part)
  | 0 => fail .unexpected
  | budget + 1 => do
    let o ← operator loose
    return (o, ← operand (o.binding = .logic) budget)

/-- An operand with the signs before it. The word `not` stands before whole comparisons only. -/
def operand (negatable : Bool) : (budget : Nat) → Reader Part
  | 0 => fail .unexpected
  | budget + 1 => do
    match ← peek with
    | .mark "not" =>
      if negatable then
        advance
        let _ ← operand true budget
        return .plain .operation .logic
      else fail .unexpected
    | .mark "-" | .mark "+" =>
      advance
      let p ← operand false budget
      return { Part.plain .operation .arithmetic with meaning := Meaning.signed p.meaning }
    | .mark "~" =>
      advance
      let _ ← operand false budget
      return .plain .operation .arithmetic
    | .mark "await" =>
      advance
      let _ ← suffixes (← atom budget) budget
      return .plain .awaited .single
    | _ => suffixes (← atom budget) budget

/-- Attributes and calls behind an expression. -/
def suffixes (p : Part) : (budget : Nat) → Reader Part
  | 0 => fail .unexpected
  | budget + 1 => do
    if p.bareName.isNone && (← sees "\x7b") && (← get).telling then
      let here ← get
      let _ ← tryRead (do advance; bareTargets budget)
      goBack here
    match ← tryRead (suffix p budget) with
    | some q => suffixes q budget
    | none => return p

/-- An attribute or a call behind an expression. -/
def suffix (p : Part) : (budget : Nat) → Reader Part
  | 0 => fail .unexpected
  | budget + 1 => do
    if ← accept "." then
      match ← peek with
      | .name _ =>
        advance
        return { Part.plain .attribute .single with startsFixed := p.startsFixed }
      | _ => fail .unexpected
    expect "("
    let empty ← sees ")"
    arguments ⟨false, false, false⟩ budget
    let meaning : Meaning :=
      if empty && p.bareName = some "set".toList then .ok (.loose "set") else .error .notLiteral
    return { Part.plain .call .single with meaning := meaning, startsFixed := p.startsFixed }

/-- A single value. -/
def atom : (budget : Nat) → Reader Part
  | 0 => fail .unexpected
  | budget + 1 => do
    match ← peek with
    | .name n =>
      advance
      return { Part.plain .name .single with bareName := some n }
    | .number imaginary digits =>
      advance
      if digits > Text.maxDigits then
        failAlways (.numberTooLong digits)
      return .literal .literal (.ok (.number imaginary)) false
    | .text _ =>
      let texts ← quotedTexts budget
      match textsFault? none texts budget with
      | some f => failAlways f
      | none =>
        if texts.any (·.formatted) then return .plain .formattedText .single
        else return .literal .literal (.ok .fixed) false
    | .indent => fail .unexpectedIndent
    | .mark m =>
      if m = "True" || m = "False" || m = "None" then
        advance
        return .literal (.constant m) (.ok .fixed) true
      if m = "..." then
        advance
        return .literal .ellipsis (.ok .fixed) false
      if m = "(" then
        advance
        group budget
      else if m = "\x7b" then
        advance
        collection budget
      else fail .unexpected
    | _ => fail .unexpected

/-- What is wrong with quoted texts that stand side by side and so form one text; `bytes` says of
what kind the one before is. -/
def textsFault? (bytes : Option Bool) : List QuotedText → (budget : Nat) → Option Fault
  | [], _ => none
  | _, 0 => some .unexpected
  | t :: rest, budget + 1 =>
    let own :=
      if !t.formatted then t.fault?
      else
        match formattedText t.raw 0 t.body budget with
        | .error f => some f
        | .ok _ => none
    own.or <|
      if bytes.any (· ≠ t.bytes) then some .mixedTexts else textsFault? (some t.bytes) rest budget

/-- Reads a formatted text up to its end or, if it is the format of a field, its closing brace. -/
def formattedText (raw : Bool) (level : Nat) (s : List Char) : (budget : Nat) →
    Except Fault (List Char)
  | 0 => .error .unexpected
  | budget + 1 =>
    match literalPart raw (level = 0) .outside s with
    | .error problem => .error (.format problem)
    | .ok (literal, doubled, rest) =>
      match if raw then none else escapeFault? 0 literal with
      | some f => .error f
      | none =>
        if doubled then formattedText raw level rest budget
        else
          match rest with
          | '{' :: inner =>
            match field raw level inner budget with
            | .error f => .error f
            | .ok behind => formattedText raw level behind budget
          | _ => .ok rest

/-- Reads a field from behind its opening brace on, with its closing brace. -/
def field (raw : Bool) (level : Nat) (s : List Char) : (budget : Nat) → Except Fault (List Char)
  | 0 => .error .unexpected
  | budget + 1 =>
    if level ≥ 2 then .error (.format .tooDeep)
    else
      match fieldExpression 0 none [] s with
      | .error problem => .error (.format problem)
      | .ok (text, rest) =>
        match (blankField? text rest.head?).map Fault.format |>.or (fieldFault? text budget) with
        | some f => .error f
        | none =>
          match afterConversion rest with
          | .error problem => .error (.format problem)
          | .ok (':' :: format) =>
            if format.isEmpty then .error (.format .unclosed)
            else
              match formattedText raw (level + 1) format budget with
              | .error f => .error f
              | .ok ('}' :: behind) => .ok behind
              | .ok _ => .error (.format .unclosed)
          | .ok ('}' :: behind) => .ok behind
          | .ok _ => .error (.format .unclosed)

/-- What is wrong with the expression of a field, which is read as if it stood in brackets. -/
def fieldFault? (text : List Char) : (budget : Nat) → Option Fault
  | 0 => some .unexpected
  | budget + 1 =>
    let ts := tokens ('(' :: text ++ [')'])
    match readTokens ts (values false budget) with
    | .ok _ => none
    | .error f => some (if (stop? ts).any (·.fault = f) then f else .inField f)

/-- What stands in round brackets: a tuple, a generator, a yielded value or an expression. -/
def group : (budget : Nat) → Reader Part
  | 0 => fail .unexpected
  | budget + 1 => do
    if ← accept ")" then
      return .literal .tuple (.ok .fixed) true
    if ← accept "yield" then
      if ← accept "from" then
        let _ ← expression true budget
      else if !(← sees ")") then
        values true budget
      expect ")"
      return .plain .yielded .single
    let start ← get
    -- stars have no meaning in front of a single expression in brackets
    if ← accept "**" then
      if start.telling then
        let _ ← expression true budget
        if ← sees ")" then
          fail .doubleStarredGroup
      fail .unexpected
    if ← sees "*" then
      match ← tryRead (do let _ ← member budget; expect ","; tupleRest budget) with
      | some others => return .literal .tuple (Meaning.tuple (.error .notLiteral :: others)) true
      | none =>
        if start.telling then
          advance
          let _ ← expression true budget
          if ← sees ")" then
            fail .starredGroup
          clauses budget
          fail .starredComprehension
        fail .unexpected
    let first ← member budget
    if ← accept "," then
      let others ← tupleRest budget
      return .literal .tuple (Meaning.tuple (first.meaning :: others)) true
    if ← seesAny ["for", "async"] then
      clauses budget
      expect ")"
      return .literal .generator (.error .notLiteral) true
    expect ")"
    return first.bracketed

/-- A member of a tuple or set: an expression, which may be named or starred. -/
def member : (budget : Nat) → Reader Part
  | 0 => fail .unexpected
  | budget + 1 => do
    if ← accept "*" then
      let _ ← chain false budget
      return .plain .starred .loosest
    if let .name _ ← peek then
      if (← peekSecond) = .mark ":=" then
        advance
        advance
        let _ ← expression true budget
        return .plain .named .loosest
    let p ← expression true budget
    if (← get).telling then
      misplacedEquals p budget
    return p

/-- The fault of an equals sign behind a member. -/
def misplacedEquals (p : Part) : (budget : Nat) → Reader Unit
  | 0 => fail .unexpected
  | budget + 1 => do
    if ← accept ":=" then
      let _ ← expression true budget
      fail (.cannotName p.form.description)
    if ← accept "=" then
      if p.bareName.isSome || (p.binding.rank ≤ 1 && !p.startsFixed) then
        let _ ← chain false budget
        if !(← seesAny ["=", ":="]) then
          fail <|
            if p.bareName.isSome then .singleEquals else .cannotAssignHere p.form.description
      fail .unexpected

/-- Values with commas between them, any of which may be starred. -/
def values (inside : Bool) : (budget : Nat) → Reader Unit
  | 0 => fail .unexpected
  | budget + 1 => do
    if ← accept "*" then
      let _ ← chain false budget
    else
      let _ ← expression inside budget
    if ← accept "," then
      let _ ← tryRead (values inside budget)

/-- Members with commas between them. -/
def members : (budget : Nat) → Reader Unit
  | 0 => fail .unexpected
  | budget + 1 => do
    let _ ← member budget
    if ← accept "," then
      let _ ← tryRead (members budget)

/-- The fault of members behind a brace that are meant as targets of a comprehension. -/
def bareTargets : (budget : Nat) → Reader Unit
  | 0 => fail .unexpected
  | budget + 1 => do
    if (← sees "*") then
      let here ← get
      advance
      if (← tryRead (do let _ ← expression true budget; clauses budget)).isSome then
        fail .starredComprehension
      goBack here
    let _ ← member budget
    expect ","
    if !(← seesAny ["for", "async"]) then
      members budget
    clauses budget
    fail .bareComprehensionTarget

/-- The rest of a tuple behind a comma. -/
def tupleRest : (budget : Nat) → Reader (List Meaning)
  | 0 => fail .unexpected
  | budget + 1 => do
    if ← accept ")" then
      return []
    let p ← member budget
    if ← accept "," then
      return p.meaning :: (← tupleRest budget)
    expect ")"
    return [p.meaning]

/-- What stands in braces: a dictionary or a set. -/
def collection : (budget : Nat) → Reader Part
  | 0 => fail .unexpected
  | budget + 1 => do
    if ← accept "\x7d" then
      return .literal .dictionary (.ok (.loose "dict")) false
    if ← accept "**" then
      let _ ← chain false budget
      if ← seesAny ["for", "async"] then
        clauses budget
        if ← sees "\x7d" then
          failTelling .doubleStarredComprehension
        fail .unexpected
      let others ← entries budget
      return .literal .dictionary (Meaning.dictionary (.error .unpackedMapping :: others)) false
    let start ← get
    let first ← member budget
    if first.form ≠ .starred && first.form ≠ .named then
      if ← accept ":" then
        let value ← entryValue budget
        if ← seesAny ["for", "async"] then
          clauses budget
          expect "\x7d"
          return .plain .dictionaryComprehension .single
        let others ← entries budget
        return .literal .dictionary
          (Meaning.dictionary (Meaning.entry first.meaning value.meaning :: others)) false
    if (← seesAny ["for", "async"]) && first.form ≠ .starred then
      clauses budget
      expect "\x7d"
      return .plain .setComprehension .single
    match ← tryRead (setRest budget) with
    | some others => return .literal .set (Meaning.set (first.meaning :: others)) false
    | none =>
      -- no set: perhaps a comprehension whose targets are not in brackets
      if start.telling && (first.form = .starred || (← sees ",")) then
        goBack start
        bareTargets budget
      fail .unexpected

/-- The rest of a set behind a member. -/
def setRest : (budget : Nat) → Reader (List Meaning)
  | 0 => fail .unexpected
  | budget + 1 => do
    if ← accept "\x7d" then
      return []
    expect ","
    if ← accept "\x7d" then
      return []
    let p ← member budget
    return p.meaning :: (← setRest budget)

/-- The rest of a dictionary behind an entry. -/
def entries : (budget : Nat) → Reader (List Meaning)
  | 0 => fail .unexpected
  | budget + 1 => do
    if ← accept "\x7d" then
      return []
    expect ","
    if ← accept "\x7d" then
      return []
    if ← accept "**" then
      let _ ← chain false budget
      return .error .unpackedMapping :: (← entries budget)
    let key ← expression true budget
    if !(← accept ":") then
      failAlways .missingColon
    let value ← entryValue budget
    return Meaning.entry key.meaning value.meaning :: (← entries budget)

/-- The value of an entry behind its colon. -/
def entryValue : (budget : Nat) → Reader Part
  | 0 => fail .unexpected
  | budget + 1 => do
    if ← seesAny ["\x7d", ","] then
      failAlways .missingValue
    if ← accept "*" then
      let _ ← chain false budget
      failAlways .starredValue
    expression true budget

/-- The clauses of a comprehension, at least one. -/
def clauses : (budget : Nat) → Reader Unit
  | 0 => fail .unexpected
  | budget + 1 => do
    let _ ← accept "async"
    expect "for"
    let start ← get
    match ← tryRead (do targets budget; expect "in") with
    | some _ =>
      let _ ← chain true budget
      conditions budget
      let _ ← tryRead (clauses budget)
    | none =>
      goBack start
      if start.telling then
        wrongTargets budget
      fail .unexpected

/-- The conditions of a clause. -/
def conditions : (budget : Nat) → Reader Unit
  | 0 => fail .unexpected
  | budget + 1 => do
    let condition ← tryRead do
      expect "if"
      let _ ← chain true budget
    if condition.isSome then
      conditions budget

/-- The names that a clause binds. -/
def targets : (budget : Nat) → Reader Unit
  | 0 => fail .unexpected
  | budget + 1 => do
    let _ ← accept "*"
    let p ← suffixes (← atom budget) budget
    if p.form ≠ .name && p.form ≠ .attribute && p.form ≠ .tuple then
      fail .unexpected
    if ← accept "," then
      if !(← sees "in") then
        targets budget

/-- The fault of a clause that binds what is no name. -/
def wrongTargets : (budget : Nat) → Reader Unit
  | 0 => fail .unexpected
  | budget + 1 => do
    let _ ← accept "*"
    let start ← get
    let whole ← expression true budget
    let behind ← get
    goBack start
    -- the word `in` may belong to the clause or to a comparison that is taken for its target
    let left ← chain false budget
    let target := if ← sees "in" then left else whole
    goBack behind
    if !([Form.name, .attribute, .tuple, .comparison].contains target.form) then
      fail (.cannotAssign target.form.description)
    if ← accept "," then
      if (← peek).beginsExpression then
        wrongTargets budget

/-- The arguments of a call from an opening bracket or a comma on, with the closing bracket. -/
def arguments (seen : Seen) : (budget : Nat) → Reader Unit
  | 0 => fail .unexpected
  | budget + 1 => do
    if ← accept ")" then
      return
    let now ← argument seen budget
    if ← accept "," then
      arguments now budget
    else
      expect ")"

/-- An argument of a call, and what has been seen with it. -/
def argument (seen : Seen) : (budget : Nat) → Reader Seen
  | 0 => fail .unexpected
  | budget + 1 => do
    let now : Seen := { seen with anything := true }
    if ← accept "*" then
      if seen.mapping then
        failTelling .iterableAfterMapping
      match ← tryRead (expression true budget) with
      | some _ => return now
      | none => failTelling (if seen.anything then .iterableAfterMapping else .unexpected)
    if ← accept "**" then
      let _ ← expression true budget
      return { now with mapping := true }
    match ← peek with
    | .name _ =>
      match ← peekSecond with
      | .mark "=" =>
        advance
        advance
        let _ ← expression true budget
        if ← seesAny ["for", "async"] then
          clauses budget
          failTelling .singleEquals
        return { now with keyword := true }
      | .mark ":=" =>
        advance
        advance
        let _ ← expression true budget
        positional now
      | _ => positionalArgument now budget
    | .mark m =>
      if m = "True" || m = "False" || m = "None" then
        if (← peekSecond) = .mark "=" then
          failTelling (.cannotAssign m)
      positionalArgument now budget
    | _ => positionalArgument now budget

/-- An argument without a name. -/
def positionalArgument (seen : Seen) : (budget : Nat) → Reader Seen
  | 0 => fail .unexpected
  | budget + 1 => do
    let _ ← expression true budget
    if ← sees "=" then
      failTelling .equalsInArgument
    if ← seesAny ["for", "async"] then
      clauses budget
      if !(← sees ")") then
        failTelling .bareGenerator
    positional seen

/-- The fault of parameters in brackets, from behind the opening bracket on. -/
def bracketedParameters : (budget : Nat) → Reader Unit
  | 0 => fail .unexpected
  | budget + 1 => do
    if (← get).telling then
      match ← peek with
      | .name _ =>
        advance
        if ← accept "," then
          if !(← sees ")") then
            bracketedParameters budget
        expect ")"
        fail .bracketedParameters
      | _ => fail .unexpected

/-- The parameters of a function, with the colon behind them. -/
def parameters : (budget : Nat) → Reader Unit
  | 0 => fail .unexpected
  | budget + 1 => do
    if ← accept ":" then
      return
    match ← peek with
    | .name _ =>
      advance
      if ← accept "=" then
        let _ ← expression false budget
    | .mark "*" =>
      advance
      if let .name _ ← peek then
        advance
    | .mark "**" =>
      advance
      match ← peek with
      | .name _ => advance
      | _ => fail .unexpected
    | .mark "/" => advance
    | .mark "(" =>
      advance
      bracketedParameters budget
      fail .unexpected
    | _ => fail .unexpected
    if ← accept "," then
      parameters budget
    else
      expect ":"

end

end WorkspaceDesk.Action
