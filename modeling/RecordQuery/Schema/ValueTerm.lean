import RecordQuery.Schema.Attribute

/-!
# Values in attributes

The value of an attribute may be any expression, but only a string literal means something. What
has to be known of other expressions is where they end.
-/

namespace RecordQuery.Schema

inductive Expectation where
  | comma
  | identifier
  | identifierNot (keyword : String)
  | pathSegment
  | value
  | plainValue
  | nothing

structure Misplaced where
  expected : Expectation
  atEnd : Bool

namespace Misplaced

def before (expected : Expectation) (rest : List Token) : Misplaced := ⟨expected, rest.isEmpty⟩

def message (m : Misplaced) : String :=
  (if m.atEnd then "unexpected end of input, " else "") ++
    match m.expected with
    | .comma => "expected `,`"
    | .identifier => "expected identifier"
    | .identifierNot keyword => "expected identifier, found keyword `" ++ keyword ++ "`"
    | .pathSegment => "expected path segment after `::`"
    | .value => "expected an expression"
    | .plainValue => "unexpected attribute inside of attribute"
    | .nothing => "unexpected token"

end Misplaced

namespace ValueTerm

def operators : List (List Char) :=
  ["<<=", ">>=", "..=", "&&", "||", "==", "!=", "<=", ">=", "<<", ">>", "+=", "-=", "*=", "/=",
    "%=", "^=", "&=", "|=", "..", "+", "-", "*", "/", "%", "^", "&", "|", "<", ">",
    "="].map String.toList

def skipMarks : List Char → List Token → Option (List Token)
  | [], ts => some ts
  | [c], .mark d _ :: ts => if c = d then some ts else none
  | c :: cs, .mark d true :: ts => if c = d then skipMarks cs ts else none
  | _, _ => none

def skipOperator? (ts : List Token) : Option (List Token) :=
  if (skipMarks ['=', '>'] ts).isSome then none else operators.findSome? (skipMarks · ts)

def isEnd : List Token → Bool
  | [] | .mark ',' _ :: _ => true
  | _ => false

def skipOpenRange? (ts : List Token) : Option (List Token) :=
  (skipMarks ['.', '.'] ts).filter isEnd

def blockWords : List String :=
  ["if", "match", "while", "for", "loop", "unsafe", "async", "const", "try"]

def jumpWords : List String := ["return", "break", "continue", "yield"]

def skipBlock (start : List Token) : List Token → Except Misplaced (List Token)
  | [] => .error (.before .value start)
  | .group .brace _ :: .word "else" :: ts => skipBlock start ts
  | .group .brace _ :: ts => .ok ts
  | _ :: ts => skipBlock start ts

def skipParameters : List Token → List Token
  | [] => []
  | .mark '|' _ :: ts => ts
  | _ :: ts => skipParameters ts

def skipArguments : (depth : Nat) → List Token → List Token
  | _, [] => []
  | 0, .mark '>' _ :: ts => ts
  | depth + 1, .mark '>' _ :: ts => skipArguments depth ts
  | depth, .mark '<' _ :: ts => skipArguments (depth + 1) ts
  | depth, _ :: ts => skipArguments depth ts

def skipSegments : (fuel : Nat) → List Token → List Token
  | 0, ts => ts
  | fuel + 1, ts =>
    match skipMarks [':', ':'] ts with
    | some (.word _ :: rest) => skipSegments fuel rest
    | some (.mark '<' _ :: rest) => skipSegments fuel (skipArguments 0 rest)
    | _ => ts

def skipPathEnd : List Token → List Token
  | .mark '!' _ :: .group _ _ :: ts => ts
  | .group .brace _ :: ts => ts
  | ts => ts

mutual

def skip : (fuel : Nat) → List Token → Except Misplaced (List Token)
  | 0, ts => .error (.before .value ts)
  | fuel + 1, ts =>
    match skipOperand fuel ts with
    | .error e => .error e
    | .ok rest =>
      match skipOpenRange? rest, skipOperator? rest with
      | some after, _ => .ok after
      | none, some after => skip fuel after
      | none, none => .ok rest

def skipOperand : (fuel : Nat) → List Token → Except Misplaced (List Token)
  | 0, ts => .error (.before .value ts)
  | fuel + 1, ts =>
    match ts with
    | .mark '.' true :: .mark '.' _ :: _ =>
      match skipOpenRange? ts, skipOperator? ts with
      | some after, _ => .ok after
      | none, some after => skip fuel after
      | none, none => .error ⟨.value, false⟩
    | .mark '-' _ :: ts | .mark '!' _ :: ts | .mark '*' _ :: ts => skipOperand fuel ts
    | .mark '&' _ :: .word "mut" :: ts | .mark '&' _ :: ts => skipOperand fuel ts
    | .mark '|' _ :: ts => skip fuel (skipParameters ts)
    | .mark ':' true :: .mark ':' _ :: .word name :: ts =>
      if isSegment name then skipSuffix fuel (skipPathEnd (skipSegments fuel ts))
      else .error ⟨.value, false⟩
    | .mark '<' _ :: ts => skipSuffix fuel (skipPathEnd (skipSegments fuel (skipArguments 0 ts)))
    | .text _ :: ts | .literal :: ts | .group _ _ :: ts => skipSuffix fuel ts
    | .word name :: ts =>
      if name = "true" ∨ name = "false" ∨ name = "_" then skipSuffix fuel ts
      else if blockWords.contains name then
        match skipBlock ts ts with
        | .error e => .error e
        | .ok rest => skipSuffix fuel rest
      else if jumpWords.contains name then if isEnd ts then .ok ts else skip fuel ts
      else if name = "move" then skipOperand fuel ts
      else if isSegment name then skipSuffix fuel (skipPathEnd (skipSegments fuel ts))
      else .error ⟨.value, false⟩
    | ts => .error (.before .value ts)

def skipSuffix : (fuel : Nat) → List Token → Except Misplaced (List Token)
  | 0, ts => .ok ts
  | fuel + 1, ts =>
    match ts with
    | .mark '.' false :: .word _ :: ts => skipSuffix fuel (skipSegments fuel ts)
    | .mark '.' false :: .literal :: ts => skipSuffix fuel ts
    | .mark '?' _ :: ts => skipSuffix fuel ts
    | .group .paren _ :: ts | .group .bracket _ :: ts => skipSuffix fuel ts
    | .word "as" :: .word _ :: ts => skipSuffix fuel (skipSegments fuel ts)
    | ts => .ok ts

end

/-- Reads an expression: its value if it is a string literal and nothing else, and the rest. -/
def read (ts : List Token) : Except Misplaced (Option String × List Token) :=
  match ts with
  | .mark '#' _ :: .group .bracket _ :: _ => .error ⟨.plainValue, false⟩
  | .text value :: after =>
    (skipAll ts).map fun rest => (if rest.length = after.length then some value else none, rest)
  | _ => (skipAll ts).map fun rest => (none, rest)
where
  /-- Each step takes at least one token, or leads to a step that does. -/
  skipAll (ts : List Token) : Except Misplaced (List Token) := skip (2 * ts.length + 2) ts

end ValueTerm

end RecordQuery.Schema
