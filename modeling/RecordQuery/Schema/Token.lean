import RecordQuery.Unicode.Property

/-!
# Tokens of attributes

Attributes of record declarations are written in tokens: words, literals, marks, and groups of
tokens between brackets.
-/

namespace RecordQuery.Schema

open Unicode (CodeIndex)

inductive Delimiter where
  | paren
  | bracket
  | brace
deriving DecidableEq

inductive Token where
  | word (name : String)
  | text (value : String)
  | literal
  | lifetime
  /-- One character of punctuation, and whether another one follows it at once. -/
  | mark (c : Char) (joined : Bool)
  | group (d : Delimiter) (inner : List Token)

inductive Lexeme where
  | token (t : Token)
  | opening (d : Delimiter)
  | closing (d : Delimiter)

namespace Lexeme

def startIndex : CodeIndex := .ofSet Unicode.Property.xidStart

def continueIndex : CodeIndex := .ofSet Unicode.Property.xidContinue

def spaceIndex : CodeIndex := .ofSet Unicode.Property.whiteSpace

def isStart (c : Char) : Bool :=
  c == '_' || if c.toNat < 128 then c.isAlpha else startIndex.contains c

def isContinue (c : Char) : Bool :=
  if c.toNat < 128 then c.isAlphanum || c == '_' else continueIndex.contains c

def isSpace (c : Char) : Bool := spaceIndex.contains c

def opening? : Char → Option Delimiter
  | '(' => some .paren
  | '[' => some .bracket
  | '\x7b' => some .brace
  | _ => none

def closing? : Char → Option Delimiter
  | ')' => some .paren
  | ']' => some .bracket
  | '\x7d' => some .brace
  | _ => none

def marks : List Char := "~!@#$%^&*-=+|;:,<.>/?".toList

def isMark (c : Char) : Bool := marks.contains c

/-! ### Literals -/

def hexDigit? (c : Char) : Option Nat :=
  if c.isDigit then some (c.toNat - '0'.toNat)
  else if 'a' ≤ c ∧ c ≤ 'f' then some (c.toNat - 'a'.toNat + 10)
  else if 'A' ≤ c ∧ c ≤ 'F' then some (c.toNat - 'A'.toNat + 10)
  else none

def numbered (digits : List Char) : Option Char := do
  let ds ← digits.mapM hexDigit?
  let n := ds.foldl (fun n d => 16 * n + d) 0
  if n.isValidChar ∧ ds ≠ [] then some (.ofNat n) else none

def escape : List Char → Option (List Char × List Char)
  | 'n' :: rest => some (['\n'], rest)
  | 'r' :: rest => some (['\r'], rest)
  | 't' :: rest => some (['\t'], rest)
  | '0' :: rest => some ([.ofNat 0], rest)
  | '\\' :: rest => some (['\\'], rest)
  | '\'' :: rest => some (['\''], rest)
  | '"' :: rest => some (['"'], rest)
  | 'x' :: a :: b :: rest => (numbered [a, b]).map fun c => ([c], rest)
  | 'u' :: '\x7b' :: rest =>
    match rest.dropWhile (· != '\x7d') with
    | _ :: after =>
      (numbered ((rest.takeWhile (· != '\x7d')).filter (· != '_'))).map fun c => ([c], after)
    | [] => none
  | '\n' :: rest | '\r' :: rest => some ([], rest.dropWhile isSpace)
  | _ => none

def stringValue : (fuel : Nat) → List Char → Option (List Char × List Char)
  | 0, _ => none
  | fuel + 1, s =>
    match s with
    | [] => none
    | '"' :: rest => some ([], rest)
    | '\r' :: '\n' :: rest => (stringValue fuel rest).map fun (value, rest) => ('\n' :: value, rest)
    | '\\' :: rest => do
      let (cs, rest) ← escape rest
      let (value, rest) ← stringValue fuel rest
      return (cs ++ value, rest)
    | c :: rest => (stringValue fuel rest).map fun (value, rest) => (c :: value, rest)

def skipSuffix : List Char → List Char
  | c :: rest => if isStart c then rest.dropWhile isContinue else c :: rest
  | [] => []

def skipQuoted (quote : Char) : List Char → Option (List Char)
  | [] => none
  | [c] => if c = quote then some [] else none
  | c :: d :: rest =>
    if c = quote then some (d :: rest)
    else if c = '\\' then skipQuoted quote rest
    else skipQuoted quote (d :: rest)

/-- The value of a raw string literal after its opening quotation mark: it ends at a quotation mark
with as many number signs as it began with. -/
def rawValue (hashes : Nat) : List Char → Option (List Char × List Char)
  | [] => none
  | c :: rest =>
    if c = '"' ∧ (rest.take hashes) = List.replicate hashes '#' then some ([], rest.drop hashes)
    else (rawValue hashes rest).map fun (value, rest) => (c :: value, rest)

def rawString? (s : List Char) : Option (List Char × List Char) :=
  let hashes := (s.takeWhile (· == '#')).length
  match s.drop hashes with
  | '"' :: rest => rawValue hashes rest
  | _ => none

/-- Skips a number after its first digit: letters, digits, and a fraction. A point before another
point or a name is not part of the number. -/
def skipNumber (s : List Char) : List Char :=
  match s.dropWhile isContinue with
  | '.' :: rest =>
    if rest.head?.any fun c => c == '.' || isStart c then '.' :: rest
    else rest.dropWhile isContinue
  | rest => rest

def literalTo (quote : Char) (s : List Char) : Option (Token × List Char) :=
  (skipQuoted quote s).map fun rest => (.literal, skipSuffix rest)

def word (s : List Char) : Option (Token × List Char) :=
  match s with
  | 'r' :: rest =>
    match rawString? rest, rest with
    | some (value, rest), _ => some (.text (.ofList value), skipSuffix rest)
    | none, '#' :: rest =>
      some (.word ("r#" ++ .ofList (rest.takeWhile isContinue)), rest.dropWhile isContinue)
    | none, _ => plain
  | 'b' :: 'r' :: rest | 'c' :: 'r' :: rest =>
    match rawString? rest with
    | some (_, rest) => some (.literal, skipSuffix rest)
    | none => plain
  | 'b' :: '"' :: rest | 'c' :: '"' :: rest => literalTo '"' rest
  | 'b' :: '\'' :: rest => literalTo '\'' rest
  | _ => plain
where
  plain : Option (Token × List Char) :=
    some (.word (.ofList (s.takeWhile isContinue)), s.dropWhile isContinue)

def afterQuote : List Char → Option (Token × List Char)
  | '\\' :: rest => literalTo '\'' ('\\' :: rest)
  | _ :: '\'' :: rest => some (.literal, skipSuffix rest)
  | c :: rest => if isStart c then some (.lifetime, rest.dropWhile isContinue) else none
  | [] => none

def skipComment : (depth : Nat) → List Char → List Char
  | _, [] => []
  | _, [_] => []
  | depth, c :: d :: rest =>
    if c = '*' ∧ d = '/' then
      match depth with
      | 0 | 1 => rest
      | depth + 1 => skipComment depth rest
    else if c = '/' ∧ d = '*' then skipComment (depth + 1) rest
    else skipComment depth (d :: rest)

def next (c : Char) (rest : List Char) : Option (Lexeme × List Char) :=
  if let some d := opening? c then some (.opening d, rest)
  else if let some d := closing? c then some (.closing d, rest)
  else if isMark c then
    some (.token (.mark c (rest.head?.any isMark)), rest)
  else if c = '"' then
    (stringValue (rest.length + 1) rest).map fun (value, rest) =>
      (.token (.text (.ofList value)), skipSuffix rest)
  else if c = '\'' then (afterQuote rest).map fun (t, rest) => (.token t, rest)
  else if c.isDigit then some (.token .literal, skipNumber rest)
  else if isStart c then (word (c :: rest)).map fun (t, rest) => (.token t, rest)
  else none

def ofChars : (fuel : Nat) → List Char → Option (List Lexeme)
  | 0, s => if s.isEmpty then some [] else none
  | fuel + 1, s =>
    match s with
    | [] => some []
    | '/' :: '/' :: rest => ofChars fuel (rest.dropWhile (· != '\n'))
    | '/' :: '*' :: rest => ofChars fuel (skipComment 1 rest)
    | c :: rest =>
      if isSpace c then ofChars fuel rest
      else do
        let (l, rest) ← next c rest
        return l :: (← ofChars fuel rest)

end Lexeme

namespace Token

/-- Puts lexemes together into groups. The groups that are open are given with the tokens before
them, and of the innermost one the tokens so far, both latest first. -/
def gather : (outer : List (Delimiter × List Token)) → (inner : List Token) → List Lexeme →
    Option (List Token)
  | [], inner, [] => some inner.reverse
  | _ :: _, _, [] => none
  | outer, inner, .token t :: rest => gather outer (t :: inner) rest
  | outer, inner, .opening d :: rest => gather ((d, inner) :: outer) [] rest
  | (d, before) :: outer, inner, .closing e :: rest =>
    if d = e then gather outer (.group d inner.reverse :: before) rest else none
  | [], _, .closing _ :: _ => none

def read (text : String) : Option (List Token) := do
  let s := text.toList
  gather [] [] (← Lexeme.ofChars s.length s)

end Token

end RecordQuery.Schema
