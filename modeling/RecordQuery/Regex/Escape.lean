import RecordQuery.Regex.Blank
import RecordQuery.Regex.Fault
import RecordQuery.Regex.Term

/-!
# Escapes

What a backslash and the characters after it stand for.
-/

namespace RecordQuery.Regex

namespace Escape

def metaCharacters : List Char :=
  ['\\', '.', '+', '*', '?', '(', ')', '|', '[', ']', '\x7b', '\x7d', '^', '$', '#', '&', '-', '~']

def isMeta (c : Char) : Bool := metaCharacters.contains c

def protect (c : Char) : List Char := if isMeta c then ['\\', c] else [c]

/-- The characters that stand for themselves after a backslash. Letters and digits are kept back for
escapes of other kinds, and so are the angle brackets. -/
def isPlain (c : Char) : Bool :=
  isMeta c || (c.toNat < 128 && !c.isAlphanum && c != '<' && c != '>')

def control? : Char → Option Char
  | 'a' => some '\x07'
  | 'f' => some '\x0c'
  | 't' => some '\t'
  | 'n' => some '\n'
  | 'r' => some '\r'
  | 'v' => some '\x0b'
  | _ => none

def anchor? : Char → Option Anchor
  | 'A' => some .textStart
  | 'z' => some .textEnd
  | 'B' => some (.word .interior)
  | '<' => some (.word .start)
  | '>' => some (.word .stop)
  | _ => none

def shorthand? : Char → Option Atom
  | 'd' => some (.shorthand .digit false)
  | 's' => some (.shorthand .space false)
  | 'w' => some (.shorthand .word false)
  | 'D' => some (.shorthand .digit true)
  | 'S' => some (.shorthand .space true)
  | 'W' => some (.shorthand .word true)
  | _ => none

def hexDigit? (c : Char) : Option Nat :=
  if c.isDigit then some (c.toNat - '0'.toNat)
  else if 'a' ≤ c ∧ c ≤ 'f' then some (c.toNat - 'a'.toNat + 10)
  else if 'A' ≤ c ∧ c ≤ 'F' then some (c.toNat - 'A'.toNat + 10)
  else none

def scalar (digits : List Nat) : Except Fault Char :=
  let n := digits.foldl (fun n d => 16 * n + d) 0
  if n.isValidChar then .ok (.ofNat n) else .error .hexNotScalar

def readHexDigits (verbose : Bool) : Nat → List Char → Except Fault (List Nat × List Char)
  | 0, s => .ok ([], s)
  | n + 1, s =>
    match skipBlank verbose s with
    | [] => .error .unfinishedEscape
    | c :: rest =>
      match hexDigit? c with
      | none => .error .hexDigit
      | some d => (readHexDigits verbose n rest).map fun (ds, rest) => (d :: ds, rest)

def readHexBraces (verbose : Bool) (s : List Char) : Except Fault (Char × List Char) :=
  let (digits, rest) := takeSpaced verbose (· != '\x7d') (skipBlank verbose s)
  match digits.mapM hexDigit? with
  | none => .error .hexDigit
  | some ds =>
    match rest with
    | [] => .error .unfinishedEscape
    | _ :: rest => if ds.isEmpty then .error .emptyHex else (scalar ds).map fun c => (c, rest)

def hexLength? : Char → Option Nat
  | 'x' => some 2
  | 'u' => some 4
  | 'U' => some 8
  | _ => none

def readHex (verbose : Bool) (length : Nat) (s : List Char) : Except Fault (Atom × List Char) :=
  match skipBlank verbose s with
  | [] => .error .unfinishedEscape
  | '\x7b' :: rest =>
    (readHexBraces verbose rest).map fun (c, rest) => (.literal ⟨c, false⟩, rest)
  | s => do
    let (ds, rest) ← readHexDigits verbose length s
    let c ← scalar ds
    return (.literal ⟨c, length == 2⟩, rest)

def cut (separator : List Char) : List Char → Option (List Char × List Char)
  | [] => none
  | c :: rest =>
    if separator.isPrefixOf (c :: rest) then some ([], (c :: rest).drop separator.length)
    else (cut separator rest).map fun (before, after) => (c :: before, after)

def propertyName (s : List Char) : PropertyName :=
  match cut ['!', '='] s <|> cut [':'] s <|> cut ['='] s with
  | some (name, value) => .valued name value
  | none => .single s

def readProperty (verbose negated : Bool) (s : List Char) : Except Fault (Atom × List Char) :=
  match skipBlank verbose s with
  | [] => .error .unfinishedEscape
  | '\x7b' :: rest =>
    let (name, rest) := takeSpaced verbose (· != '\x7d') (skipBlank verbose rest)
    match rest with
    | [] => .error .unfinishedEscape
    | _ :: rest => .ok (.property (propertyName name) negated, rest)
  | c :: rest =>
    if c = '\\' then .error .propertyLetter
    else .ok (.property (.single [c]) negated, rest)

def wordEdge? : List Char → Option WordEdge
  | ['s', 't', 'a', 'r', 't'] => some .start
  | ['e', 'n', 'd'] => some .stop
  | ['s', 't', 'a', 'r', 't', '-', 'h', 'a', 'l', 'f'] => some .startHalf
  | ['e', 'n', 'd', '-', 'h', 'a', 'l', 'f'] => some .stopHalf
  | _ => none

def readWordEdge (verbose : Bool) (s : List Char) : Except Fault (Atom × List Char) :=
  match s with
  | '\x7b' :: rest =>
    match skipBlank verbose rest with
    | [] => .error .unfinishedWordEdge
    | c :: rest =>
      if isNameChar c then
        let (name, rest) := takeSpaced verbose isNameChar (c :: rest)
        match rest with
        | '\x7d' :: rest =>
          match wordEdge? name with
          | some edge => .ok (.anchor (.word edge), rest)
          | none => .error .unknownWordEdge
        | _ => .error .wordEdgeCharacter
      else .ok (.anchor (.word .boundary), s)
  | _ => .ok (.anchor (.word .boundary), s)
where
  isNameChar (c : Char) : Bool := c.isAlpha || c == '-'

def readLetter (verbose : Bool) (c : Char) (rest : List Char) : Except Fault (Atom × List Char) :=
  if isPlain c then .ok (.literal ⟨c, false⟩, rest)
  else if c.isDigit then .error .backreference
  else if c = 'b' then readWordEdge verbose rest
  else if c = 'p' ∨ c = 'P' then readProperty verbose (c == 'P') rest
  else
    match hexLength? c with
    | some length => readHex verbose length rest
    | none =>
      match shorthand? c with
      | some a => .ok (a, rest)
      | none =>
        match control? c with
        | some d => .ok (.literal ⟨d, false⟩, rest)
        | none =>
          match anchor? c with
          | some a => .ok (.anchor a, rest)
          | none => .error .unknownEscape

def read (verbose : Bool) : List Char → Except Fault (Atom × List Char)
  | [] => .error .unfinishedEscape
  | c :: rest => readLetter verbose c rest

end Escape

end RecordQuery.Regex
