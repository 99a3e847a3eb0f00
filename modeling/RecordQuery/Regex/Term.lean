import RecordQuery.Regex.Basic

/-!
# Terms

A term is a regular expression as it is written, after it has been taken apart into groups,
repetitions and atoms. Each atom carries the flags in force where it stands.
-/

namespace RecordQuery.Regex

inductive Flag where
  | ignoreCase
  | multiLine
  | dotAll
  | swapGreed
  | unicode
  | crlf
  | verbose
deriving DecidableEq

def Flag.ofLetter? : Char → Option Flag
  | 'i' => some .ignoreCase
  | 'm' => some .multiLine
  | 's' => some .dotAll
  | 'U' => some .swapGreed
  | 'u' => some .unicode
  | 'R' => some .crlf
  | 'x' => some .verbose
  | _ => none

/-- The flags in force. Greed has no place among them: it decides which match is found and not
whether there is one. -/
structure Flags where
  ignoreCase : Bool
  multiLine : Bool
  dotAll : Bool
  unicode : Bool
  crlf : Bool
  verbose : Bool
deriving DecidableEq

namespace Flags

def initial : Flags :=
  { ignoreCase := false, multiLine := false, dotAll := false, unicode := true, crlf := false,
    verbose := false }

def set (f : Flags) (on : Bool) : Flag → Flags
  | .ignoreCase => { f with ignoreCase := on }
  | .multiLine => { f with multiLine := on }
  | .dotAll => { f with dotAll := on }
  | .swapGreed => f
  | .unicode => { f with unicode := on }
  | .crlf => { f with crlf := on }
  | .verbose => { f with verbose := on }

def switch (f : Flags) (on : Bool) : List (Option Flag) → Flags
  | [] => f
  | none :: rest => f.switch false rest
  | some g :: rest => (f.set on g).switch on rest

end Flags

inductive Anchor where
  | lineStart
  | lineEnd
  | textStart
  | textEnd
  | word (edge : WordEdge)

/-- A written character. Two hexadecimal digits give a byte, which is a character only where
Unicode is on or the byte is below 128. -/
structure Literal where
  char : Char
  isByte : Bool

inductive Shorthand where
  | digit
  | space
  | word

inductive PropertyName where
  | single (name : List Char)
  | valued (name value : List Char)

inductive Atom where
  | literal (l : Literal)
  | dot
  | anchor (a : Anchor)
  | shorthand (s : Shorthand) (negated : Bool)
  | property (name : PropertyName) (negated : Bool)

inductive AsciiClass where
  | alnum
  | alpha
  | ascii
  | blank
  | cntrl
  | digit
  | graph
  | lower
  | print
  | punct
  | space
  | upper
  | word
  | xdigit

inductive ClassOperator where
  | intersection
  | difference
  | symmetricDifference

inductive ClassTerm where
  | literal (l : Literal)
  | range (first last : Literal)
  | ascii (c : AsciiClass) (negated : Bool)
  | shorthand (s : Shorthand) (negated : Bool)
  | property (name : PropertyName) (negated : Bool)
  | union (items : List ClassTerm)
  | operation (op : ClassOperator) (left right : ClassTerm)
  | bracket (negated : Bool) (inner : ClassTerm)

inductive Term where
  | empty
  | switch
  | atom (a : Atom) (flags : Flags)
  | bracket (c : ClassTerm) (flags : Flags)
  | repetition (least : Nat) (most : Option Nat) (t : Term)
  | group (numbered : Bool) (t : Term)
  | concat (ts : List Term)
  | alternation (ts : List Term)

namespace ClassTerm

def ofItems : List ClassTerm → ClassTerm
  | [c] => c
  | cs => .union cs

mutual

def depth : ClassTerm → Nat
  | .union [] => 0
  | .union (c :: cs) => max c.depth (depthList cs) + 1
  | .operation _ left right => max left.depth right.depth + 1
  | .bracket _ inner => inner.depth + 1
  | _ => 0

def depthList : List ClassTerm → Nat
  | [] => 0
  | c :: cs => max c.depth (depthList cs)

end

end ClassTerm

namespace Term

def ofConcat : List Term → Term
  | [] => .empty
  | [t] => t
  | ts => .concat ts

def ofAlternatives : List Term → Term
  | [t] => t
  | ts => .alternation ts

mutual

def depth : Term → Nat
  | .bracket c _ => c.depth
  | .repetition _ _ t => t.depth + 1
  | .group _ t => t.depth + 1
  | .concat ts => depthList ts + 1
  | .alternation ts => depthList ts + 1
  | _ => 0

def depthList : List Term → Nat
  | [] => 0
  | t :: ts => max t.depth (depthList ts)

end

end Term

end RecordQuery.Regex
