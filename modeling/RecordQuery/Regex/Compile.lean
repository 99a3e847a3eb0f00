import RecordQuery.Regex.Read
import RecordQuery.Unicode.CaseMapping
import RecordQuery.Unicode.Lookup

/-!
# Compiling patterns

The flags of each atom are resolved and its names are looked up, which gives an expression or
another fault. Without the Unicode flag classes hold bytes. Since a match has to be valid text, a
class of bytes must be one of ASCII characters, and so none can be negated.
-/

namespace RecordQuery.Regex

open Unicode (CodeSet)

namespace AsciiClass

def codes : AsciiClass → CodeSet
  | .alnum => .read "30-39 41-5A 61-7A"
  | .alpha => .read "41-5A 61-7A"
  | .ascii => .read "0-7F"
  | .blank => .read "9 20"
  | .cntrl => .read "0-1F 7F"
  | .digit => .read "30-39"
  | .graph => .read "21-7E"
  | .lower => .read "61-7A"
  | .print => .read "20-7E"
  | .punct => .read "21-2F 3A-40 5B-60 7B-7E"
  | .space => .read "9-D 20"
  | .upper => .read "41-5A"
  | .word => .read "30-39 41-5A 5F 61-7A"
  | .xdigit => .read "30-39 41-46 61-66"

end AsciiClass

def asciiCaseClosure (s : CodeSet) : CodeSet :=
  let letters (first : Nat) := (List.range 26).filter fun i => s.containsCode (first + i)
  s.union (.ofRanges ((letters 0x41).map (fun i => (0x61 + i, 0x61 + i)) ++
    (letters 0x61).map (fun i => (0x41 + i, 0x41 + i))))

namespace Flags

def closeCase (f : Flags) (s : CodeSet) : CodeSet :=
  if !f.ignoreCase then s
  else if f.unicode then Unicode.CaseMapping.closure s
  else asciiCaseClosure s

def complementIf (f : Flags) (negated : Bool) (s : CodeSet) : Except Fault CodeSet :=
  if !negated then .ok s
  else if f.unicode then .ok s.complement
  else .error .invalidEncoding

end Flags

namespace Shorthand

def codes (unicode : Bool) : Shorthand → CodeSet
  | .digit => if unicode then Unicode.Property.digit else AsciiClass.digit.codes
  | .space => if unicode then Unicode.Property.whiteSpace else AsciiClass.space.codes
  | .word => if unicode then Unicode.Property.word else AsciiClass.word.codes

end Shorthand

namespace Literal

def resolve (f : Flags) (l : Literal) : Except Fault Char :=
  if !f.unicode ∧ l.isByte ∧ 0x7F < l.char.toNat then .error .invalidEncoding else .ok l.char

def resolveInClass (f : Flags) (l : Literal) : Except Fault Char := do
  let c ← l.resolve f
  if !f.unicode ∧ 0x7F < c.toNat then .error .unicodeNotAllowed else return c

end Literal

namespace PropertyName

def codes (f : Flags) (negated : Bool) (name : PropertyName) : Except Fault CodeSet :=
  if !f.unicode then .error .unicodeNotAllowed
  else
    let found := match name with
      | .single name => Unicode.Lookup.single name
      | .valued name value => Unicode.Lookup.valued name value
    match found with
    | .ok s => f.complementIf negated (f.closeCase s)
    | .error .property => .error .unknownProperty
    | .error .value => .error .unknownPropertyValue

end PropertyName

namespace ClassTerm

def apply : ClassOperator → CodeSet → CodeSet → CodeSet
  | .intersection, s, t => s.inter t
  | .difference, s, t => s.diff t
  | .symmetricDifference, s, t => s.symmDiff t

mutual

/-- The set of a class. Letter case is ignored before anything is negated or combined. -/
def codes (f : Flags) : ClassTerm → Except Fault CodeSet
  | .literal l => (l.resolveInClass f).map .singleton
  | .range first last => do
    let a ← first.resolveInClass f
    let b ← last.resolveInClass f
    return .ofRange a b
  | .ascii c negated => f.complementIf negated (f.closeCase c.codes)
  | .shorthand s negated => f.complementIf negated (s.codes f.unicode)
  | .property name negated => name.codes f negated
  | .union items => unionCodes f items
  | .operation op left right => do
    let s ← codes f left
    let t ← codes f right
    return apply op (f.closeCase s) (f.closeCase t)
  | .bracket negated inner => do
    let s ← codes f inner
    f.complementIf negated (f.closeCase s)

def unionCodes (f : Flags) : List ClassTerm → Except Fault CodeSet
  | [] => .ok .empty
  | item :: items => do
    let s ← codes f item
    let t ← unionCodes f items
    return s.union t

end

end ClassTerm

namespace Anchor

def look (f : Flags) : Anchor → Look
  | .lineStart => if !f.multiLine then .textStart else if f.crlf then .crlfStart else .lineStart
  | .lineEnd => if !f.multiLine then .textEnd else if f.crlf then .crlfEnd else .lineEnd
  | .textStart => .textStart
  | .textEnd => .textEnd
  | .word edge => .word edge f.unicode

end Anchor

namespace Atom

def dotCodes (f : Flags) : CodeSet :=
  if f.dotAll then .full
  else if f.crlf then (CodeSet.mk [(10, 10), (13, 13)]).complement
  else (CodeSet.singleton '\n').complement

def literalRegex (f : Flags) (c : Char) : Regex :=
  if !f.ignoreCase then .char c else .chars (f.closeCase (.singleton c))

def compile (f : Flags) : Atom → Except Fault Regex
  | .literal l => (l.resolve f).map (literalRegex f)
  | .dot => if f.unicode then .ok (.chars (dotCodes f)) else .error .invalidEncoding
  | .anchor a => .ok (.look (a.look f))
  | .shorthand s negated => (f.complementIf negated (s.codes f.unicode)).map .chars
  | .property name negated => (name.codes f negated).map .chars

end Atom

namespace Term

mutual

def compile : Term → Except Fault Regex
  | .empty | .switch => .ok .empty
  | .atom a f => a.compile f
  | .bracket c f => (c.codes f).map .chars
  | .repetition least most t => t.compile.map (Regex.repetition least most)
  | .group numbered t => t.compile.map fun r => if numbered then .group r else r
  | .concat ts => compileSeq ts
  | .alternation ts => compileAlt ts

def compileSeq : List Term → Except Fault Regex
  | [] => .ok .empty
  | t :: ts => do
    let r ← t.compile
    let s ← compileSeq ts
    return .seq r s

def compileAlt : List Term → Except Fault Regex
  | [] => .ok (.chars .empty)
  | [t] => t.compile
  | t :: ts => do
    let r ← t.compile
    let s ← compileAlt ts
    return .alt r s

end

end Term

def compile (pattern : List Char) : Except Fault Regex := do (← Term.read pattern).compile

end RecordQuery.Regex
