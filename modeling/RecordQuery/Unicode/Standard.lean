import RecordQuery.Text.CharData
import RecordQuery.Unicode.CaseMapping
import RecordQuery.Unicode.CombiningClass
import RecordQuery.Unicode.Decomposition
import RecordQuery.Unicode.Property
import RecordQuery.Unicode.Spelling

/-!
# Character data of the Unicode standard

The tables, put together into the data that folding needs. Hangul syllables decompose and compose
by arithmetic on their code points.
-/

namespace RecordQuery.Unicode

namespace Hangul

def syllableBase : Nat := 0xAC00
def leadBase : Nat := 0x1100
def vowelBase : Nat := 0x1161
def tailBase : Nat := 0x11A7
def leadCount : Nat := 19
def vowelCount : Nat := 21
def tailCount : Nat := 28

def decompose? (c : Nat) : Option (List Nat) :=
  if syllableBase ≤ c ∧ c < syllableBase + leadCount * vowelCount * tailCount then
    let i := c - syllableBase
    let lead := leadBase + i / (vowelCount * tailCount)
    let vowel := vowelBase + i % (vowelCount * tailCount) / tailCount
    let tail := tailBase + i % tailCount
    some (if tail = tailBase then [lead, vowel] else [lead, vowel, tail])
  else none

def compose? (a b : Nat) : Option Nat :=
  if leadBase ≤ a ∧ a < leadBase + leadCount ∧ vowelBase ≤ b ∧ b < vowelBase + vowelCount then
    some (syllableBase + ((a - leadBase) * vowelCount + (b - vowelBase)) * tailCount)
  else if syllableBase ≤ a ∧ a < syllableBase + leadCount * vowelCount * tailCount ∧
      (a - syllableBase) % tailCount = 0 ∧ tailBase < b ∧ b < tailBase + tailCount then
    some (a + (b - tailBase))
  else none

end Hangul

def decomposeCode : (depth : Nat) → Nat → List Nat
  | 0, c => [c]
  | depth + 1, c =>
    match Decomposition.listed[c]? with
    | some parts => parts.flatMap (decomposeCode depth)
    | none => [c]

def markIndex : CodeIndex := .ofSet Property.marks

def casedIndex : CodeIndex := .ofSet Property.cased

def caseIgnorableIndex : CodeIndex := .ofSet Property.caseIgnorable

def alphabeticIndex : CodeIndex := .ofSet Property.alphabetic

-- the tables have nothing to say about ASCII, and are not consulted for it

def isMarkChar (c : Char) : Bool := 0x300 ≤ c.toNat && markIndex.contains c

def decomposeChar (c : Char) : List Char :=
  if c.toNat < 0xC0 then [c]
  else ((Hangul.decompose? c.toNat).getD (decomposeCode 4 c.toNat)).map Char.ofNat

def composeChars (a b : Char) : Option Char :=
  if b.toNat < 0x300 then none
  else
    (Hangul.compose? a.toNat b.toNat <|> Decomposition.composites[(a.toNat, b.toNat)]?).map
      Char.ofNat

/-- The dotted capital I is the only letter whose lower-case form has two characters. -/
def lowercaseChar (c : Char) : List Char :=
  if c.toNat < 128 then [c.toLower]
  else if c = 'İ' then ['i', '\u0307']
  else [.ofNat (CaseMapping.lowercase.apply c.toNat)]

/-- A letter with marks is spelt as its base. -/
def spellChar (c : Char) : Option (List Char) :=
  match decomposeChar c with
  | [] => none
  | base :: _ => if base.toNat < 128 then some [base] else Spelling.listed[base.toNat]?

instance standard : CharData where
  isMark := isMarkChar
  combiningClass c := if isMarkChar c then CombiningClass.of c.toNat else 0
  decompose := decomposeChar
  compose := composeChars
  lowercase := lowercaseChar
  isCased c := c.isAlpha || casedIndex.contains c
  isCaseIgnorable c := !c.isAlpha && caseIgnorableIndex.contains c
  isAlphabetic := alphabeticIndex.contains
  asciiSpelling := spellChar

end RecordQuery.Unicode
