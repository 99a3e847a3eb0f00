import RecordQuery.Pattern.Engine

/-!
# What engines document

The parts of regular expressions that globs are written with, and what an engine documents of
expressions put together from them: they are well-formed, and a search succeeds if the parts match
one after another somewhere in the string. A position in a string is given by what comes before it
and what comes after it.
-/

namespace RecordQuery.Pattern

inductive Part where
  /-- From here on a dot stands for a line break too. -/
  | dotAll
  | start
  | stop
  | dot
  | dots
  | text (s : String)

section

variable [Engine]

def Part.spelling : Part → String
  | .dotAll => "(?s)"
  | .start => "^"
  | .stop => "$"
  | .dot => "."
  | .dots => ".*"
  | .text s => Engine.escape s

def spelling : List Part → String
  | [] => ""
  | part :: parts => part.spelling ++ spelling parts

end

def DotMatches (dotAll : Bool) (c : Char) : Prop := dotAll = true ∨ c ≠ '\n'

/-- The parts match from a position on. -/
def Finds (dotAll : Bool) (before after : List Char) : List Part → Prop
  | [] => True
  | .dotAll :: parts => Finds true before after parts
  | .start :: parts => before = [] ∧ Finds dotAll before after parts
  | .stop :: parts => after = [] ∧ Finds dotAll before after parts
  | .dot :: parts =>
    ∃ c rest, after = c :: rest ∧ DotMatches dotAll c ∧ Finds dotAll (before ++ [c]) rest parts
  | .dots :: parts =>
    ∃ run rest, after = run ++ rest ∧ (∀ c ∈ run, DotMatches dotAll c) ∧
      Finds dotAll (before ++ run) rest parts
  | .text s :: parts =>
    ∃ rest, after = s.toList ++ rest ∧ Finds dotAll (before ++ s.toList) rest parts

class Documented [Engine] : Prop where
  not_malformed (parts : List Part) (text : String) :
    Engine.compile (spelling parts) ≠ .error (.malformed text)
  isMatch_iff {parts : List Part} {r : Program} (h : Engine.compile (spelling parts) = .ok r)
    (subject : String) : r.isMatch subject = true ↔
      ∃ before after, subject.toList = before ++ after ∧ Finds false before after parts

end RecordQuery.Pattern
