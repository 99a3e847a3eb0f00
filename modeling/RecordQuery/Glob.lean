import RecordQuery.Pattern.Engine

/-!
# Globs

A glob describes a whole string: `*` stands for any run of characters, `?` for exactly one, and
every other character for itself. `Glob.pattern` writes a glob as a regular expression, in which a
dot also stands for a line break and which is anchored at both ends.
-/

namespace RecordQuery.Glob

open Pattern

def wildcard? : Char → Option String
  | '*' => some ".*"
  | '?' => some "."
  | _ => none

/-- What has been written of an expression, and the characters since the last wildcard, which are
still to be escaped. -/
structure Writer where
  out : String
  literal : String

variable [Engine]

namespace Writer

def flush (w : Writer) : Writer := ⟨w.out ++ Engine.escape w.literal, ""⟩

def step (w : Writer) (c : Char) : Writer :=
  match wildcard? c with
  | some mark => ⟨w.flush.out ++ mark, w.flush.literal⟩
  | none => ⟨w.out, w.literal.push c⟩

end Writer

def pattern (glob : String) : String :=
  (glob.toList.foldl Writer.step ⟨"(?s)^", ""⟩).flush.out ++ "$"

end RecordQuery.Glob
