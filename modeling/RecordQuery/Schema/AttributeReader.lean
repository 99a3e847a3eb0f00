import RecordQuery.Schema.ValueTerm

/-!
# Reading attributes

A grammar for attributes. Of the values in them it reads string literals, and of other expressions
where they end.
-/

namespace RecordQuery.Schema

namespace Path

def readSegments : List Token → Except Misplaced (List String × List Token)
  | .mark ':' true :: .mark ':' _ :: .word name :: ts =>
    if isSegment name then (readSegments ts).map fun (names, ts) => (name :: names, ts)
    else .error ⟨.pathSegment, false⟩
  | .mark ':' true :: .mark ':' _ :: ts => .error (.before .pathSegment ts)
  | ts => .ok ([], ts)

def readNames (fromRoot : Bool) : List Token → Except Misplaced (Path × List Token)
  | .word name :: ts =>
    if isSegment name then
      (readSegments ts).map fun (names, ts) => (⟨fromRoot, name :: names⟩, ts)
    else .error ⟨.identifierNot name, false⟩
  | ts => .error (.before .identifier ts)

def read : List Token → Except Misplaced (Path × List Token)
  | .word "unsafe" :: ts => .ok (⟨false, ["unsafe"]⟩, ts)
  | .mark ':' true :: .mark ':' _ :: ts => readNames true ts
  | ts => readNames false ts

end Path

namespace Attribute

def read (ts : List Token) : Except Misplaced (Attribute × List Token) := do
  let (p, ts) ← Path.read ts
  match ts with
  | .group _ inner :: ts => return (.list p inner, ts)
  | .mark '=' _ :: ts =>
    let (text, ts) ← ValueTerm.read ts
    return (.value p text, ts)
  | ts => return (.word p, ts)

/-- Reads a list of attributes. Each takes at least one token, so that `fuel` need only be as large
as there are tokens. -/
def readList : (fuel : Nat) → List Token → Except Misplaced (List Attribute)
  | 0, _ | _, [] => .ok []
  | fuel + 1, ts =>
    match read ts with
    | .error e => .error e
    | .ok (a, []) => .ok [a]
    | .ok (a, .mark ',' _ :: rest) => (readList fuel rest).map (a :: ·)
    | .ok (_, rest) => .error (.before .comma rest)

def ofTokens (ts : List Token) : Except Misplaced (List Attribute) := readList ts.length ts

def ofText (text : String) : Except Misplaced Attribute := do
  match Token.read text with
  | none => .error ⟨.nothing, false⟩
  | some ts =>
    match ← read ts with
    | (a, []) => return a
    | _ => .error ⟨.nothing, false⟩

end Attribute

instance Grammar.standard : Grammar where
  item ts := (Attribute.read ts).mapError Misplaced.message
  list ts := (Attribute.ofTokens ts).mapError Misplaced.message

end RecordQuery.Schema
