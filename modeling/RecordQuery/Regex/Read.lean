import RecordQuery.Regex.Bracket

/-!
# Reading patterns

A pattern is read from left to right. The reader holds the groups that are still open, and of the
innermost one the alternatives that are complete and the terms of the last alternative.
-/

namespace RecordQuery.Regex

open Unicode (CodeIndex)

structure OpenGroup where
  numbered : Bool
  flags : Flags
  branches : List Term
  items : List Term

/-- What has been read of a pattern. Lists have the latest first. -/
structure Reader where
  groups : List OpenGroup
  branches : List Term
  items : List Term
  flags : Flags
  names : List (List Char)

namespace Reader

def initial : Reader := ⟨[], [], [], .initial, []⟩

def push (r : Reader) (t : Term) : Reader := { r with items := t :: r.items }

def content (r : Reader) : Term :=
  .ofAlternatives ((.ofConcat r.items.reverse :: r.branches).reverse)

/-! ### Groups -/

def lookAroundMarks : List (List Char) := [['?', '='], ['?', '!'], ['?', '<', '='], ['?', '<', '!']]

def nameStartIndex : CodeIndex := .ofSet Unicode.Property.alphabetic

def namePartIndex : CodeIndex := .ofSet Unicode.Property.alphanumeric

def isNameStart (c : Char) : Bool := c == '_' || nameStartIndex.contains c

def isNamePart (c : Char) : Bool :=
  ['_', '.', '[', ']'].contains c || namePartIndex.contains c

def isName : List Char → Bool
  | [] => true
  | c :: rest => isNameStart c && rest.all isNamePart

def readName (taken : List (List Char)) (s : List Char) : Except Fault (List Char × List Char) :=
  let name := s.takeWhile (· != '>')
  if !isName name then .error .groupNameCharacter
  else
    match s.dropWhile (· != '>') with
    | [] => .error .unclosedGroupName
    | _ :: rest =>
      if name.isEmpty then .error .emptyGroupName
      else if taken.contains name then .error .duplicateGroupName
      else .ok (name, rest)

/-- Reads flags up to a colon or a closing parenthesis. The flags already read come latest first,
with `none` for a minus sign. -/
def readFlags (taken : List (Option Flag)) :
    List Char → Except Fault (List (Option Flag) × List Char)
  | [] => .error .unfinishedFlags
  | c :: rest =>
    if c = ':' ∨ c = ')' then
      if taken.head? = some none then .error .danglingNegation else .ok (taken.reverse, c :: rest)
    else if c = '-' then
      if taken.contains none then .error .repeatedNegation else readFlags (none :: taken) rest
    else
      match Flag.ofLetter? c with
      | none => .error .unknownFlag
      | some f =>
        if taken.contains (some f) then .error .duplicateFlag
        else readFlags (some f :: taken) rest

def enter (r : Reader) (numbered : Bool) (flags : Flags) : Reader :=
  { r with
    groups := ⟨numbered, r.flags, r.branches, r.items⟩ :: r.groups
    branches := []
    items := []
    flags := flags }

def openGroup (r : Reader) (s : List Char) : Except Fault (Reader × List Char) := do
  let s := skipBlank r.flags.verbose s
  if lookAroundMarks.any (·.isPrefixOf s) then .error .lookAround
  else
    match s with
    | '?' :: 'P' :: '<' :: rest | '?' :: '<' :: rest =>
      let (name, rest) ← readName r.names rest
      return ({ r with names := name :: r.names }.enter true r.flags, rest)
    | ['?'] => .error .unclosedGroup
    | '?' :: rest =>
      let (changes, rest) ← readFlags [] rest
      let flags := r.flags.switch true changes
      match rest with
      | ')' :: rest =>
        if changes.isEmpty then .error .nothingToRepeat
        else return ({ r with flags := flags }.push .switch, rest)
      | rest => return (r.enter false flags, rest.drop 1)
    | s => return (r.enter true r.flags, s)

def closeGroup (r : Reader) : Except Fault Reader :=
  match r.groups with
  | [] => .error .unopenedGroup
  | g :: groups =>
    .ok { r with
      groups := groups
      branches := g.branches
      items := .group g.numbered r.content :: g.items
      flags := g.flags }

def alternate (r : Reader) : Reader :=
  { r with branches := .ofConcat r.items.reverse :: r.branches, items := [] }

/-! ### Repetitions -/

/-- Repeats the last term. There has to be one, and a change of flags does not count. -/
def repeatLast (r : Reader) (least : Nat) (most : Option Nat) : Except Fault Reader :=
  match r.items with
  | [] | .switch :: _ => .error .nothingToRepeat
  | t :: items => .ok { r with items := .repetition least most t :: items }

def skipLazy : List Char → List Char
  | '?' :: rest => rest
  | s => s

def readMark (r : Reader) (least : Nat) (most : Option Nat) (rest : List Char) :
    Except Fault (Reader × List Char) :=
  (r.repeatLast least most).map fun r => (r, skipLazy rest)

def countLimit : Nat := 4294967295

def decimal (digits : List Char) : Except Fault Nat :=
  let n := digits.foldl (fun n c => 10 * n + (c.toNat - '0'.toNat)) 0
  if digits.isEmpty then .error .emptyCount
  else if countLimit < n then .error .countTooLarge
  else .ok n

def readDecimal (verbose : Bool) (s : List Char) : Except Fault Nat × List Char :=
  let (digits, rest) := takeSpaced verbose Char.isDigit (s.dropWhile isSpace)
  (decimal digits, rest.dropWhile isSpace)

def readCounts (verbose : Bool) (s : List Char) : Except Fault ((Nat × Option Nat) × List Char) :=
  match skipBlank verbose s with
  | [] => .error .unclosedCount
  | s =>
    let (least, rest) := readDecimal verbose s
    match rest with
    | [] => .error .unclosedCount
    | ',' :: rest =>
      match skipBlank verbose rest with
      | [] => .error .unclosedCount
      | '\x7d' :: rest => do return ((← least, none), rest)
      | rest => do
        let least ← least
        let (most, rest) := readDecimal verbose rest
        let most ← most
        closed (least, some most) rest
    | rest => do
      let n ← least
      closed (n, some n) rest
where
  closed (counts : Nat × Option Nat) :
      List Char → Except Fault ((Nat × Option Nat) × List Char)
    | '\x7d' :: rest => .ok (counts, rest)
    | _ => .error .unclosedCount

def readCounted (r : Reader) (s : List Char) : Except Fault (Reader × List Char) := do
  let _ ← r.repeatLast 0 none
  let ((least, most), rest) ← readCounts r.flags.verbose s
  if most.any (· < least) then .error .invertedCount
  else return (← r.repeatLast least most, skipLazy (skipBlank r.flags.verbose rest))

/-! ### The whole pattern -/

def step (r : Reader) (c : Char) (rest : List Char) : Except Fault (Reader × List Char) :=
  match c with
  | '(' => r.openGroup rest
  | ')' => r.closeGroup.map fun r => (r, rest)
  | '|' => .ok (r.alternate, rest)
  | '[' =>
    (Bracket.read r.flags.verbose rest).map fun (t, rest) => (r.push (.bracket t r.flags), rest)
  | '?' => r.readMark 0 (some 1) rest
  | '*' => r.readMark 0 none rest
  | '+' => r.readMark 1 none rest
  | '\x7b' => r.readCounted rest
  | '\\' => (Escape.read r.flags.verbose rest).map fun (a, rest) => (r.push (.atom a r.flags), rest)
  | '.' => .ok (r.push (.atom .dot r.flags), rest)
  | '^' => .ok (r.push (.atom (.anchor .lineStart) r.flags), rest)
  | '$' => .ok (r.push (.atom (.anchor .lineEnd) r.flags), rest)
  | c => .ok (r.push (.atom (.literal ⟨c, false⟩) r.flags), rest)

def finish (r : Reader) : Except Fault Term :=
  if r.groups.isEmpty then .ok r.content else .error .unclosedGroup

/-- Reads a pattern to its end. Every part takes at least one character, so that `fuel` need only be
as large as there are characters. -/
def run : (fuel : Nat) → Reader → List Char → Except Fault Term
  | 0, r, _ => r.finish
  | fuel + 1, r, s =>
    match skipBlank r.flags.verbose s with
    | [] => r.finish
    | c :: rest =>
      match r.step c rest with
      | .error e => .error e
      | .ok (r, rest) => run fuel r rest

end Reader

def Term.read (pattern : List Char) : Except Fault Term := do
  let t ← Reader.initial.run pattern.length pattern
  if depthLimit < t.depth then .error .tooDeep else return t

end RecordQuery.Regex
