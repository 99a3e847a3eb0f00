import RecordQuery.Number.Basic
import RecordQuery.Timestamp

/-!
# Field values

A `Value` is what a field of a record holds, or what an operator compares it with. Values of one
kind are ordered; values of different kinds never compare.
-/

namespace RecordQuery

inductive Value where
  | string (s : String)
  | number (n : Number)
  | timestamp (t : Timestamp)
  | enumerant (n : UInt32)
  | bool (b : Bool)
  | list (items : List Value)
  | absent
deriving Inhabited

namespace Value

def isAbsent : Value → Bool
  | .absent => true
  | _ => false

def isString : Value → Bool
  | .string _ => true
  | _ => false

def isList : Value → Bool
  | .list _ => true
  | _ => false

def string? : Value → Option String
  | .string s => some s
  | _ => none

def number? : Value → Option Number
  | .number n => some n
  | _ => none

def list? : Value → Option (List Value)
  | .list items => some items
  | _ => none

def elements : Value → List Value
  | .list items => items
  | _ => []

mutual

/-- The order of two values of one kind: strings by code point, `false` before `true`, lists
lexicographically. Absent for values of different kinds, and where NaN decides. -/
def compare : Value → Value → Option Ordering
  | .string a, .string b => some (Ord.compare a b)
  | .number a, .number b => a.compare b
  | .timestamp a, .timestamp b => some (Ord.compare a.millis.toInt b.millis.toInt)
  | .enumerant a, .enumerant b => some (Ord.compare a.toNat b.toNat)
  | .bool a, .bool b => some (Ord.compare a.toNat b.toNat)
  | .list as, .list bs => compareLists as bs
  | .absent, .absent => some .eq
  | _, _ => none

/-- The first pair that is not equal decides; when one list is a beginning of the other, the
shorter comes first. -/
def compareLists : List Value → List Value → Option Ordering
  | [], [] => some .eq
  | [], _ :: _ => some .lt
  | _ :: _, [] => some .gt
  | a :: as, b :: bs =>
    match compare a b with
    | some .eq => compareLists as bs
    | decided => decided

end

def sameAs (a b : Value) : Bool := a.compare b == some .eq

mutual

def identical : Value → Value → Bool
  | .string a, .string b => a == b
  | .number a, .number b => a.identical b
  | .timestamp a, .timestamp b => a == b
  | .enumerant a, .enumerant b => a == b
  | .bool a, .bool b => a == b
  | .list as, .list bs => identicalLists as bs
  | .absent, .absent => true
  | _, _ => false

def identicalLists : List Value → List Value → Bool
  | [], [] => true
  | a :: as, b :: bs => identical a b && identicalLists as bs
  | _, _ => false

end

end Value

end RecordQuery
