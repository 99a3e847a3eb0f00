import RecordQuery.Expression.Evaluate

/-!
# Selections

What an expression selects from a list of records, in the order of the list.
-/

namespace RecordQuery.Expression

variable {ρ : Type} [CharData]

def filter (e : Expression ρ) (records : List ρ) : List ρ := records.filter (e.evaluate ·)

def filterBy (records : List ρ) (e : Expression ρ) : List ρ := e.filter records

def filterCopies (copy : ρ → ρ) (e : Expression ρ) (records : List ρ) : List ρ :=
  (records.filter (e.evaluate ·)).map copy

def retain (e : Expression ρ) (records : List ρ) : List ρ :=
  records.filterMap fun r => if e.evaluate r then some r else none

def count (e : Expression ρ) (records : List ρ) : Nat := records.countP (e.evaluate ·)

def find? (e : Expression ρ) (records : List ρ) : Option ρ := records.find? (e.evaluate ·)

def position? (e : Expression ρ) (records : List ρ) : Option Nat :=
  records.findIdx? (e.evaluate ·)

def matchesAny (e : Expression ρ) (records : List ρ) : Bool := records.any (e.evaluate ·)

def matchesAll (e : Expression ρ) (records : List ρ) : Bool := records.all (e.evaluate ·)

end RecordQuery.Expression
