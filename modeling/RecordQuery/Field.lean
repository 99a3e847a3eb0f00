import RecordQuery.Value.Basic

/-!
# Fields and records

A field has a name, which is what canonical text shows, and a way to read its value from a record.
The records of a query can be of any type; the plainest ones are lists of named values.
-/

namespace RecordQuery

structure Field (ρ : Type) where
  name : String
  get : ρ → Value

abbrev Record := List (String × Value)

namespace Record

/-- The value of a name. A name that the record lacks has no value. -/
def read (name : String) (r : Record) : Value := (r.lookup name).getD .absent

end Record

def Field.named (name : String) : Field Record := ⟨name, Record.read name⟩

end RecordQuery
