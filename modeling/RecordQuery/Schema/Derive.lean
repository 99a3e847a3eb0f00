import RecordQuery.Field
import RecordQuery.Schema.ConstantName
import RecordQuery.Schema.Options

/-!
# Schemas

The schema of a record type lists its queryable fields, with a constant for each of them. It is
derived from the declaration of the type, field by field, and the first fault ends the derivation.
-/

namespace RecordQuery

namespace Schema

structure Member where
  name : String
  type : String
  attributes : List Attribute

inductive Body where
  | named (members : List Member)
  | unnamed
  | choice

structure Declaration where
  name : String
  parameters : List Token
  body : Body

def parametersOf (text : String) : List Token :=
  (((Token.read text).getD []).drop 1).dropLast

structure Constant where
  identifier : String
  fieldName : String
  member : String
  type : String
deriving DecidableEq

def Constant.description (c : Constant) : String := "Field descriptor for `" ++ c.fieldName ++ "`."

/-- The field that a constant describes, in records whose values go by the declared names. -/
def Constant.field (c : Constant) : Field Record := ⟨c.fieldName, Record.read c.member⟩

inductive Fault where
  | generic
  | unnamedFields
  | notStructure
  | options (f : OptionsFault)
  | duplicate (fieldName : String)
  /-- The name of a constant is no identifier. The derivation breaks off without a report. -/
  | constantName (name : String)

namespace Fault

def message? : Fault → Option String
  | .generic => some "Record cannot be derived for generic structs"
  | .unnamedFields => some "Record can only be derived for structs with named fields"
  | .notStructure => some "Record can only be derived for structs"
  | .options f => some f.message
  | .duplicate name => some ("duplicate record field name: '" ++ name ++ "'")
  | .constantName _ => none

end Fault

end Schema

structure Schema where
  recordName : String
  constants : List Schema.Constant
  fieldNames : List String
deriving DecidableEq

namespace Schema

def hasField (s : Schema) (name : String) : Bool := s.fieldNames.contains name

def plainName (name : String) : String :=
  match name.toList with
  | 'r' :: '#' :: rest => .ofList rest
  | _ => name

def Member.fieldName (m : Member) (o : Options) : String := o.rename.getD (plainName m.name)

variable [Grammar]

def add (s : Schema) (m : Member) : Except Fault Schema :=
  match Options.ofAttributes m.attributes with
  | .error f => .error (.options f)
  | .ok o =>
    if o.skip then .ok s
    else
      let name := m.fieldName o
      if s.hasField name then .error (.duplicate name)
      else
        let identifier := ConstantName.ofField name
        if !ConstantName.isIdentifier identifier then .error (.constantName identifier)
        else
          .ok { s with
            constants := s.constants ++ [⟨identifier, name, m.name, m.type⟩]
            fieldNames := s.fieldNames ++ [name] }

def addAll (s : Schema) : List Member → Except Fault Schema
  | [] => .ok s
  | m :: rest =>
    match s.add m with
    | .error f => .error f
    | .ok s => s.addAll rest

def derive (d : Declaration) : Except Fault Schema :=
  if !d.parameters.isEmpty then .error .generic
  else
    match d.body with
    | .named members => addAll ⟨d.name, [], []⟩ members
    | .unnamed => .error .unnamedFields
    | .choice => .error .notStructure

end Schema

end RecordQuery
