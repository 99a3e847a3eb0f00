/-!
# Operators and quantifiers

An operator compares the value of a field with an operand; a quantifier says how the verdicts on a
field's values make up the verdict on the record.
-/

namespace RecordQuery

inductive Operator where
  | equal
  | notEqual
  | greater
  | greaterOrEqual
  | less
  | lessOrEqual
  | beginsWith
  | endsWith
  | contains
  | like
  | matchesRegex
  | oneOf
  | always
deriving DecidableEq

namespace Operator

def isText : Operator → Bool
  | .beginsWith | .endsWith | .contains => true
  | _ => false

def isOrdering : Operator → Bool
  | .equal | .notEqual | .greater | .greaterOrEqual | .less | .lessOrEqual => true
  | _ => false

/-- The verdict of an ordering operator on two values in the given order. No other operator
accepts any order. -/
def accepts : Operator → Ordering → Bool
  | .equal, o => o == .eq
  | .notEqual, o => o != .eq
  | .greater, o => o == .gt
  | .greaterOrEqual, o => o != .lt
  | .less, o => o == .lt
  | .lessOrEqual, o => o != .gt
  | _, _ => false

def symbol : Operator → String
  | .equal => "=="
  | .notEqual => "!="
  | .greater => ">"
  | .greaterOrEqual => ">="
  | .less => "<"
  | .lessOrEqual => "<="
  | .beginsWith => "BEGINSWITH"
  | .endsWith => "ENDSWITH"
  | .contains => "CONTAINS"
  | .like => "LIKE"
  | .matchesRegex => "MATCHES"
  | .oneOf => "IN"
  | .always => "TRUEPREDICATE"

def name : Operator → String
  | .equal => "Eq"
  | .notEqual => "Ne"
  | .greater => "Gt"
  | .greaterOrEqual => "Gte"
  | .less => "Lt"
  | .lessOrEqual => "Lte"
  | .beginsWith => "BeginsWith"
  | .endsWith => "EndsWith"
  | .contains => "Contains"
  | .like => "Like"
  | .matchesRegex => "Matches"
  | .oneOf => "In"
  | .always => "True"

def all : List Operator :=
  [.equal, .notEqual, .greater, .greaterOrEqual, .less, .lessOrEqual, .beginsWith, .endsWith,
    .contains, .like, .matchesRegex, .oneOf, .always]

def ofName? (name : String) : Option Operator := all.find? (·.name == name)

end Operator

inductive Quantifier where
  | plain
  | negated
  | any
  | all
  | noneOf
deriving DecidableEq

namespace Quantifier

def keyword : Quantifier → String
  | .plain => ""
  | .negated => "NOT"
  | .any => "ANY"
  | .all => "ALL"
  | .noneOf => "NONE"

def isCollection : Quantifier → Bool
  | .any | .all | .noneOf => true
  | _ => false

def name : Quantifier → String
  | .plain => "Plain"
  | .negated => "Not"
  | .any => "Any"
  | .all => "All"
  | .noneOf => "NoneOf"

def ofName? (name : String) : Option Quantifier :=
  [plain, negated, any, all, noneOf].find? (·.name == name)

end Quantifier

end RecordQuery
