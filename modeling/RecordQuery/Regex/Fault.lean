/-!
# Faults of patterns

What can be wrong with a text that should be a regular expression, and how each fault is worded.
-/

namespace RecordQuery.Regex

def depthLimit : Nat := 250

inductive Fault where
  | backreference
  | lookAround
  | unclosedGroup
  | unopenedGroup
  | unclosedGroupName
  | emptyGroupName
  | groupNameCharacter
  | duplicateGroupName
  | unknownFlag
  | duplicateFlag
  | repeatedNegation
  | danglingNegation
  | unfinishedFlags
  | nothingToRepeat
  | unclosedCount
  | emptyCount
  | countTooLarge
  | invertedCount
  | unfinishedEscape
  | unknownEscape
  | hexDigit
  | emptyHex
  | hexNotScalar
  | unfinishedWordEdge
  | wordEdgeCharacter
  | unknownWordEdge
  | unclosedBracket
  | escapeInBracket
  | rangeEnd
  | invertedRange
  | propertyLetter
  | unknownProperty
  | unknownPropertyValue
  | unicodeNotAllowed
  | invalidEncoding
  | tooDeep
deriving DecidableEq

namespace Fault

def text : Fault → String
  | .backreference => "backreferences are not supported"
  | .lookAround => "look-around, including look-ahead and look-behind, is not supported"
  | .unclosedGroup => "unclosed group"
  | .unopenedGroup => "unopened group"
  | .unclosedGroupName => "unclosed capture group name"
  | .emptyGroupName => "empty capture group name"
  | .groupNameCharacter => "invalid capture group character"
  | .duplicateGroupName => "duplicate capture group name"
  | .unknownFlag => "unrecognized flag"
  | .duplicateFlag => "duplicate flag"
  | .repeatedNegation => "flag negation operator repeated"
  | .danglingNegation => "dangling flag negation operator"
  | .unfinishedFlags => "expected flag but got end of regex"
  | .nothingToRepeat => "repetition operator missing expression"
  | .unclosedCount => "unclosed counted repetition"
  | .emptyCount => "repetition quantifier expects a valid decimal"
  | .countTooLarge => "decimal literal invalid"
  | .invertedCount => "invalid repetition count range, the start must be <= the end"
  | .unfinishedEscape => "incomplete escape sequence, reached end of pattern prematurely"
  | .unknownEscape => "unrecognized escape sequence"
  | .hexDigit => "invalid hexadecimal digit"
  | .emptyHex => "hexadecimal literal empty"
  | .hexNotScalar => "hexadecimal literal is not a Unicode scalar value"
  | .unfinishedWordEdge => "found either the beginning of a special word boundary or a bounded " ++
      "repetition on a \\b with an opening brace, but no closing brace"
  | .wordEdgeCharacter => "special word boundary assertion is either unclosed or contains an " ++
      "invalid character"
  | .unknownWordEdge => "unrecognized special word boundary assertion, valid choices are: " ++
      "start, end, start-half or end-half"
  | .unclosedBracket => "unclosed character class"
  | .escapeInBracket => "invalid escape sequence found in character class"
  | .rangeEnd => "invalid range boundary, must be a literal"
  | .invertedRange => "invalid character class range, the start must be <= the end"
  | .propertyLetter => "invalid Unicode character class"
  | .unknownProperty => "Unicode property not found"
  | .unknownPropertyValue => "Unicode property value not found"
  | .unicodeNotAllowed => "Unicode not allowed here"
  | .invalidEncoding => "pattern can match invalid UTF-8"
  | .tooDeep => "exceed the maximum number of nested parentheses/brackets (" ++
      toString depthLimit ++ ")"

end Fault

end RecordQuery.Regex
