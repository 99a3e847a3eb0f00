import RecordQuery.Pattern.Engine
import RecordQuery.Regex.Compile
import RecordQuery.Regex.Search
import RecordQuery.Regex.Size

/-!
# An engine

An engine for regular expressions to run queries with. What is proved of queries does not depend on
it.
-/

namespace RecordQuery.Regex

instance engine : Pattern.Engine where
  compile source :=
    match compile source.toList with
    | .error f => .error (.malformed ("error: " ++ f.text))
    | .ok r =>
      if sizeLimit < r.size then .error (.tooLarge sizeLimit)
      else .ok ⟨fun subject => r.matchesIn subject.toList⟩
  escape text := .ofList (text.toList.flatMap Escape.protect)

end RecordQuery.Regex
