import CodeAudit.Json.Reader
import CodeAudit.Text.Line

/-!
# The JSON object in an answer

A model wraps the JSON object it was asked for in prose.  The object is taken to reach from the
first opening brace to the last closing brace, and is used only if all of it reads as a record of
the expected kind.
-/

namespace CodeAudit
namespace Answer

open Json

/-- The text from the first opening brace to the last closing brace after it. -/
def jsonIn (text : String) : Option String :=
  let fromOpening := text.toList.dropWhile fun c => c != '{'
  match fromOpening.reverse.dropWhile fun c => c != '}' with
  | [] => none
  | closing => some (String.ofList closing.reverse)

/-- What an answer says, if its JSON object reads as expected. -/
def read? {α : Type} (reader : Reader) (ofValue? : Value → Option α) (text : String) : Option α :=
  (jsonIn text).bind fun object =>
    match reader.parse object with
    | .ok value => ofValue? value
    | .error _ => none

end Answer
end CodeAudit
