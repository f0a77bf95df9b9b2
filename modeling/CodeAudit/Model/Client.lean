/-!
# Language models

A model answers a prompt with a text, or fails with a message.  Its answer may depend on the
prompts it was asked before, so a conversation is the list of these prompts; asking adds to it.
-/

namespace CodeAudit

/-- What a model is asked: its role, and the question. -/
structure Prompt where
  system : String
  user : String
  deriving DecidableEq, Inhabited

/-- A model: its name in reports, and its answer to a prompt after earlier ones. -/
structure Client where
  description : String
  answer : (earlier : List Prompt) → Prompt → Except String String

namespace Client

/-- A model that gives prepared answers in order, and fails when none is left. -/
def scripted (description : String) (answers : List (Except String String)) : Client where
  description := description
  answer earlier _ := answers.getD earlier.length (.error "no scripted answer left")

end Client

/-- Asks a model, if there is one: its answer, unless it failed, and the longer conversation. -/
def ask (client : Option Client) (earlier : List Prompt) (prompt : Prompt) :
    Option String × List Prompt :=
  match client with
  | none => (none, earlier)
  | some client => ((client.answer earlier prompt).toOption, earlier ++ [prompt])

/-- What an audit yields: its result, the lines shown on the console, and the conversation. -/
structure Audited (α : Type) where
  result : α
  console : List String
  prompts : List Prompt

end CodeAudit
