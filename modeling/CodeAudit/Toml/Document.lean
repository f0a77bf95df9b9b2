import CodeAudit.Toml.Scalar
import CodeAudit.Toml.Text

/-!
# TOML documents

A document is a list of sections: the pairs before the first header, and then each header with its
pairs.  The sections are put together into one table.  Lists and tables may be nested 79 deep.
-/

namespace CodeAudit
namespace Toml

/-- The text without spaces and tabs at its beginning. -/
def skipSpaces (text : List Char) : List Char := text.dropWhile fun c => c = ' ' || c = '\t'

/-- The text after spaces, line endings and comments; a control character in a comment is
refused. -/
def skipFiller (comment : Bool) : List Char → Option (List Char)
  | [] => some []
  | '\n' :: rest => skipFiller false rest
  | '\r' :: '\n' :: rest => skipFiller false rest
  | c :: rest =>
    if comment then (if isPlain c then skipFiller true rest else none)
    else if c = ' ' || c = '\t' then skipFiller false rest
    else if c = '#' then skipFiller true rest
    else some (c :: rest)

/-- The text after the end of a line, before which only spaces and a comment may stand. -/
def endLine (text : List Char) : Option (List Char) :=
  match skipSpaces text with
  | [] => some []
  | '#' :: rest =>
    let after := rest.dropWhile isPlain
    if after.isEmpty then some [] else afterLineEnd? after
  | rest => afterLineEnd? rest

/-- A character of a key without quotes. -/
def isBareKeyChar (c : Char) : Bool := c.isAlphanum || c = '_' || c = '-'

/-- One part of a key. -/
def readKeyPart (text : List Char) : Option (String × List Char) :=
  match text with
  | '"' :: rest => (readQuoted (rest.length + 1) rest).map fun (key, rest) => (.ofList key, rest)
  | '\'' :: rest => (readLiteral rest).map fun (key, rest) => (.ofList key, rest)
  | _ =>
    let key := text.takeWhile isBareKeyChar
    if key.isEmpty then none else some (.ofList key, text.drop key.length)

/-- How deep values may be nested, and how many parts a key may have. -/
def greatestDepth : Nat := 79

/-- The parts of a key, with dots between them; spaces around them do not matter. -/
def readKeyParts : (fuel : Nat) → List Char → Option (List String × List Char)
  | 0, _ => none
  | fuel + 1, source => do
    let (part, rest) ← readKeyPart (skipSpaces source)
    match skipSpaces rest with
    | '.' :: rest => do
      let (parts, rest) ← readKeyParts fuel rest
      return (part :: parts, rest)
    | rest => return ([part], rest)

/-- A key. -/
def readKey (text : List Char) : Option (List String × List Char) := readKeyParts greatestDepth text

/-- A key and its value. -/
abbrev Pair := List String × Toml

/-- Adds a pair to a table. -/
def addPair (members : Members) (pair : Pair) : Option Members :=
  match pair.1.getLast? with
  | none => none
  | some key => addMember key pair.2 false true pair.1.dropLast members

mutual

/-- A value; `depth` is how deep it may be nested. -/
def readValue (depth : Nat) : (fuel : Nat) → List Char → Option (Toml × List Char)
  | 0, _ | _, [] => none
  | fuel + 1, c :: rest =>
    if c = '"' || c = '\'' then (readText (c :: rest)).map fun (content, rest) => (.text content, rest)
    else if c = '[' then
      match depth with
      | 0 => none
      | depth + 1 => do
        let (items, rest) ← readItems depth fuel rest
        return (.list items, rest)
    else if c = '{' then
      match depth with
      | 0 => none
      | depth + 1 => do
        match skipSpaces rest with
        | '}' :: rest => return (.table .inline [], rest)
        | rest => do
          let (pairs, rest) ← readPairs depth fuel rest
          let members ← pairs.foldlM addPair []
          return (.table .inline members, rest)
    else readScalar (c :: rest)

/-- The items of a list, up to its closing bracket. -/
def readItems (depth : Nat) : (fuel : Nat) → List Char → Option (List Toml × List Char)
  | 0, _ => none
  | fuel + 1, source => do
    match ← skipFiller false source with
    | ']' :: rest => return ([], rest)
    | rest => do
      let (item, rest) ← readValue depth fuel rest
      match ← skipFiller false rest with
      | ']' :: rest => return ([item], rest)
      | ',' :: rest => do
        let (items, rest) ← readItems depth fuel rest
        return (item :: items, rest)
      | _ => none

/-- The pairs of a table between braces, up to its closing brace. -/
def readPairs (depth : Nat) : (fuel : Nat) → List Char → Option (List Pair × List Char)
  | 0, _ => none
  | fuel + 1, source => do
    let (key, rest) ← readKey source
    match rest with
    | '=' :: rest => do
      let (value, rest) ← readValue depth fuel (skipSpaces rest)
      match skipSpaces rest with
      | '}' :: rest => return ([(key, value)], rest)
      | ',' :: rest => do
        let (pairs, rest) ← readPairs depth fuel rest
        return ((key, value) :: pairs, rest)
      | _ => none
    | _ => none

end

/-- One line of a document. -/
inductive Line where
  | pair (pair : Pair)
  | header (path : List String)
  | listHeader (path : List String)

/-- A line that is not empty. -/
def readLine (text : List Char) : Option (Line × List Char) :=
  match text with
  | '[' :: '[' :: rest => do
    let (path, rest) ← readKey rest
    match rest with
    | ']' :: ']' :: rest => return (.listHeader path, ← endLine rest)
    | _ => none
  | '[' :: rest => do
    let (path, rest) ← readKey rest
    match rest with
    | ']' :: rest => return (.header path, ← endLine rest)
    | _ => none
  | _ => do
    let (key, rest) ← readKey text
    match rest with
    | '=' :: rest => do
      let (value, rest) ← readValue greatestDepth (text.length + 1) (skipSpaces rest)
      return (.pair (key, value), ← endLine rest)
    | _ => none

/-- The lines of a document; empty lines and comments are left out. -/
def readDocument : (fuel : Nat) → List Char → Option (List Line)
  | 0, _ => none
  | fuel + 1, source => do
    match ← skipFiller false source with
    | [] => return []
    | rest => do
      let (line, rest) ← readLine rest
      return line :: (← readDocument fuel rest)

/-- What is being filled: the whole document or the table of a header. -/
structure Building where
  document : Members
  /-- The header, and whether it is in double brackets. -/
  target : Option (List String × Bool)
  current : Members

namespace Building

/-- Puts the table at hand into the document. -/
def finish (b : Building) : Option Members :=
  match b.target with
  | none => some b.current
  | some (path, true) =>
    Toml.changeAt (fun
      | some (.tables items) => some (.tables (items ++ [b.current]))
      | _ => some (.tables [b.current])) path b.document
  | some (path, false) =>
    Toml.changeAt (fun _ => some (.table .header b.current)) path b.document

/-- The value at a path, after the tables on the way have been made. -/
def valueAt (path : List String) (document : Members) : Option Toml :=
  match path with
  | [] => none
  | [name] => document.lookup name
  | name :: rest =>
    match document.lookup name with
    | some (.table _ members) => valueAt rest members
    | some (.tables items) => (items.getLast?).bind (valueAt rest)
    | _ => none

/-- Goes on with one line. -/
def step (b : Building) : Line → Option Building
  | .pair pair => do return { b with current := ← addPair b.current pair }
  | .header path => do
    let document ← b.finish
    let _ ← Toml.changeAt (fun _ => some (.table .header [])) path document
    match valueAt path document with
    | none => return ⟨document, some (path, false), []⟩
    | some (.table .implied members) => return ⟨document, some (path, false), members⟩
    | some _ => none
  | .listHeader path => do
    let document ← b.finish
    let _ ← Toml.changeAt (fun _ => some (.tables [[]])) path document
    match valueAt path document with
    | none | some (.tables _) => return ⟨document, some (path, true), []⟩
    | some _ => none

end Building

/-- The members of the table that a document stands for. -/
def parse (source : String) : Option Members := do
  let text :=
    match source.toList with
    | c :: rest => if c.toNat = 0xfeff then rest else c :: rest
    | [] => []
  let lines ← readDocument (text.length + 1) text
  let last ← lines.foldlM Building.step ⟨[], none, []⟩
  last.finish

end Toml
end CodeAudit
