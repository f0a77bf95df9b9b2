import CodeAudit.Json.Node
import CodeAudit.Json.Value
import CodeAudit.Text.Shown

/-!
# Reading a document as a value of a given form

A `Reader` takes a node of a document to a value, or to the first fault in the order of the text.
Readers for texts, numbers, labels, lists and records are put together into a reader for a whole
document.  What a reader yields is normal: a record is an object with all its members in the order
of declaration, a number that has to be real is real, a label is a text, and a dictionary is an
object with its keys in order.

A record may stand in the text as an object or as a list of its members in the order of
declaration.  Other names in an object are skipped; the same name twice is a fault.
-/

namespace CodeAudit
namespace Json

/-- The value of a node, or the first fault. -/
abbrev Reader := Node → Except Fault Value

/-- What a record does about a member that is absent. -/
inductive Absence where
  /-- It has to be there. -/
  | required
  /-- An object may leave it out: it is `null` then. -/
  | optional
  /-- An object may leave it out and a list may end before it: it has a default then. -/
  | default (value : Value)

/-- A member of a record: its names, the first one being its own, and how it is read. -/
structure Member where
  names : List String
  absence : Absence
  reader : Reader

/-- The own name of a member. -/
def Member.name (member : Member) : String := member.names.headD ""

/-- How a message names what was found, and the place of the message. -/
def Node.found : Node → String × Nat
  | .null _ stop => ("null", stop)
  | .truth value _ stop => ("boolean `" ++ toString value ++ "`", stop)
  | .number numeral _ stop =>
    match numeral.value with
    | .integer value => ("integer `" ++ toString value ++ "`", stop)
    | .real value => ("floating point `" ++ (value.shortestText? .double).getD "inf" ++ "`", stop)
    | .outOfRange unread => ("", stop - unread)
  | .text (.ok content) _ stop => ("string " ++ Text.shown content, stop)
  | .text (.error _) _ stop => ("", stop)
  | .list start _ _ => ("sequence", start)
  | .object start _ _ => ("map", start)
  | .broken _ strict _ => ("", strict.place)

/-- The fault of a node that is not what was expected: a fault of its own comes first. -/
def Node.mismatch (expected : String) (node : Node) : Fault :=
  match node with
  | .broken _ strict _ => strict
  | .text (.error fault) _ _ => fault
  | _ =>
    let (found, place) := node.found
    match node with
    | .number numeral _ _ =>
      match numeral.value with
      | .outOfRange _ => ⟨.numberOutOfRange, place⟩
      | _ => ⟨.wrongKind found expected, place⟩
    | _ => ⟨.wrongKind found expected, place⟩

/-- The place that a strict reader reaches at the end of a list or an object. -/
def Ending.reached : Ending → Except Fault Nat
  | .closed stop => .ok stop
  | .broken strict _ => .error strict

/-- The place that a reader reaches at the end of a list when it expects no further item. -/
def Ending.reachedAfterLast (ending : Ending) : Except Fault Nat :=
  match ending.reached with
  | .error ⟨.expectedListEnd, place⟩ | .error ⟨.endInValue, place⟩ =>
    .error ⟨.trailingCharacters, place⟩
  | other => other

/-- Puts a member into an object whose keys are in order; an equal key is replaced. -/
def insertMember (key : String) (value : Value) :
    List (String × Value) → List (String × Value)
  | [] => [(key, value)]
  | (other, kept) :: rest =>
    if key = other then (key, value) :: rest
    else if key < other then (key, value) :: (other, kept) :: rest
    else (other, kept) :: insertMember key value rest

/-- How many lists and objects may be open at once around a value of any form. -/
def greatestDepth : Nat := 127

namespace Reader

mutual

/-- Reads a value of any form, `depth` being the lists and objects that may still be opened. -/
def anyWithin (depth : Nat) : Reader
  | .null _ _ => .ok .null
  | .truth value _ _ => .ok (.truth value)
  | .number numeral _ stop =>
    match numeral.value with
    | .integer value => .ok (.integer value)
    | .real value => .ok (.real value)
    | .outOfRange unread => .error ⟨.numberOutOfRange, stop - unread⟩
  | .text content _ _ => content.map .text
  | .list start items ending =>
    match depth with
    | 0 => .error ⟨.tooDeep, start + 1⟩
    | depth + 1 => do
      let values ← anyItems depth items
      let _ ← ending.reached
      return .list values
  | .object start members ending =>
    match depth with
    | 0 => .error ⟨.tooDeep, start + 1⟩
    | depth + 1 => do
      let values ← anyMembers depth [] members
      let _ ← ending.reached
      return .object values
  | .broken _ strict _ => .error strict

/-- Reads items of any form. -/
def anyItems (depth : Nat) : List Node → Except Fault (List Value)
  | [] => .ok []
  | item :: rest => do return (← anyWithin depth item) :: (← anyItems depth rest)

/-- Reads members of any form into an object; of equal keys the last one is kept. -/
def anyMembers (depth : Nat) (read : List (String × Value)) :
    List (Key × Node) → Except Fault (List (String × Value))
  | [] => .ok read
  | (key, node) :: rest => do
    let text ← key.text
    let value ← anyWithin depth node
    anyMembers depth (insertMember text value read) rest

end

/-- Reads a value of any form. -/
def any : Reader := anyWithin greatestDepth

/-- Reads a text. -/
def text : Reader
  | .text content _ _ => content.map .text
  | node => .error (node.mismatch "a string")

/-- Reads a truth value. -/
def truth : Reader
  | .truth value _ _ => .ok (.truth value)
  | node => .error (node.mismatch "a boolean")

/-- Reads a number as a real number. -/
def real : Reader
  | .number numeral _ stop =>
    match numeral.value with
    | .integer value => .ok (.real (.ofRat value))
    | .real value => .ok (.real value)
    | .outOfRange unread => .error ⟨.numberOutOfRange, stop - unread⟩
  | node => .error (node.mismatch "f64")

/-- Reads a count of at most `bits` binary digits. -/
def count (bits : Nat) : Reader
  | node =>
    let fault := node.mismatch ("u" ++ toString bits)
    match node with
    | .number numeral _ _ =>
      match numeral.value with
      | .integer value =>
        if 0 ≤ value && value < (Nat.pow 2 bits : Nat) then .ok (.integer value) else .error fault
      | _ => .error fault
    | _ => .error fault

/-- Reads a text of a special form; what `normal?` refuses is a fault. -/
def formatted (expected : String) (normal? : String → Option String) : Reader
  | .text (.ok content) _ stop =>
    match normal? content with
    | some normal => .ok (.text normal)
    | none => .error ⟨.wrongKind (Text.shown content) expected, stop⟩
  | node => .error (node.mismatch expected)

/-- Reads one of several labels: a text, or an object whose only key is the label. -/
def label (labels : List String) : Reader
  | .text content _ stop => do
    let content ← content
    if labels.contains content then return .text content
    else .error ⟨.unknownLabel content, stop⟩
  | .object _ ((key, node) :: more) ending => do
    let content ← key.text
    if !labels.contains content then .error ⟨.unknownLabel content, key.next⟩
    else
      match node, more with
      | .null _ _, [] => do
        let _ ← ending.reached
        return .text content
      | .null _ stop, _ :: _ => .error ⟨.expectedValue, stop⟩
      | node, _ => .error (node.mismatch "unit")
  | node => .error (node.mismatch "a label")

/-- Reads `null`, or what another reader reads. -/
def optional (reader : Reader) : Reader
  | .null _ _ => .ok .null
  | node => reader node

/-- Reads a list, every item with the same reader. -/
def list (reader : Reader) : Reader
  | .list _ items ending => do
    let values ← items.mapM reader
    let _ ← ending.reached
    return .list values
  | node => .error (node.mismatch "a sequence")

/-- Reads the members of a dictionary; of equal keys the last one is kept. -/
def entries (reader : Reader) (read : List (String × Value)) :
    List (Key × Node) → Except Fault (List (String × Value))
  | [] => .ok read
  | (key, node) :: rest => do
    let text ← key.text
    let value ← reader node
    entries reader (insertMember text value read) rest

/-- Reads an object with any keys, every value with the same reader. -/
def dictionary (reader : Reader) : Reader
  | .object _ members ending => do
    let values ← entries reader [] members
    let _ ← ending.reached
    return .object values
  | node => .error (node.mismatch "a map")

/-- Reads the members of a record from an object; unknown ones are skipped. -/
def named (members : List Member) (read : List (String × Value)) :
    List (Key × Node) → Except Fault (List (String × Value))
  | [] => .ok read
  | (key, node) :: rest => do
    let text ← key.text
    match members.find? fun member => member.names.contains text with
    | none =>
      match node.looseFault? with
      | some fault => .error fault
      | none => named members read rest
    | some member =>
      if (read.lookup member.name).isSome then .error ⟨.repeatedField member.name, key.next⟩
      else do
        let value ← member.reader node
        named members ((member.name, value) :: read) rest

/-- The members of a record in the order of declaration, from those that an object has. -/
def completed (stop : Nat) (read : List (String × Value)) :
    List Member → Except Fault (List (String × Value))
  | [] => .ok []
  | member :: rest => do
    let value ←
      match read.lookup member.name, member.absence with
      | some value, _ => Except.ok value
      | none, .required => .error ⟨.missingField member.name, stop⟩
      | none, .optional => .ok .null
      | none, .default value => .ok value
    return (member.name, value) :: (← completed stop read rest)

/-- The members of a record from a list of them; `expected` describes the record. -/
def inTurn (expected : String) (ending : Ending) (position : Nat) :
    List Member → List Node → Except Fault (List (String × Value))
  | [], [] => .ok []
  | [], _ :: _ => .ok []
  | member :: rest, [] => do
    let stop ← ending.reached
    match member.absence with
    | .default value => return (member.name, value) :: (← inTurn expected ending (position + 1) rest [])
    | _ => .error ⟨.wrongLength position expected, stop⟩
  | member :: rest, item :: items => do
    let value ← member.reader item
    return (member.name, value) :: (← inTurn expected ending (position + 1) rest items)

/-- Reads a record, from an object or from a list of its members. -/
def record (name : String) (members : List Member) : Reader
  | .object _ found ending => do
    let read ← named members [] found
    let stop ← ending.reached
    return .object (← completed stop read members)
  | .list _ items ending => do
    let plural := if members.length = 1 then " element" else " elements"
    let expected := "struct " ++ name ++ " with " ++ toString members.length ++ plural
    let read ← inTurn expected ending 0 members items
    match items.drop members.length with
    | [] => do
      let _ ← ending.reachedAfterLast
      return .object read
    | extra :: _ => .error ⟨.trailingCharacters, extra.start + 1⟩
  | node => .error (node.mismatch ("struct " ++ name))

/-- Reads a whole text: one value, and nothing after it. -/
def parse (reader : Reader) (source : String) : Except Fault Value := do
  let found := document source
  let value ← reader found.node
  match found.trailing with
  | some place => .error ⟨.trailingCharacters, place + 1⟩
  | none => return value

end Reader

namespace Member

/-- A member that has to be there. -/
def required (name : String) (reader : Reader) : Member := ⟨[name], .required, reader⟩

/-- A member that may be left out of an object, or be `null`. -/
def possible (name : String) (reader : Reader) : Member :=
  ⟨[name], .optional, Reader.optional reader⟩

/-- A member with a default. -/
def defaulted (name : String) (value : Value) (reader : Reader) : Member :=
  ⟨[name], .default value, reader⟩

end Member

end Json
end CodeAudit
