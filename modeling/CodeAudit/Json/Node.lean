import CodeAudit.Json.Lexeme

/-!
# The tree of a JSON document

A `Document` is what the lexemes of a text spell: one node, and whether anything follows it.  The
tree is built even when the text stops being JSON; the place where it stops is then a broken node,
or a broken ending of a list or an object, which holds the fault.  So a reader that goes through
the tree in the order of the text meets a fault of the text and a fault of its own in that order.
-/

namespace CodeAudit
namespace Json

/-- How a list or an object ends. -/
inductive Ending where
  | closed (stop : Nat)
  | broken (strict loose : Fault)

/-- The key of a member, and the place where a reader that refuses the key stops. -/
structure Key where
  text : Except Fault String
  next : Nat

/-- A value as it stands in the text. -/
inductive Node where
  | null (start stop : Nat)
  | truth (value : Bool) (start stop : Nat)
  | number (numeral : Numeral) (start stop : Nat)
  | text (content : Except Fault String) (start stop : Nat)
  | list (start : Nat) (items : List Node) (ending : Ending)
  | object (start : Nat) (members : List (Key × Node)) (ending : Ending)
  | broken (start : Nat) (strict loose : Fault)

/-- One node and the place of the first lexeme after it, if there is one. -/
structure Document where
  node : Node
  trailing : Option Nat

/-- An ending with the same fault in both ways of reading. -/
def Ending.brokenBy (cause : Cause) (place : Nat) : Ending :=
  .broken ⟨cause, place⟩ ⟨cause, place⟩

/-- A node with the same fault in both ways of reading. -/
def Node.brokenBy (start : Nat) (cause : Cause) (place : Nat) : Node :=
  .broken start ⟨cause, place⟩ ⟨cause, place⟩

/-- The place where the text of a node begins. -/
def Node.start : Node → Nat
  | .null start _ | .truth _ start _ | .number _ start _ | .text _ start _ => start
  | .list start _ _ | .object start _ _ | .broken start _ _ => start

mutual

/-- Reads a value; `size` is the place after the text. -/
def readNode (size : Nat) : (fuel : Nat) → List Lexeme → Node × List Lexeme
  | 0, _ | _, [] => (.brokenBy (size - 1) .endInValue size, [])
  | fuel + 1, ⟨token, start, stop⟩ :: rest =>
    match token with
    | .null => (.null start stop, rest)
    | .truth value => (.truth value start stop, rest)
    | .number numeral => (.number numeral start stop, rest)
    | .text content => (.text content start stop, rest)
    | .failed _ strict loose => (.broken start strict loose, [])
    | .openList =>
      match rest with
      | [] => (.list start [] (.brokenBy .endInList size), [])
      | ⟨.closeList, _, stop⟩ :: rest => (.list start [] (.closed stop), rest)
      | _ =>
        let (items, ending, rest) := readItems size fuel rest
        (.list start items ending, rest)
    | .openObject =>
      match rest with
      | ⟨.closeObject, _, stop⟩ :: rest => (.object start [] (.closed stop), rest)
      | _ =>
        let (members, ending, rest) := readMembers size fuel rest
        (.object start members ending, rest)
    | .closeList | .closeObject | .colon | .comma => (.brokenBy start .expectedValue (start + 1), [])

/-- Reads the items of a list up to its end. -/
def readItems (size : Nat) : (fuel : Nat) → List Lexeme → List Node × Ending × List Lexeme
  | 0, _ => ([], .brokenBy .endInList size, [])
  | fuel + 1, text =>
    let (item, rest) := readNode size fuel text
    match rest with
    | [] => ([item], .brokenBy .endInList size, [])
    | ⟨.closeList, _, stop⟩ :: rest => ([item], .closed stop, rest)
    | ⟨.comma, _, _⟩ :: [] => ([item], .brokenBy .endInValue size, [])
    | ⟨.comma, _, _⟩ :: ⟨.closeList, start, _⟩ :: _ =>
      ([item], .broken ⟨.trailingComma, start + 1⟩ ⟨.expectedValue, start + 1⟩, [])
    | ⟨.comma, _, _⟩ :: rest =>
      let (items, ending, rest) := readItems size fuel rest
      (item :: items, ending, rest)
    | ⟨_, start, _⟩ :: _ => ([item], .brokenBy .expectedListEnd (start + 1), [])

/-- Reads the members of an object up to its end. -/
def readMembers (size : Nat) :
    (fuel : Nat) → List Lexeme → List (Key × Node) × Ending × List Lexeme
  | 0, _ | _, [] => ([], .brokenBy .endInObject size, [])
  | fuel + 1, ⟨.text content, _, _⟩ :: rest =>
    let (key, value, rest) : Key × Node × List Lexeme :=
      match rest with
      | [] => (⟨content, size⟩, .brokenBy size .endInObject size, [])
      | ⟨.colon, next, _⟩ :: rest =>
        let (value, rest) := readNode size fuel rest
        (⟨content, next⟩, value, rest)
      | ⟨.closeObject, next, stop⟩ :: _ =>
        (⟨content, stop⟩, .brokenBy next .expectedColon stop, [])
      | ⟨_, next, _⟩ :: _ => (⟨content, next⟩, .brokenBy next .expectedColon (next + 1), [])
    match rest with
    | [] => ([(key, value)], .brokenBy .endInObject size, [])
    | ⟨.closeObject, _, stop⟩ :: rest => ([(key, value)], .closed stop, rest)
    | ⟨.comma, _, _⟩ :: [] =>
      ([(key, value)], .broken ⟨.endInValue, size⟩ ⟨.endInObject, size⟩, [])
    | ⟨.comma, _, _⟩ :: ⟨.closeObject, start, _⟩ :: _ =>
      ([(key, value)], .broken ⟨.trailingComma, start + 1⟩ ⟨.keyIsNoText, start + 1⟩, [])
    | ⟨.comma, _, _⟩ :: rest =>
      let (members, ending, rest) := readMembers size fuel rest
      ((key, value) :: members, ending, rest)
    | ⟨_, start, _⟩ :: _ => ([(key, value)], .brokenBy .expectedObjectEnd (start + 1), [])
  | _ + 1, ⟨.failed true strict loose, _, _⟩ :: _ => ([], .broken strict loose, [])
  | _ + 1, ⟨_, start, _⟩ :: _ => ([], .brokenBy .keyIsNoText (start + 1), [])

end

/-- The document that a text spells. -/
def document (text : String) : Document :=
  let found := lexemes text
  let (node, rest) := readNode text.utf8ByteSize (2 * found.length + 2) found
  ⟨node, rest.head?.map Lexeme.start⟩

namespace Node

/-- The fault of an ending that is read loosely. -/
def endingFault? : Ending → Option Fault
  | .closed _ => none
  | .broken _ loose => some loose

mutual

/-- The fault that skipping a node meets. -/
def looseFault? : Node → Option Fault
  | .broken _ _ loose => some loose
  | .list _ items ending => (itemsFault? items).or (endingFault? ending)
  | .object _ members ending => (membersFault? members).or (endingFault? ending)
  | .null _ _ | .truth _ _ _ | .number _ _ _ | .text _ _ _ => none

/-- The fault that skipping items meets. -/
def itemsFault? : List Node → Option Fault
  | [] => none
  | item :: rest => (looseFault? item).or (itemsFault? rest)

/-- The fault that skipping members meets. -/
def membersFault? : List (Key × Node) → Option Fault
  | [] => none
  | (_, value) :: rest => (looseFault? value).or (membersFault? rest)

end

end Node

end Json
end CodeAudit
