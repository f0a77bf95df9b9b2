import CodeAudit.Text.Character

/-!
# Lines, blanks and budgets

A text is cut into lines at line feeds.  A carriage return right before a line feed belongs to the
line ending, any other one to its line, and the last line needs no ending.  `trim` takes blank
characters off both ends, and `cut` keeps at most a number of characters.
-/

namespace CodeAudit
namespace Text

/-- What is known of a text read from its end: its lines, and whether it begins with a line feed. -/
structure LineTail where
  lines : List (List Char)
  beginsWithFeed : Bool

/-- Puts one character in front of a text whose lines are known. -/
def LineTail.push (c : Char) (tail : LineTail) : LineTail :=
  if c = '\n' then ⟨[] :: tail.lines, true⟩
  else if c = '\r' && tail.beginsWithFeed then ⟨tail.lines, false⟩
  else
    match tail.lines with
    | [] => ⟨[[c]], false⟩
    | line :: rest => ⟨(c :: line) :: rest, false⟩

/-- The lines of a text, without their endings. -/
def linesOf (text : List Char) : List (List Char) :=
  (text.foldr LineTail.push ⟨[], false⟩).lines

/-- The lines of a text, without their endings. -/
def lines (text : String) : List String := (linesOf text.toList).map String.ofList

/-- The text without blank characters at its beginning. -/
def trimStart (text : List Char) : List Char := text.dropWhile isBlank

/-- The text without blank characters at its end. -/
def trimEnd (text : List Char) : List Char := (text.reverse.dropWhile isBlank).reverse

/-- The text without blank characters at either end. -/
def trim (text : String) : String := String.ofList (trimEnd (trimStart text.toList))

/-- Nothing but blank characters. -/
def isBlankText (text : String) : Bool := text.toList.all isBlank

/-- At most the first `limit` characters. -/
def cut (text : String) (limit : Nat) : String := String.ofList (text.toList.take limit)

/-- The text, shifted to the right to fill at least `width` characters. -/
def alignRight (width : Nat) (text : String) : String :=
  String.ofList (List.replicate (width - text.length) ' ') ++ text

/-- The pieces of a text between the occurrences of `separator`. -/
def splitAt (separator : Char) : List Char → List (List Char)
  | [] => [[]]
  | c :: rest =>
    if c = separator then [] :: splitAt separator rest
    else
      match splitAt separator rest with
      | [] => [[c]]
      | piece :: pieces => (c :: piece) :: pieces

end Text
end CodeAudit
