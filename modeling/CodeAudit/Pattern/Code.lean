import CodeAudit.Pattern.Text

/-!
# Patterns over source code

Forms that recur in the line rules: calls, quotation marks, addresses, and a text in quotation marks
that is assigned to a name.
-/

namespace CodeAudit
namespace TextPattern

open Pattern

/-- Either quotation mark. -/
def quote : TextPattern := among "\"'"

/-- A name, blanks and the opening parenthesis of a call. -/
def call (name : TextPattern) : TextPattern := inOrder [name, blanks, exactly "("]

/-- The keyword `new` and one of several class names, called. -/
def construction (names : List String) : TextPattern :=
  call (inOrder [exactly "new", gap, oneOf names])

/-- Any characters but a closing parenthesis. -/
def arguments : TextPattern := star (outside ")")

/-- Two words, without regard to case, that may be joined by an underscore or a hyphen. -/
def joined (first second : String) : TextPattern :=
  inOrder [anyCase first, optional (among "_-"), anyCase second]

/-- A text of at least four characters, none of them blank, in quotation marks, that is assigned
to a name beginning with the given pattern. -/
def assignedTo (name : TextPattern) : TextPattern :=
  let letter := element fun c => !Text.isBlank c && c != '"' && c != '\''
  inOrder
    [name, star wordChar, optional quote, blanks, among ":=", blanks, quote, times letter 4,
     star letter, quote]

/-- Four groups of one to three digits with dots between them. -/
def address : TextPattern :=
  let group := upTo digit 1 2
  seq group (times (seq (exactly ".") group) 3)

end TextPattern
end CodeAudit
