import CodeAudit.Pattern.Basic
import CodeAudit.Text.Case

/-!
# Patterns over text

The building blocks of the line rules: literal text with or without regard to case, blanks, words,
sets of characters and the edge of a word.
-/

namespace CodeAudit

/-- A pattern over the characters of a text. -/
abbrev TextPattern := Pattern Char

namespace TextPattern

open Pattern

/-- The text itself. -/
def exactly (text : String) : TextPattern :=
  inOrder (text.toList.map fun letter => element fun c => letter == c)

/-- The text, without regard to case. -/
def anyCase (text : String) : TextPattern :=
  inOrder (text.toList.map fun letter => element (Text.sameLetter letter))

/-- Any of several texts. -/
def oneOf (texts : List String) : TextPattern := anyOf (texts.map exactly)

/-- Any of several texts, without regard to case. -/
def oneOfAnyCase (texts : List String) : TextPattern := anyOf (texts.map anyCase)

/-- One character of a set. -/
def among (set : String) : TextPattern :=
  let members := set.toList
  element fun c => members.contains c

/-- One character outside a set. -/
def outside (set : String) : TextPattern :=
  let members := set.toList
  element fun c => !members.contains c

/-- Any character of a line. -/
def any : TextPattern := element fun c => c != '\n'

/-- One blank character. -/
def blank : TextPattern := element Text.isBlank

/-- Any number of blank characters. -/
def blanks : TextPattern := star blank

/-- At least one blank character. -/
def gap : TextPattern := plus blank

/-- One word character. -/
def wordChar : TextPattern := element Text.isWord

/-- At least one word character. -/
def word : TextPattern := plus wordChar

/-- One decimal digit. -/
def digit : TextPattern := element Text.isDigit

/-- The edge of a word: exactly one of the two neighbours is a word character. -/
def edge : TextPattern := between fun previous next =>
  previous.any Text.isWord != next.any Text.isWord

/-- Blanks, then a text, from the beginning of a line: how comment lines begin. -/
def lineStartingWith (texts : List String) : TextPattern := inOrder [beginning, blanks, oneOf texts]

/-- Whether the pattern matches somewhere in the text. -/
def foundIn (pattern : TextPattern) (text : String) : Bool := pattern.occursIn text.toList

end TextPattern

end CodeAudit
