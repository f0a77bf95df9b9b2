import CodeAudit.Pattern.Code
import CodeAudit.Text.Line

/-!
# Lines of a programming language

For the languages whose structure is counted, the patterns of the lines that import something,
declare a class, or begin a function.  A line may look like a method header although it is a
control statement; `isControlStatement` tells these apart.
-/

namespace CodeAudit

open Pattern TextPattern

/-- The patterns of one language. -/
structure LanguagePatterns where
  imports : List TextPattern
  functions : List TextPattern
  classes : List TextPattern

namespace LanguagePatterns

/-- A character that satisfies a test or belongs to a set. -/
def charOf (test : Char → Bool) (set : String) : TextPattern :=
  let members := set.toList
  element fun c => test c || members.contains c

/-- A line that begins with blanks and goes on with the given patterns. -/
def lineOf (patterns : List TextPattern) : TextPattern :=
  inOrder (beginning :: blanks :: patterns)

/-- A text and at least one blank. -/
def spaced (text : String) : TextPattern := seq (exactly text) gap

/-- A text in quotation marks that does not hold one. -/
def quotedName : TextPattern := inOrder [quote, plus (outside "'\""), quote]

/-- Any number of characters up to a closing parenthesis. -/
def inParentheses : TextPattern := inOrder [exactly "(", star (outside ")"), exactly ")"]

/-- The lines of Java. -/
def java : LanguagePatterns where
  imports :=
    [lineOf [spaced "import", optional (spaced "static"), plus (charOf Text.isWord ".*"), blanks,
      exactly ";"]]
  functions :=
    [lineOf [star (either
        (oneOf ["public", "protected", "private", "static", "final", "synchronized", "abstract"])
        blank),
      plus (charOf (fun c => Text.isWord c || Text.isBlank c) "<>[],"), gap, word, blanks,
      exactly "(", star (outside ";"), ending]]
  classes :=
    [lineOf [star (seq (oneOf ["public", "abstract", "final", "static"]) gap),
      oneOf ["class", "interface", "enum", "record"], gap, word]]

/-- The lines of JavaScript and TypeScript. -/
def script : LanguagePatterns where
  imports :=
    [lineOf [spaced "import", star any, spaced "from", quotedName],
     lineOf [spaced "import", quotedName],
     inOrder [call (exactly "require"), blanks, quotedName, blanks, exactly ")"]]
  functions :=
    [inOrder [exactly "function", blanks, optional (exactly "*"), blanks, optional word, blanks,
      exactly "("],
     inOrder [wordChar, blanks, exactly "=", blanks, optional (spaced "async"), inParentheses,
      blanks, exactly "=>"]]
  classes :=
    [lineOf [optional (spaced "export"), optional (spaced "default"), spaced "class", word]]

/-- The lines of Python. -/
def python : LanguagePatterns where
  imports :=
    [lineOf [spaced "from", plus (element fun c => !Text.isBlank c), gap, exactly "import"],
     lineOf [spaced "import", element fun c => !Text.isBlank c && c != ',']]
  functions := [lineOf [optional (spaced "async"), spaced "def", word, blanks, exactly "("]]
  classes := [lineOf [spaced "class", word]]

/-- The lines of C#. -/
def csharp : LanguagePatterns where
  imports := [lineOf [spaced "using", plus (charOf Text.isWord "."), blanks, exactly ";"]]
  functions :=
    [lineOf [plus (either
        (oneOf ["public", "private", "protected", "internal", "static", "virtual", "override",
          "async"])
        blank),
      plus (charOf Text.isWord "<>[],"), gap, word, blanks, exactly "("]]
  classes :=
    [lineOf [star (seq word gap), oneOf ["class", "interface", "struct", "enum"], gap, word]]

/-- The lines of Go. -/
def go : LanguagePatterns where
  imports :=
    [lineOf [optional (spaced "import"), exactly "\"", plus (charOf Text.isWord "-./"),
      exactly "\"", blanks, ending]]
  functions :=
    [lineOf [spaced "func", optional (seq inParentheses blanks), word, blanks, exactly "("]]
  classes := [lineOf [spaced "type", word, gap, oneOf ["struct", "interface"]]]

/-- The visibility in front of an item of Rust. -/
def visibility : TextPattern :=
  optional (inOrder [exactly "pub", optional inParentheses, gap])

/-- The lines of Rust. -/
def rust : LanguagePatterns where
  imports :=
    [lineOf [optional (spaced "pub"), spaced "use", plus (outside ";"), exactly ";"]]
  functions := [lineOf [visibility, optional (spaced "async"), spaced "fn", word]]
  classes := [lineOf [visibility, oneOf ["struct", "enum", "trait"], gap, word]]

/-- The patterns of a language, if its structure is counted. -/
def of? : (language : String) → Option LanguagePatterns
  | "java" => some java
  | "javascript" | "typescript" => some script
  | "python" => some python
  | "csharp" => some csharp
  | "go" => some go
  | "rust" => some rust
  | _ => none

end LanguagePatterns

/-- The words that begin a statement rather than a function. -/
def controlWords : List String :=
  ["if", "for", "while", "switch", "catch", "return", "new", "else"]

/-- Whether the text begins with a word that ends there. -/
def beginsWithWord (word : String) (text : List Char) : Bool :=
  let letters := word.toList
  letters.isPrefixOf text
    && (text.drop letters.length).head?.all fun c => !Text.isAlphanumeric c && c != '_'

/-- Whether the line begins with a control word. -/
def isControlStatement (line : String) : Bool :=
  let text := Text.trimStart line.toList
  controlWords.any fun word => beginsWithWord word text

end CodeAudit
