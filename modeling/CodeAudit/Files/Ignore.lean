import CodeAudit.Files.Glob
import CodeAudit.Text.Line

/-!
# Ignore files

An ignore file has one rule a line.  A rule describes paths below the directory of the file; it
ignores them, or keeps them when it begins with an exclamation mark.  Of several rules that
describe a path the last one decides.  A line that is no rule is skipped, and a line that is no
text ends the file.
-/

namespace CodeAudit

/-- A rule of an ignore file. -/
structure IgnoreRule where
  glob : Glob
  /-- Whether paths are kept rather than ignored. -/
  keeps : Bool
  directoriesOnly : Bool

namespace IgnoreRule

/-- The line without blanks at its end; a blank after a backslash stays. -/
def trimmed (line : List Char) : List Char :=
  if ['\\', ' '].isSuffixOf line then line else Text.trimEnd line

/-- Takes the marks off a line: what is left, whether it keeps paths, and whether it begins at the
directory of the file. -/
def withoutMarks (line : List Char) : List Char × Bool × Bool :=
  match line with
  | '\\' :: '!' :: rest => ('!' :: rest, false, false)
  | '\\' :: '#' :: rest => ('#' :: rest, false, false)
  | '!' :: '/' :: rest => (rest, true, true)
  | '!' :: rest => (rest, true, false)
  | '/' :: rest => (rest, false, true)
  | rest => (rest, false, false)

/-- Takes a slash off the end of a line, and a backslash in front of it. -/
def withoutFinalSlash (line : List Char) : List Char × Bool :=
  match line.reverse with
  | '/' :: '\\' :: rest => (rest.reverse, true)
  | '/' :: rest => (rest.reverse, true)
  | _ => (line, false)

/-- The glob of a line: a name without a slash may stand in any directory, and two stars at the
end describe what is in a directory but not the directory. -/
def globText (line : List Char) (anchored : Bool) : List Char :=
  let anywhere := !anchored && !line.contains '/' && line != ['*', '*']
  let text := if anywhere then ['*', '*', '/'] ++ line else line
  if ['/', '*', '*'].isSuffixOf text then text ++ ['/', '*'] else text

/-- The rule of a line, if there is one. -/
def ofLine? (line : List Char) : Option IgnoreRule :=
  if line.head? = some '#' then none
  else
    let line := trimmed line
    if line.isEmpty then none
    else
      let (line, keeps, anchored) := withoutMarks line
      let (line, directoriesOnly) := withoutFinalSlash line
      (Glob.ofText? (globText line anchored)).map fun glob => ⟨glob, keeps, directoriesOnly⟩

/-- The bytes between line feeds. -/
def cutLines (content : ByteArray) : List (List UInt8) :=
  content.toList.foldr (fun byte lines =>
    if byte == 10 then [] :: lines
    else
      match lines with
      | [] => [[byte]]
      | line :: rest => (byte :: line) :: rest) [[]]

/-- Takes the carriage return in front of a line feed off each line that has a line feed, which is
every line but the last one. -/
def withoutReturns : List (List UInt8) → List (List UInt8)
  | [] => []
  | [last] => [last]
  | line :: rest =>
    (if line.getLast? = some 13 then line.dropLast else line) :: withoutReturns rest

/-- The lines of a file up to the first one that is no text. -/
def textLines (content : ByteArray) : List (List Char) :=
  let texts := (withoutReturns (cutLines content)).map fun line =>
    String.fromUTF8? ⟨line.toArray⟩
  (texts.takeWhile Option.isSome).map fun text => (text.getD "").toList

/-- The rules of a file; a byte order mark in front of the first line does not count. -/
def ofFile (content : ByteArray) : List IgnoreRule :=
  match textLines content with
  | [] => []
  | first :: rest =>
    ((first.dropWhile fun c => c.toNat = 0xfeff) :: rest).filterMap ofLine?

/-- What rules say of a path below their directory: whether it is ignored, or nothing. -/
def verdict (rules : List IgnoreRule) (path : List String) (directory : Bool) : Option Bool :=
  let text := "/".intercalate path
  (rules.reverse.find? fun rule =>
    (directory || !rule.directoriesOnly) && rule.glob.accepts text).map fun rule => !rule.keeps

end IgnoreRule

/-- The rules that a directory brings: its own ignore file, those of version control, and whether
it is the top of a tree under version control. -/
structure IgnoreLevel where
  own : List IgnoreRule
  versioned : List IgnoreRule
  excluded : List IgnoreRule
  isTop : Bool

namespace IgnoreLevel

/-- A directory that brings no rule. -/
def none : IgnoreLevel := ⟨[], [], [], false⟩

/-- The first verdict of the levels on an entry; each level comes with the path from its directory
to the entry. -/
def firstVerdict (rules : IgnoreLevel → List IgnoreRule) (directory : Bool)
    (levels : List (IgnoreLevel × List String)) : Option Bool :=
  levels.findSome? fun (level, path) => IgnoreRule.verdict (rules level) path directory

/-- The levels up to the top of the tree under version control. -/
def upToTop : List (IgnoreLevel × List String) → List (IgnoreLevel × List String)
  | [] => []
  | level :: rest => if level.1.isTop then [level] else level :: upToTop rest

/-- Whether an entry is ignored.  The levels go from the directory of the entry outwards.  An own
ignore file decides before the rules of version control, which hold only in a tree under version
control and only up to its top. -/
def ignores (levels : List (IgnoreLevel × List String)) (directory : Bool) : Bool :=
  let tree := if levels.any fun level => level.1.isTop then upToTop levels else []
  ((firstVerdict own directory levels).or
    ((firstVerdict versioned directory tree).or (firstVerdict excluded directory tree))).getD false

end IgnoreLevel

end CodeAudit
