import CodeAudit.Text.Line

/-!
# Paths

A path is a text whose parts are separated by slashes.  Empty parts and `.` do not matter, except
that a slash at the end asks for a directory.
-/

namespace CodeAudit
namespace Path

/-- Whether a path starts at the root of the file system. -/
def isAbsolute (path : String) : Bool := path.toList.head? == some '/'

/-- Whether a path has a slash at its end. -/
def endsInSlash (path : String) : Bool := path.toList.getLast? == some '/'

/-- A path below another one; an absolute path stays as it is. -/
def join (base path : String) : String :=
  if isAbsolute path || base.isEmpty then path
  else if endsInSlash base then base ++ path
  else base ++ "/" ++ path

/-- The parts of a path between its slashes. -/
def parts (path : String) : List String :=
  ((Text.splitAt '/' path.toList).map String.ofList).filter fun part => !part.isEmpty

/-- The parts of a path that are to be followed one after another; a final slash becomes `.`. -/
def steps (path : String) : List String :=
  let named := parts path
  if endsInSlash path && !named.isEmpty then named ++ ["."] else named

/-- The names in a path. -/
def names (path : String) : List String := (steps path).filter fun step => step != "."

/-- The paths of the directories above a path, the nearest one first; the root is not among them. -/
def above (path : String) : List String :=
  let names := names path
  ((List.range names.length).drop 1).reverse.map fun count =>
    (if isAbsolute path then "/" else "") ++ "/".intercalate (names.take count)

/-- The last name in a path, unless the path goes up there. -/
def fileName? (path : String) : Option String :=
  (names path).getLast?.filter fun name => name != ".."

/-- What follows the last dot of a file name; a name that only begins with a dot has none. -/
def extensionOf? (name : String) : Option String :=
  let reversed := name.toList.reverse
  match reversed.dropWhile fun c => c != '.' with
  | [] | [_] => none
  | _ => some (String.ofList (reversed.takeWhile fun c => c != '.').reverse)

end Path
end CodeAudit
