/-!
# Entries of a file system

An entry is a file with its content and the time when it was written, a symbolic link, or a
directory.  A directory lists its entries by name, every name once.  Names are texts: entries whose
names are not UTF-8 are left out, and so are the times at which directories were changed.
-/

namespace CodeAudit

/-- An entry of a file system. -/
inductive Entry where
  | file (content : ByteArray) (written : Nat)
  | link (target : String)
  | directory (entries : List (String × Entry))
  deriving Inhabited

namespace Entry

/-- Whether the entry is a directory. -/
def isDirectory : Entry → Bool
  | directory _ => true
  | _ => false

/-- The entries of a directory; other entries have none. -/
def entries : Entry → List (String × Entry)
  | directory entries => entries
  | _ => []

/-- The entry with a name in a directory. -/
def child? (entry : Entry) (name : String) : Option Entry := entry.entries.lookup name

/-- Puts an entry under a name, in place of what was there. -/
def setIn (name : String) (entry : Entry) : List (String × Entry) → List (String × Entry)
  | [] => [(name, entry)]
  | (other, kept) :: rest =>
    if other = name then (name, entry) :: rest else (other, kept) :: setIn name entry rest

/-- Takes a name out of a list of entries. -/
def removeIn (name : String) (entries : List (String × Entry)) : List (String × Entry) :=
  entries.filter fun (other, _) => other != name

/-- Changes the entries of the directory at the end of a list of names. -/
def changeAt (change : List (String × Entry) → List (String × Entry)) :
    List String → Entry → Entry
  | [], directory entries => directory (change entries)
  | name :: rest, directory entries =>
    match entries.lookup name with
    | some entry => directory (setIn name (changeAt change rest entry) entries)
    | none => directory entries
  | _, entry => entry

end Entry

end CodeAudit
