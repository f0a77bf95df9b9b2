import CodeAudit.Pattern.Basic

/-!
# Globs

A glob describes paths.  A question mark and a star stand for characters of one name, two stars
between slashes for any number of directories, brackets for a set of characters and braces for
alternatives; a backslash makes the next character stand for itself.  Paths are compared byte by
byte.
-/

namespace CodeAudit

/-- A part of a glob. -/
inductive GlobPart where
  | literal (c : Char)
  /-- Any character but a slash. -/
  | any
  /-- Any characters but slashes. -/
  | run
  /-- Two stars and a slash at the beginning. -/
  | deepStart
  /-- A slash and two stars at the end. -/
  | deepEnd
  /-- Two stars between slashes. -/
  | deepMiddle
  | set (negated : Bool) (ranges : List (Char × Char))
  | choice (branches : List (List GlobPart))
  deriving Inhabited

namespace GlobPart

/-- The parts that a set of characters begins with, after the opening bracket: the ranges and what
follows the closing bracket.  `first` holds up to the first character, and `open'` after a hyphen that
may continue a range.  The outer option is empty if the set is not closed, the inner one if a range
is reversed. -/
def readRanges (first open' : Bool) (ranges : List (Char × Char)) :
    List Char → Option (Option (List (Char × Char) × List Char))
  | [] => none
  | c :: rest =>
    if c = ']' && !first then
      some (some ((if open' then ('-', '-') :: ranges else ranges).reverse, rest))
    else if c = '-' && !first && !open' then readRanges false true ranges rest
    else
      match open', ranges with
      | true, (low, _) :: others =>
        if c < low then some none
        else readRanges false false ((low, c) :: others) rest
      | _, _ => readRanges false false ((c, c) :: ranges) rest

/-- A set of characters after the opening bracket. -/
def readSet (text : List Char) : Option (Option (GlobPart × List Char)) :=
  let (negated, text) :=
    match text with
    | '!' :: rest | '^' :: rest => (true, rest)
    | _ => (false, text)
  (readRanges true false [] text).map fun found =>
    found.map fun (ranges, rest) => (.set negated ranges, rest)

/-- What has been read: the parts of the branch at hand, the last one first, and around it the open
braces, each with the branches before and the parts before the brace. -/
structure Reading where
  parts : List GlobPart
  outer : List (List (List GlobPart) × List GlobPart)

/-- Adds a part to the branch at hand. -/
def Reading.push (r : Reading) (part : GlobPart) : Reading := { r with parts := part :: r.parts }

/-- Two stars after `previous` and before `rest`: the parts with what they stand for, and what is
left to read. -/
def readDeep (r : Reading) (previous : Option Char) (rest : List Char) : Reading × List Char :=
  let plain := ((r.push .run).push .run, rest)
  match r.parts with
  | [] =>
    match rest with
    | [] => (r.push .deepStart, [])
    | '/' :: rest => (r.push .deepStart, rest)
    | _ => plain
  | last :: before =>
    let inBraces := !r.outer.isEmpty && (previous = some ',' || previous = some '{')
    if previous = some '/' || inBraces then
      let replaced (part : GlobPart) (rest : List Char) : Reading × List Char :=
        match last with
        | .deepStart | .deepEnd => (r, rest)
        | _ => ({ r with parts := part :: before }, rest)
      match rest with
      | [] => replaced .deepEnd []
      | '/' :: rest => replaced .deepMiddle rest
      | c :: _ =>
        if !r.outer.isEmpty && (c = ',' || c = '}') then replaced .deepEnd rest else plain
    else plain

/-- Reads the parts of a glob.  `brackets` says whether brackets still make a set: they do until
one of them is not closed. -/
def read (brackets : Bool) (previous : Option Char) (r : Reading) :
    (fuel : Nat) → List Char → Option (List GlobPart)
  | 0, _ => none
  | _ + 1, [] => if r.outer.isEmpty then some r.parts.reverse else none
  | fuel + 1, c :: rest =>
    let next (r : Reading) := read brackets (some c) r fuel rest
    match c with
    | '?' => next (r.push .any)
    | '*' =>
      match rest with
      | '*' :: after =>
        let (r, left) := readDeep r previous after
        let last := if left.length < after.length then '/' else '*'
        read brackets (some last) r fuel left
      | _ => next (r.push .run)
    | '[' =>
      if brackets then
        match readSet rest with
        | none => read false (some c) (r.push (.literal '[')) fuel rest
        | some none => none
        | some (some (part, left)) => read brackets (some ']') (r.push part) fuel left
      else next (r.push (.literal '['))
    | '{' => next ⟨[], ([], r.parts) :: r.outer⟩
    | '}' =>
      match r.outer with
      | [] => none
      | (branches, before) :: outer =>
        next ⟨.choice ((r.parts.reverse :: branches).reverse) :: before, outer⟩
    | ',' =>
      match r.outer with
      | [] => next (r.push (.literal ','))
      | (branches, before) :: outer => next ⟨[], (r.parts.reverse :: branches, before) :: outer⟩
    | '\\' =>
      match rest with
      | [] => none
      | escaped :: rest => read brackets (some escaped) (r.push (.literal escaped)) fuel rest
    | _ => next (r.push (.literal c))

open Pattern

/-- A slash. -/
def slash : UInt8 := 47

/-- The bytes of a character. -/
def bytesOf (c : Char) : List UInt8 := c.toString.toUTF8.toList

/-- One byte of a set. -/
def byteIn (ranges : List (Char × Char)) (b : UInt8) : Bool :=
  ranges.any fun (low, high) =>
    let least := bytesOf low
    let greatest := bytesOf high
    if low = high then least.contains b
    else
      least.dropLast.contains b || greatest.tail.contains b
        || (least.getLast?.any (· ≤ b) && greatest.head?.any (b ≤ ·))

mutual

/-- Whether a part stands for nothing at all: it is a choice, and so is every part of its branches. -/
def isVoid : GlobPart → Bool
  | .choice branches => areVoid branches
  | _ => false

/-- Whether all parts of a branch stand for nothing. -/
def isVoidBranch : List GlobPart → Bool
  | [] => true
  | part :: rest => isVoid part && isVoidBranch rest

/-- Whether all branches stand for nothing. -/
def areVoid : List (List GlobPart) → Bool
  | [] => true
  | branch :: rest => isVoidBranch branch && areVoid rest

end

mutual

/-- The pattern of a part. -/
def pattern : GlobPart → Pattern UInt8
  | .literal c => inOrder ((bytesOf c).map fun byte => element fun b => b == byte)
  | .any => element fun b => b != slash
  | .run => star (element fun b => b != slash)
  | .deepStart =>
    anyOf [empty, seq (star (element fun _ => true)) (element fun b => b == slash)]
  | .deepEnd => seq (element fun b => b == slash) (star (element fun _ => true))
  | .deepMiddle =>
    let separator : Pattern UInt8 := element fun b => b == slash
    either separator (inOrder [separator, star (element fun _ => true), separator])
  | .set negated ranges => element fun b => byteIn ranges b != negated
  | .choice branches =>
    match branchPatterns branches with
    | [] => empty
    | patterns => anyOf patterns

/-- The pattern of parts one after another. -/
def sequence : List GlobPart → Pattern UInt8
  | [] => empty
  | part :: rest => seq (pattern part) (sequence rest)

/-- The patterns of branches; a branch that stands for nothing does not count. -/
def branchPatterns : List (List GlobPart) → List (Pattern UInt8)
  | [] => []
  | branch :: rest =>
    if isVoidBranch branch then branchPatterns rest
    else sequence branch :: branchPatterns rest

end

end GlobPart

/-- A glob is a list of parts. -/
structure Glob where
  parts : List GlobPart
  deriving Inhabited

namespace Glob

/-- The glob that a text spells. -/
def ofText? (text : List Char) : Option Glob :=
  (GlobPart.read true none ⟨[], []⟩ (text.length + 1) text).map fun parts => ⟨parts⟩

/-- The pattern of the whole path. -/
def pattern (glob : Glob) : Pattern UInt8 :=
  match glob.parts with
  | [.deepStart] => .empty
  | parts => Pattern.inOrder [Pattern.beginning, GlobPart.sequence parts, Pattern.ending]

/-- Whether the glob describes a path. -/
def accepts (glob : Glob) (path : String) : Bool :=
  glob.pattern.occursIn path.toUTF8.toList

end Glob

end CodeAudit
