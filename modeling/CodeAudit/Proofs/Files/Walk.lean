import CodeAudit.Files.Discovery
import Mathlib.Data.List.Basic

/-!
# What the walk meets

The walk goes down the directories and cuts off those that are excluded or ignored.  Whether it
meets a file can be said without the walk, from the names on the way to the file: the tree holds a
file there, no directory on the way has an excluded name, and neither the file nor a directory on
the way is ignored.

**Results.**
* `mem_walkEntries_iff`, `mem_walk_iff`: the files that the walk meets.
* `walkEntries_extra`, `walk_extra`: leaving out directories on the way down is the same as leaving
  out the files below them afterwards, in the same order.
-/

namespace CodeAudit
namespace Discovery

/-- The file at the end of these names, which begin among the entries of a directory. -/
inductive HoldsFile : List (String × Entry) → List String → ByteArray → Prop
  | here {entries : List (String × Entry)} {name : String} {content : ByteArray} {written : Nat} :
      (name, .file content written) ∈ entries → HoldsFile entries [name] content
  | inside {entries inner : List (String × Entry)} {name : String} {names : List String}
      {content : ByteArray} :
      (name, .directory inner) ∈ entries → HoldsFile inner names content →
        HoldsFile entries (name :: names) content

section HoldsFile

variable {names : List String} {content : ByteArray}

theorem HoldsFile.names_ne_nil
    {entries : List (String × Entry)}
    (hholds : HoldsFile entries names content) :
    names ≠ [] := by
  cases hholds with
  | here hmem =>
      simp
  | inside hmem hinner =>
      simp

theorem HoldsFile.mono
    {entries more : List (String × Entry)}
    (hholds : HoldsFile entries names content)
    (hsubset : entries ⊆ more) :
    HoldsFile more names content := by
  cases hholds with
  | here hmem =>
      exact .here (hsubset hmem)
  | inside hmem hinner =>
      exact .inside (hsubset hmem) hinner

@[simp] theorem not_holdsFile_nil :
    ¬ HoldsFile [] names content := by
  intro hholds
  cases hholds with
  | here hmem =>
      simp at hmem
  | inside hmem hinner =>
      simp at hmem

theorem holdsFile_cons_iff
    (entry : String × Entry)
    (rest : List (String × Entry)) :
    HoldsFile (entry :: rest) names content ↔
      HoldsFile [entry] names content ∨ HoldsFile rest names content := by
  constructor
  · intro hholds
    cases hholds with
    | here hmem =>
        rcases List.mem_cons.mp hmem with rfl | hmem
        · exact .inl (.here List.mem_cons_self)
        · exact .inr (.here hmem)
    | inside hmem hinner =>
        rcases List.mem_cons.mp hmem with rfl | hmem
        · exact .inl (.inside List.mem_cons_self hinner)
        · exact .inr (.inside hmem hinner)
  · rintro (hholds | hholds)
    · exact hholds.mono (by simp)
    · exact hholds.mono (by simp)

@[simp] theorem not_holdsFile_link
    (name target : String) :
    ¬ HoldsFile [(name, .link target)] names content := by
  intro hholds
  cases hholds with
  | here hmem =>
      simp at hmem
  | inside hmem hinner =>
      simp at hmem

theorem holdsFile_file_iff
    (name : String)
    (bytes : ByteArray)
    (written : Nat) :
    HoldsFile [(name, .file bytes written)] names content ↔
      names = [name] ∧ content = bytes := by
  constructor
  · intro hholds
    cases hholds with
    | here hmem =>
        simp at hmem
        exact ⟨by rw [hmem.1], hmem.2.1⟩
    | inside hmem hinner =>
        simp at hmem
  · rintro ⟨rfl, rfl⟩
    exact .here (List.mem_singleton_self (name, Entry.file content written))

theorem holdsFile_directory_iff
    (name : String)
    (inner : List (String × Entry)) :
    HoldsFile [(name, .directory inner)] names content ↔
      ∃ rest, names = name :: rest ∧ HoldsFile inner rest content := by
  constructor
  · intro hholds
    cases hholds with
    | here hmem =>
        simp at hmem
    | @inside _ inner' _ rest _ hmem hinner =>
        simp at hmem
        obtain ⟨rfl, rfl⟩ := hmem
        exact ⟨rest, rfl, hinner⟩
  · rintro ⟨rest, rfl, hinner⟩
    exact .inside (by simp) hinner

end HoldsFile

/-- Whether a file is ignored, or a directory on the way to it.  The names begin in the directory
`above` with its surroundings. -/
def ignoredAlong
    (levelAt : List String → IgnoreLevel) :
    (above : List String) → Surroundings → (names : List String) → Bool
  | _, _, [] => false
  | _, around, [name] => IgnoreLevel.ignores (around.below name) false
  | above, around, name :: next :: rest =>
    IgnoreLevel.ignores (around.below name) true ||
      ignoredAlong levelAt (above ++ [name])
        ((levelAt (above ++ [name]), []) :: around.below name) (next :: rest)

theorem ignoredAlong_cons
    (levelAt : List String → IgnoreLevel)
    (above : List String)
    (around : Surroundings)
    (name : String)
    {rest : List String}
    (hrest : rest ≠ []) :
    ignoredAlong levelAt above around (name :: rest) =
      (IgnoreLevel.ignores (around.below name) true ||
        ignoredAlong levelAt (above ++ [name])
          ((levelAt (above ++ [name]), []) :: around.below name) rest) := by
  cases rest with
  | nil =>
      exact absurd rfl hrest
  | cons next rest =>
      rfl

section Walk

variable (extra : List String) (levelAt : List String → IgnoreLevel)

/-- A file that the walk among these entries has to meet. -/
def Meets
    (above : List String)
    (around : Surroundings)
    (entries : List (String × Entry))
    (met : Met) : Prop :=
  ∃ names content,
    HoldsFile entries names content ∧
      met = ⟨above ++ names, content.size⟩ ∧
      (∀ directory ∈ names.dropLast, isExcluded extra directory = false) ∧
      ignoredAlong levelAt above around names = false

variable {extra levelAt}
variable {above : List String} {around : Surroundings} {met : Met}

theorem meets_cons_iff
    (entry : String × Entry)
    (rest : List (String × Entry)) :
    Meets extra levelAt above around (entry :: rest) met ↔
      Meets extra levelAt above around [entry] met ∨
        Meets extra levelAt above around rest met := by
  constructor
  · rintro ⟨names, content, hholds, hwhere⟩
    rcases (holdsFile_cons_iff entry rest).mp hholds with hholds | hholds
    · exact .inl ⟨names, content, hholds, hwhere⟩
    · exact .inr ⟨names, content, hholds, hwhere⟩
  · rintro (⟨names, content, hholds, hwhere⟩ | ⟨names, content, hholds, hwhere⟩)
    · exact ⟨names, content, (holdsFile_cons_iff entry rest).mpr (.inl hholds), hwhere⟩
    · exact ⟨names, content, (holdsFile_cons_iff entry rest).mpr (.inr hholds), hwhere⟩

theorem meets_file_iff
    (name : String)
    (bytes : ByteArray)
    (written : Nat) :
    Meets extra levelAt above around [(name, .file bytes written)] met ↔
      IgnoreLevel.ignores (around.below name) false = false ∧
        met = ⟨above ++ [name], bytes.size⟩ := by
  constructor
  · rintro ⟨names, content, hholds, hmet, -, hignored⟩
    obtain ⟨rfl, rfl⟩ := (holdsFile_file_iff name bytes written).mp hholds
    exact ⟨hignored, hmet⟩
  · rintro ⟨hignored, hmet⟩
    exact ⟨[name], bytes, (holdsFile_file_iff name bytes written).mpr ⟨rfl, rfl⟩, hmet,
      by simp, hignored⟩

/-- Below a directory the walk meets what it meets among the entries of the directory. -/
theorem meets_directory_iff
    (name : String)
    (inner : List (String × Entry)) :
    Meets extra levelAt above around [(name, .directory inner)] met ↔
      isExcluded extra name = false ∧
        IgnoreLevel.ignores (around.below name) true = false ∧
        Meets extra levelAt (above ++ [name])
          ((levelAt (above ++ [name]), []) :: around.below name) inner met := by
  constructor
  · rintro ⟨names, content, hholds, hmet, hexcluded, hignored⟩
    obtain ⟨rest, rfl, hinner⟩ := (holdsFile_directory_iff name inner).mp hholds
    have hrest : rest ≠ [] := hinner.names_ne_nil
    rw [List.dropLast_cons_of_ne_nil hrest] at hexcluded
    rw [ignoredAlong_cons _ _ _ _ hrest, Bool.or_eq_false_iff] at hignored
    refine ⟨hexcluded name (by simp), hignored.1, rest, content, hinner, ?_, ?_, hignored.2⟩
    · rw [hmet, List.append_assoc, List.singleton_append]
    · intro directory hdirectory
      exact hexcluded directory (by simp [hdirectory])
  · rintro ⟨hname, hentered, rest, content, hinner, hmet, hexcluded, hignored⟩
    have hrest : rest ≠ [] := hinner.names_ne_nil
    refine ⟨name :: rest, content,
      (holdsFile_directory_iff name inner).mpr ⟨rest, rfl, hinner⟩, ?_, ?_, ?_⟩
    · rw [hmet, List.append_assoc, List.singleton_append]
    · rw [List.dropLast_cons_of_ne_nil hrest]
      intro directory hdirectory
      rcases List.mem_cons.mp hdirectory with rfl | hdirectory
      · exact hname
      · exact hexcluded directory hdirectory
    · rw [ignoredAlong_cons _ _ _ _ hrest, hentered, hignored]
      rfl

mutual

theorem mem_walkEntry_iff
    (above : List String)
    (around : Surroundings)
    (name : String)
    (met : Met) :
    (entry : Entry) →
      (met ∈ walkEntry extra levelAt (above ++ [name]) (around.below name) entry ↔
        Meets extra levelAt above around [(name, entry)] met)
  | .link target => by
      simp [walkEntry, Meets]
  | .file content written => by
      rw [meets_file_iff]
      cases hignored : IgnoreLevel.ignores (around.below name) false with
      | true =>
          simp [walkEntry, hignored]
      | false =>
          simp [walkEntry, hignored]
  | .directory entries => by
      rw [meets_directory_iff, ← mem_walkEntries_iff (above ++ [name]) _ met entries]
      cases hexcluded : isExcluded extra name with
      | true =>
          simp [walkEntry, hexcluded]
      | false =>
          cases hignored : IgnoreLevel.ignores (around.below name) true with
          | true =>
              simp [walkEntry, hignored]
          | false =>
              simp [walkEntry, hexcluded, hignored]

/-- The walk meets the files that are held, and neither excluded nor ignored on the way. -/
theorem mem_walkEntries_iff
    (above : List String)
    (around : Surroundings)
    (met : Met) :
    (entries : List (String × Entry)) →
      (met ∈ walkEntries extra levelAt above around entries ↔
        Meets extra levelAt above around entries met)
  | [] => by
      simp [walkEntries, Meets]
  | (name, entry) :: rest => by
      rw [meets_cons_iff, walkEntries, List.mem_append,
        mem_walkEntry_iff above around name met entry,
        mem_walkEntries_iff above around met rest]

end

/-- No directory on the way to a file has one of the names; `depth` names are not looked at. -/
def isOutside
    (extra : List String)
    (depth : Nat)
    (met : Met) : Bool :=
  (met.names.drop depth).dropLast.all fun directory => !extra.contains directory

@[simp] theorem isOutside_nil
    (depth : Nat)
    (met : Met) :
    isOutside [] depth met = true := by
  simp [isOutside]

theorem isOutside_inside
    (extra : List String)
    (above : List String)
    (name : String)
    {rest : List String}
    (hrest : rest ≠ [])
    (size : Nat) :
    isOutside extra above.length ⟨above ++ [name] ++ rest, size⟩ =
      (!extra.contains name &&
        isOutside extra (above ++ [name]).length ⟨above ++ [name] ++ rest, size⟩) := by
  have hdrop : (above ++ [name] ++ rest).drop above.length = name :: rest := by
    rw [List.append_assoc, List.drop_left, List.singleton_append]
  have hdrop' : (above ++ [name] ++ rest).drop (above ++ [name]).length = rest :=
    List.drop_left
  simp only [isOutside, hdrop, hdrop', List.dropLast_cons_of_ne_nil hrest, List.all_cons]

theorem isExcluded_extra
    (extra : List String)
    (name : String) :
    isExcluded extra name = (isExcluded [] name || extra.contains name) := by
  simp [isExcluded]

/-- The walk inside a directory meets only files with more names than the directory. -/
theorem names_of_mem_walkEntries
    {entries : List (String × Entry)}
    (hmet : met ∈ walkEntries extra levelAt above around entries) :
    ∃ rest size, rest ≠ [] ∧ met = ⟨above ++ rest, size⟩ := by
  obtain ⟨names, content, hholds, hmet, -⟩ := (mem_walkEntries_iff above around met entries).mp hmet
  exact ⟨names, content.size, hholds.names_ne_nil, hmet⟩

mutual

theorem walkEntry_extra
    (above : List String)
    (around : Surroundings)
    (name : String) :
    (entry : Entry) →
      walkEntry extra levelAt (above ++ [name]) (around.below name) entry =
        (walkEntry [] levelAt (above ++ [name]) (around.below name) entry).filter
          (isOutside extra above.length)
  | .link target => by
      simp [walkEntry]
  | .file content written => by
      cases hignored : IgnoreLevel.ignores (around.below name) false with
      | true =>
          simp [walkEntry, hignored]
      | false =>
          simp [walkEntry, hignored, isOutside]
  | .directory entries => by
      have ih := walkEntries_extra (above ++ [name])
        ((levelAt (above ++ [name]), []) :: around.below name) entries
      simp only [walkEntry, List.getLastD_concat, isExcluded_extra extra name]
      cases hcut : isExcluded [] name || IgnoreLevel.ignores (around.below name) true with
      | true =>
          rw [Bool.or_right_comm, hcut]
          rfl
      | false =>
          rw [Bool.or_right_comm, hcut, Bool.false_or, if_neg Bool.false_ne_true]
          cases hextra : extra.contains name with
          | true =>
              -- the walk turns back here, and every file below has the name on its way
              rw [if_pos rfl, eq_comm, List.filter_eq_nil_iff]
              intro met hmet
              obtain ⟨rest, size, hrest, rfl⟩ := names_of_mem_walkEntries hmet
              rw [isOutside_inside extra above name hrest, hextra]
              simp
          | false =>
              rw [if_neg Bool.false_ne_true, ih]
              apply List.filter_congr
              intro met hmet
              obtain ⟨rest, size, hrest, rfl⟩ := names_of_mem_walkEntries hmet
              rw [isOutside_inside extra above name hrest, hextra]
              simp

/-- Turning back at a directory leaves out the files that have it on their way. -/
theorem walkEntries_extra
    (above : List String)
    (around : Surroundings) :
    (entries : List (String × Entry)) →
      walkEntries extra levelAt above around entries =
        (walkEntries [] levelAt above around entries).filter (isOutside extra above.length)
  | [] => by
      simp [walkEntries]
  | (name, entry) :: rest => by
      rw [walkEntries, walkEntries, List.filter_append,
        ← walkEntry_extra above around name entry,
        ← walkEntries_extra above around rest]

end

end Walk

section Project

variable (fs : FileSystem) (root : String)

/-- The entries of the directory of a project. -/
def projectEntries : List (String × Entry) :=
  match fs.locate root with
  | .arrived trail => (fs.reached trail).entries
  | _ => []

/-- The rules of a directory below a project. -/
def levelBelow (below : List String) : IgnoreLevel :=
  match fs.locate root with
  | .arrived trail => levelOf fs (absolutePath (FileSystem.trailNames trail ++ below))
  | _ => .none

/-- The directory of a project and those above it, with their rules. -/
def projectSurroundings : Surroundings :=
  match fs.locate root with
  | .arrived trail =>
    (levelBelow fs root [], []) :: levelsAbove fs [] (FileSystem.trailNames trail).reverse
  | _ => []

/-- The project holds a file at these names. -/
def ProjectHolds (names : List String) (content : ByteArray) : Prop :=
  HoldsFile (projectEntries fs root) names content

/-- Whether a file of a project is ignored, or a directory on the way to it. -/
def isIgnored (names : List String) : Bool :=
  ignoredAlong (levelBelow fs root) [] (projectSurroundings fs root) names

theorem walk_eq
    (extra : List String) :
    walk fs extra root =
      walkEntries extra (levelBelow fs root) [] (projectSurroundings fs root)
        (projectEntries fs root) := by
  unfold walk projectSurroundings projectEntries levelBelow
  cases fs.locate root with
  | arrived trail =>
      rfl
  | absent trail name =>
      simp [walkEntries]
  | failed fault =>
      simp [walkEntries]
  | linked trail target rest =>
      simp [walkEntries]

/-- The files that the walk meets below a project. -/
theorem mem_walk_iff
    (extra : List String)
    (met : Met) :
    met ∈ walk fs extra root ↔
      ∃ content,
        ProjectHolds fs root met.names content ∧
          met.size = content.size ∧
          (∀ directory ∈ met.names.dropLast, isExcluded extra directory = false) ∧
          isIgnored fs root met.names = false := by
  rw [walk_eq, mem_walkEntries_iff]
  constructor
  · rintro ⟨names, content, hholds, rfl, hexcluded, hignored⟩
    exact ⟨content, hholds, rfl, hexcluded, hignored⟩
  · rintro ⟨content, hholds, hsize, hexcluded, hignored⟩
    refine ⟨met.names, content, hholds, ?_, hexcluded, hignored⟩
    rw [← hsize, List.nil_append]

/-- Turning back at configured directories leaves out the files below them, and nothing else. -/
theorem walk_extra
    (extra : List String) :
    walk fs extra root = (walk fs [] root).filter (isOutside extra 0) := by
  rw [walk_eq, walk_eq]
  exact walkEntries_extra [] (projectSurroundings fs root) (projectEntries fs root)

end Project

end Discovery
end CodeAudit
