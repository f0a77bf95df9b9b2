import CodeAudit.Proofs.Files.Selection
import CodeAudit.Proofs.Text.ByteOrder
import Mathlib.Data.List.Nodup

/-!
# What a relative path identifies

The walk meets every file once, since a directory lists every name once, and the path of a file tells
which one it is.  The relative path is the rest of this path below the project, with a slash for every
backslash.  A backslash is an ordinary character of a name, so `a\b` and the file `b` in the directory
`a` have the same relative path, which is the path of the second one only.

Relative paths identify the files of a project exactly where no two of them differ in that way, and
then discovery gives them in strictly increasing order.

**Results.**
* `nodup_walkEntries`: the walk meets no file twice.
* `join_pathBelow`: the path of a file is joined from the project and the rest.
* `join_relativePath_iff`: when it is joined from the project and the relative path.
* `relative_paths_identify_iff`: all of it for the files that discovery gives.
* `backslash_names_collide`: two files with one relative path.
-/

namespace CodeAudit
namespace Discovery

/-- A directory with these entries lists every name once, and so do the directories below it. -/
inductive ListsOnce : List (String × Entry) → Prop
  | nil : ListsOnce []
  | cons
      {name : String}
      {entry : Entry}
      {rest : List (String × Entry)}
      (hfresh : name ∉ rest.map Prod.fst)
      (hinner : ListsOnce entry.entries)
      (hrest : ListsOnce rest) :
      ListsOnce ((name, entry) :: rest)

section Walk

variable {extra : List String} {levelAt : List String → IgnoreLevel}

/-- The names of a file begin with the name of an entry. -/
theorem HoldsFile.exists_head
    {entries : List (String × Entry)}
    {names : List String}
    {content : ByteArray}
    (hholds : HoldsFile entries names content) :
    ∃ name rest, names = name :: rest ∧ name ∈ entries.map Prod.fst := by
  cases hholds with
  | here hmem =>
      exact ⟨_, [], rfl, List.mem_map_of_mem hmem⟩
  | inside hmem hinner =>
      exact ⟨_, _, rfl, List.mem_map_of_mem hmem⟩

/-- Files below entries of different names are different. -/
theorem names_ne_of_meets
    {above : List String}
    {around : Surroundings}
    {entries others : List (String × Entry)}
    {met other : Met}
    (hmet : Meets extra levelAt above around entries met)
    (hother : Meets extra levelAt above around others other)
    (hapart : ∀ name ∈ entries.map Prod.fst, name ∉ others.map Prod.fst) :
    met.names ≠ other.names := by
  obtain ⟨names, content, hholds, rfl, -⟩ := hmet
  obtain ⟨names', content', hholds', rfl, -⟩ := hother
  obtain ⟨name, rest, rfl, hname⟩ := hholds.exists_head
  obtain ⟨name', rest', rfl, hname'⟩ := hholds'.exists_head
  intro heq
  obtain ⟨rfl, -⟩ := List.cons.inj (List.append_cancel_left heq)
  exact hapart name hname hname'

/-- The walk meets no file twice. -/
theorem nodup_walkEntries
    {entries : List (String × Entry)}
    (hlisted : ListsOnce entries)
    (above : List String)
    (around : Surroundings) :
    ((walkEntries extra levelAt above around entries).map Met.names).Nodup := by
  induction hlisted generalizing above around with
  | nil =>
      simp [walkEntries]
  | @cons name entry rest hfresh _ _ ihinner ihrest =>
      rw [walkEntries, List.map_append, List.nodup_append]
      refine ⟨?_, ihrest above around, ?_⟩
      · cases entry with
        | link target =>
            simp [walkEntry]
        | file content written =>
            rw [walkEntry]
            split <;> simp
        | directory inner =>
            rw [walkEntry]
            split
            · simp
            · exact ihinner _ _
      · intro names hnames names' hnames'
        obtain ⟨met, hmet, rfl⟩ := List.mem_map.mp hnames
        obtain ⟨other, hother, rfl⟩ := List.mem_map.mp hnames'
        refine names_ne_of_meets ((mem_walkEntry_iff above around name met entry).mp hmet)
          ((mem_walkEntries_iff above around other rest).mp hother) ?_
        simpa using hfresh

end Walk

/-- A text with a slash for every backslash. -/
def slashed (text : String) : String :=
  .ofList (text.toList.map fun c => if c = '\\' then '/' else c)

/-- The path of a file below the project. -/
def pathBelow
    (root : String)
    (file : FileRecord) : String :=
  "/".intercalate ((Path.names file.path).drop (Path.names root).length)

section Slashes

theorem backslash_not_mem_slashed
    (text : String) :
    '\\' ∉ (slashed text).toList := by
  rw [slashed, String.toList_ofList, List.mem_map]
  rintro ⟨c, -, hc⟩
  by_cases hbackslash : c = '\\'
  · rw [if_pos hbackslash] at hc
    exact absurd hc (by decide)
  · rw [if_neg hbackslash] at hc
    exact hbackslash hc

theorem slashed_eq_self
    {text : String}
    (hplain : '\\' ∉ text.toList) :
    slashed text = text := by
  rw [slashed, map_slash_eq_self hplain, String.ofList_toList]

end Slashes

section Record

variable (root : String) {met : Met}
variable (hnames : ∀ name ∈ met.names, Path.IsFileName name)

include hnames

theorem relativePath_record :
    (record root met).relativePath = slashed (pathBelow root (record root met)) := by
  rw [pathBelow, names_record root hnames]
  rfl

variable (hne : met.names ≠ [])

include hne

/-- The path of a file is joined from the path of the project and the rest. -/
theorem join_pathBelow :
    Path.join root (pathBelow root (record root met)) = (record root met).path := by
  rw [pathBelow, names_record root hnames, record, Path.foldl_join_eq root hnames hne]

/-- It is joined from the path of the project and the relative path if there is no backslash in it. -/
theorem join_relativePath_iff :
    Path.join root (record root met).relativePath = (record root met).path ↔
      '\\' ∉ (pathBelow root (record root met)).toList := by
  have hrelative : Path.isAbsolute (pathBelow root (record root met)) = false := by
    rw [pathBelow, names_record root hnames]
    exact (Path.intercalate_ends hnames hne).2.1
  rw [← join_pathBelow root hnames hne, relativePath_record root hnames]
  constructor
  · intro hjoin hbackslash
    have hplain := backslash_not_mem_slashed (pathBelow root (record root met))
    cases habsolute : Path.isAbsolute (slashed (pathBelow root (record root met))) with
    | true =>
        -- a name that begins with a backslash: the relative path has become absolute
        rw [Path.join, habsolute, Bool.true_or, if_pos rfl,
          Path.join_of_relative root hrelative] at hjoin
        rw [hjoin, String.toList_append] at hplain
        exact hplain (List.mem_append_right _ hbackslash)
    | false =>
        rw [Path.join_of_relative root habsolute, Path.join_of_relative root hrelative] at hjoin
        have hlist := congrArg String.toList hjoin
        rw [String.toList_append, String.toList_append] at hlist
        rw [List.append_cancel_left hlist] at hplain
        exact hplain hbackslash
  · intro hplain
    rw [slashed_eq_self hplain]

end Record

section Discover

variable {fs : FileSystem} {root : String}
variable (config : Config)
variable (hnamed : WellNamed fs root) (hlisted : ListsOnce (projectEntries fs root))

include hnamed

/-- A file that discovery gives is the record of a file with names. -/
theorem exists_of_mem_discover
    {file : FileRecord}
    (hfile : file ∈ discover fs config root) :
    ∃ met, (∀ name ∈ met.names, Path.IsFileName name) ∧ met.names ≠ [] ∧
      record root met = file := by
  obtain ⟨met, hmet, -, hrecord⟩ := (mem_discover_iff fs config root file).mp hfile
  obtain ⟨hnames, hne⟩ := hnamed.of_mem_walk fs root hmet
  exact ⟨met, hnames, hne, hrecord⟩

include hlisted

/-- No two files that discovery gives have one path. -/
theorem nodup_discover_path :
    ((discover fs config root).map FileRecord.path).Nodup := by
  have hperm := ((List.mergeSort_perm (((walk fs config.extraExcludedDirs root).filter
    (Selection.of config).selects).map (record root)) pathOrder).map FileRecord.path)
  rw [discover_eq, hperm.nodup_iff, List.map_map]
  have hwalk : ((walk fs config.extraExcludedDirs root).map Met.names).Nodup := by
    rw [walk_eq]
    exact nodup_walkEntries hlisted _ _
  have hnames := hwalk.sublist (List.Sublist.map Met.names
    (List.filter_sublist (p := (Selection.of config).selects)))
  refine List.Nodup.map_on ?_ hnames.of_map
  intro met hmet other hother hpath
  have hwalked := hnamed.of_mem_walk fs root (List.mem_of_mem_filter hmet)
  have hwalked' := hnamed.of_mem_walk fs root (List.mem_of_mem_filter hother)
  have hsame : met.names = other.names := by
    rw [← names_record root hwalked.1, ← names_record root hwalked'.1]
    exact congrArg (fun path => (Path.names path).drop (Path.names root).length) hpath
  exact List.inj_on_of_nodup_map hnames hmet hother hsame

/-- Files of one path are one file. -/
theorem eq_of_path_eq
    {a b : FileRecord}
    (ha : a ∈ discover fs config root)
    (hb : b ∈ discover fs config root)
    (hpath : a.path = b.path) :
    a = b :=
  List.inj_on_of_nodup_map (nodup_discover_path config hnamed hlisted) ha hb hpath

omit hnamed hlisted in
/-- Discovery gives the files in the order of the bytes of their relative paths. -/
theorem discover_sorted :
    (discover fs config root).Pairwise fun a b => a.relativePath ≤ b.relativePath := by
  have hsorted := List.pairwise_mergeSort pathOrder_trans pathOrder_total
    (((walk fs config.extraExcludedDirs root).filter (Selection.of config).selects).map
      (record root))
  rw [← discover_eq] at hsorted
  exact hsorted.imp fun hle => (pathOrder_iff _ _).mp hle

/-- The order is strict if and only if no two files share a relative path. -/
theorem discover_strictly_sorted_iff :
    (discover fs config root).Pairwise (fun a b => a.relativePath < b.relativePath) ↔
      ∀ a ∈ discover fs config root, ∀ b ∈ discover fs config root,
        a.relativePath = b.relativePath → a = b := by
  constructor
  · intro hstrict a ha b hb hshared
    have hapart : (discover fs config root).Pairwise
        fun a b => a.relativePath ≠ b.relativePath := hstrict.imp ne_of_lt
    have hkeys : ((discover fs config root).map FileRecord.relativePath).Nodup :=
      List.pairwise_map.mpr hapart
    exact List.inj_on_of_nodup_map hkeys ha hb hshared
  · intro hinjective
    have hdistinct : (discover fs config root).Nodup :=
      (nodup_discover_path config hnamed hlisted).of_map
    have hsorted : (discover fs config root).Pairwise fun a b => a.relativePath ≤ b.relativePath :=
      discover_sorted config
    have hboth := hsorted.and hdistinct
    refine hboth.imp_of_mem ?_
    intro a b ha hb hab
    rcases lt_or_eq_of_le hab.1 with hlt | heq
    · exact hlt
    · exact absurd (hinjective a ha b hb heq) hab.2

end Discover

/--
Relative paths identify the files that discovery gives exactly where backslashes allow it.

The paths of the files are all different, and each of them is joined from the path of the project and
the rest of it below the project.  The relative path is this rest with a slash for every backslash;
joined to the path of the project it names the same file if and only if there is no backslash in the
rest.  The relative paths never decrease in the order of their bytes.  They strictly increase if and
only if no two files differ below the project only in writing a slash or a backslash, and so they do
where no file has a backslash in its path below the project.
-/
theorem relative_paths_identify_iff
    (fs : FileSystem)
    (config : Config)
    (root : String)
    (hnamed : WellNamed fs root)
    (hlisted : ListsOnce (projectEntries fs root)) :
    let files := discover fs config root
    let increasing :=
      files.Pairwise fun a b => Text.bytes a.relativePath < Text.bytes b.relativePath
    (files.map FileRecord.path).Nodup ∧
      (∀ file ∈ files,
        Path.join root (pathBelow root file) = file.path ∧
          file.relativePath = slashed (pathBelow root file) ∧
          (Path.join root file.relativePath = file.path ↔
            '\\' ∉ (pathBelow root file).toList)) ∧
      files.Pairwise (fun a b => ¬ Text.bytes b.relativePath < Text.bytes a.relativePath) ∧
      (increasing ↔
        ∀ a ∈ files, ∀ b ∈ files,
          slashed (pathBelow root a) = slashed (pathBelow root b) → a = b) ∧
      ((∀ file ∈ files, '\\' ∉ (pathBelow root file).toList) → increasing) := by
  intro files increasing
  have hrecords : ∀ file ∈ files,
      Path.join root (pathBelow root file) = file.path ∧
        file.relativePath = slashed (pathBelow root file) ∧
        (Path.join root file.relativePath = file.path ↔
          '\\' ∉ (pathBelow root file).toList) := by
    intro file hfile
    obtain ⟨met, hnames, hne, rfl⟩ := exists_of_mem_discover config hnamed hfile
    exact ⟨join_pathBelow root hnames hne, relativePath_record root hnames,
      join_relativePath_iff root hnames hne⟩
  have hincreasing : increasing ↔
      ∀ a ∈ files, ∀ b ∈ files,
        slashed (pathBelow root a) = slashed (pathBelow root b) → a = b := by
    have hstrict := discover_strictly_sorted_iff config hnamed hlisted
    simp only [Text.lt_iff_bytes_lt] at hstrict
    refine hstrict.trans (forall₂_congr fun a ha => forall₂_congr fun b hb => ?_)
    rw [(hrecords a ha).2.1, (hrecords b hb).2.1]
  refine ⟨nodup_discover_path config hnamed hlisted, hrecords, ?_, hincreasing, ?_⟩
  · refine (discover_sorted config).imp ?_
    intro a b hle
    rw [← Text.lt_iff_bytes_lt, String.not_lt]
    exact hle
  · intro hplain
    rw [hincreasing]
    intro a ha b hb hslashed
    rw [slashed_eq_self (hplain a ha), slashed_eq_self (hplain b hb)] at hslashed
    refine eq_of_path_eq config hnamed hlisted ha hb ?_
    rw [← (hrecords a ha).1, ← (hrecords b hb).1, hslashed]

theorem sampleProject_listsOnce :
    ListsOnce (projectEntries sampleProject "/target") := by
  change ListsOnce
    [("a.py", .file "print(1)".toUTF8 0),
     ("generated", .directory [("b.py", .file "print(2)".toUTF8 0)])]
  exact .cons (by simp) .nil (.cons (by simp) (.cons (by simp) .nil .nil) .nil)

/-- Without backslashes the files of a project are told apart by their relative paths. -/
theorem sampleProject_identified :
    let files := discover sampleProject Config.default "/target"
    WellNamed sampleProject "/target" ∧
      ListsOnce (projectEntries sampleProject "/target") ∧
      files.Pairwise (fun a b => Text.bytes a.relativePath < Text.bytes b.relativePath) ∧
      ∀ file ∈ files, Path.join "/target" file.relativePath = file.path := by
  intro files
  obtain ⟨-, hrecords, -, -, hincreasing⟩ := relative_paths_identify_iff sampleProject
    Config.default "/target" sampleProject_wellNamed sampleProject_listsOnce
  have hplain : ∀ file ∈ files, '\\' ∉ (pathBelow "/target" file).toList := by
    have hwalk : ∀ met ∈ walk sampleProject Config.default.extraExcludedDirs "/target",
        '\\' ∉ (pathBelow "/target" (record "/target" met)).toList := by
      decide +kernel
    intro file hfile
    obtain ⟨met, hmet, -, rfl⟩ := (mem_discover_iff _ _ _ file).mp hfile
    exact hwalk met hmet
  refine ⟨sampleProject_wellNamed, sampleProject_listsOnce, hincreasing hplain, ?_⟩
  intro file hfile
  exact (hrecords file hfile).2.2.mpr (hplain file hfile)

/-- A project with a file `b.py` in a directory `a`, and a file that is called `a\b.py`. -/
def backslashProject : FileSystem where
  root := .directory
    [("p", .directory
      [("a", .directory [("b.py", .file "print(1)".toUTF8 0)]),
       ("a\\b.py", .file "print(2)".toUTF8 0)])]
  current := []
  now := 0

/--
Two files have the same relative path, which names the first one: with it the second one cannot be
found, and the order is not strict.
-/
theorem backslash_names_collide :
    let files := discover backslashProject Config.default "/p"
    files.map FileRecord.path = ["/p/a/b.py", "/p/a\\b.py"] ∧
      files.map FileRecord.relativePath = ["a/b.py", "a/b.py"] ∧
      ¬ files.Pairwise (fun a b => Text.bytes a.relativePath < Text.bytes b.relativePath) ∧
      ∃ file ∈ files, Path.join "/p" file.relativePath ≠ file.path := by
  intro files
  have hfiles : files = [record "/p" ⟨["a", "b.py"], 8⟩, record "/p" ⟨["a\\b.py"], 8⟩] := by
    have hwalk : (walk backslashProject Config.default.extraExcludedDirs "/p").filter
        (Selection.of Config.default).selects = [⟨["a", "b.py"], 8⟩, ⟨["a\\b.py"], 8⟩] := by
      decide +kernel
    rw [show files = discover backslashProject Config.default "/p" from rfl, discover_eq, hwalk]
    exact List.mergeSort_of_pairwise (by decide +kernel)
  rw [hfiles]
  refine ⟨by decide +kernel, by decide +kernel, ?_, record "/p" ⟨["a\\b.py"], 8⟩, by simp,
    by decide +kernel⟩
  intro hstrict
  have hlt := List.rel_of_pairwise_cons hstrict (List.mem_singleton_self _)
  rw [← Text.lt_iff_bytes_lt] at hlt
  exact absurd hlt (by decide +kernel)

end Discovery
end CodeAudit
