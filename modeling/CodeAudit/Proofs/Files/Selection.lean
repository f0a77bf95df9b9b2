import CodeAudit.Proofs.Files.Path
import CodeAudit.Proofs.Files.Walk
import CodeAudit.Proofs.Sorting

/-!
# Discovery factors through its filters

The extra directories are cut off while the walk goes down, sizes and extensions are looked at file
by file, and the records are sorted at the end.  None of this depends on the order in which it is
done: discovery gives the files that it gives without a selection, in the same order, less those
that a test on the record alone leaves out.

**Results.**
* `any_configured_eq`: an extension is configured when it is one of those of the selection.
* `keeps_record`: the test on a record and the tests on the names that the walk met.
* `discover_eq_filter`: discovery is filtered from the discovery without a selection.
-/

namespace CodeAudit
namespace Discovery

/-- The files of a project have names that files can have. -/
def WellNamed
    (fs : FileSystem)
    (root : String) : Prop :=
  ∀ names content, ProjectHolds fs root names content →
    ∀ name ∈ names, Path.IsFileName name

/-- A configuration that selects every file up to a size, in every directory. -/
def unselective
    (config : Config)
    (limit : Nat) : Config :=
  { config with fileExtensions := [], extraExcludedDirs := [], maxFileSize := limit }

/-- The directories strictly between a project and one of its files. -/
def directoriesBetween
    (root : String)
    (file : FileRecord) : List String :=
  ((Path.names file.path).drop (Path.names root).length).dropLast

/--
Whether a configuration keeps a file of a project.

An extension that is configured may begin with dots and may be in capitals: the extension of the file
is what is left without the dots, in lower case.
-/
def keeps
    (config : Config)
    (root : String)
    (file : FileRecord) : Bool :=
  decide (file.size ≤ config.maxFileSize) &&
    (config.fileExtensions.isEmpty ||
      (config.fileExtensions.any fun configured =>
        file.extension = some (Text.lowerCase (.ofList (configured.toList.dropWhile (· = '.'))))) ||
      (Path.fileName? file.path).any Language.isWellKnown) &&
    (directoriesBetween root file).all fun directory =>
      !config.extraExcludedDirs.contains directory

section Record

variable (root : String) {met : Met}

theorem names_record
    (hnames : ∀ name ∈ met.names, Path.IsFileName name) :
    (Path.names (record root met).path).drop (Path.names root).length = met.names := by
  rw [record, Path.names_foldl_join root hnames, List.drop_left]

theorem directoriesBetween_record
    (hnames : ∀ name ∈ met.names, Path.IsFileName name) :
    directoriesBetween root (record root met) = met.names.dropLast := by
  rw [directoriesBetween, names_record root hnames]

/-- A relative path is written as the names are where there is no backslash. -/
theorem map_slash_eq_self
    {text : List Char}
    (hplain : '\\' ∉ text) :
    text.map (fun c => if c = '\\' then '/' else c) = text := by
  refine (List.map_congr_left ?_).trans (List.map_id text)
  intro c hc
  have hne : c ≠ '\\' := by
    rintro rfl
    exact hplain hc
  rw [if_neg hne, id]

theorem fileName?_record
    (hnames : ∀ name ∈ met.names, Path.IsFileName name)
    (hne : met.names ≠ []) :
    Path.fileName? (record root met).path = some met.name := by
  rw [record, Path.fileName?_foldl_join root hnames hne, Met.name,
    List.getLastD_eq_getLast?, List.getLast?_eq_some_getLast hne, Option.getD_some]

/-- The extensions of a selection are those that are configured, without dots and in lower case. -/
theorem any_configured_eq
    (config : Config)
    (extension : Option String) :
    (config.fileExtensions.any fun configured =>
        extension =
          some (Text.lowerCase (.ofList (configured.toList.dropWhile (· = '.'))))) =
      extension.any (Selection.of config).extensions.contains := by
  rw [Bool.eq_iff_iff]
  cases extension with
  | none =>
      simp
  | some extension =>
      simp only [List.any_eq_true, decide_eq_true_eq, Option.some.injEq, Option.any_some,
        List.contains_iff_mem, Selection.of, List.mem_map]
      constructor
      · rintro ⟨configured, hmem, hplain⟩
        exact ⟨configured, hmem, hplain.symm⟩
      · rintro ⟨configured, hmem, hplain⟩
        exact ⟨configured, hmem, hplain.symm⟩

/-- A record says as much as the tests on the names need. -/
theorem keeps_record
    (config : Config)
    (hnames : ∀ name ∈ met.names, Path.IsFileName name)
    (hne : met.names ≠ []) :
    keeps config root (record root met) =
      ((Selection.of config).selects met && isOutside config.extraExcludedDirs 0 met) := by
  have hextensions :
      (Selection.of config).extensions.isEmpty = config.fileExtensions.isEmpty :=
    List.isEmpty_map
  rw [keeps, any_configured_eq, fileName?_record root hnames hne,
    directoriesBetween_record root hnames, Selection.selects, Selection.admits, hextensions]
  rfl

theorem selects_unselective
    (config : Config)
    (limit : Nat) :
    (Selection.of (unselective config limit)).selects met = decide (met.size ≤ limit) := by
  simp [Selection.selects, Selection.admits, Selection.of, unselective]

end Record

/-- The order of the records that discovery gives. -/
def pathOrder (a b : FileRecord) : Bool :=
  !decide (b.relativePath < a.relativePath)

theorem pathOrder_iff
    (a b : FileRecord) :
    pathOrder a b = true ↔ a.relativePath ≤ b.relativePath := by
  rw [pathOrder, Bool.not_eq_true', decide_eq_false_iff_not, String.not_lt]

theorem pathOrder_trans
    (a b c : FileRecord)
    (hab : pathOrder a b)
    (hbc : pathOrder b c) :
    pathOrder a c := by
  rw [pathOrder_iff] at *
  exact String.le_trans hab hbc

theorem pathOrder_total
    (a b : FileRecord) :
    pathOrder a b || pathOrder b a := by
  rw [Bool.or_eq_true, pathOrder_iff, pathOrder_iff]
  exact String.le_total a.relativePath b.relativePath

section Discover

variable (fs : FileSystem) (config : Config) (root : String)

theorem discover_eq :
    discover fs config root =
      (((walk fs config.extraExcludedDirs root).filter (Selection.of config).selects).map
        (record root)).mergeSort pathOrder := by
  rfl

/-- The files that discovery gives are records of files that the walk meets. -/
theorem mem_discover_iff
    (file : FileRecord) :
    file ∈ discover fs config root ↔
      ∃ met ∈ walk fs config.extraExcludedDirs root,
        (Selection.of config).selects met = true ∧ record root met = file := by
  rw [discover_eq, List.mem_mergeSort, List.mem_map]
  constructor
  · rintro ⟨met, hmet, hrecord⟩
    obtain ⟨hwalk, hselects⟩ := List.mem_filter.mp hmet
    exact ⟨met, hwalk, hselects, hrecord⟩
  · rintro ⟨met, hwalk, hselects, hrecord⟩
    exact ⟨met, List.mem_filter.mpr ⟨hwalk, hselects⟩, hrecord⟩

/-- A file that is met has names, and they are names that files can have. -/
theorem WellNamed.of_mem_walk
    (hnamed : WellNamed fs root)
    {extra : List String}
    {met : Met}
    (hmet : met ∈ walk fs extra root) :
    (∀ name ∈ met.names, Path.IsFileName name) ∧ met.names ≠ [] := by
  obtain ⟨content, hholds, -⟩ := (mem_walk_iff fs root extra met).mp hmet
  exact ⟨hnamed met.names content hholds, hholds.names_ne_nil⟩

/--
Discovery factors through its filters.

Let no file be larger than `limit`.  Discovery gives, of the files that it gives without extensions,
extra directories and a smaller limit, and in the same order, those that are small enough, have a
configured extension or a well-known name, and have no extra directory on their way.  No directory
on the way to a file that it gives is one of those that are never looked into; the directory of the
project itself may be one.
-/
theorem discover_eq_filter
    (hnamed : WellNamed fs root)
    (limit : Nat)
    (hlimit : config.maxFileSize ≤ limit) :
    discover fs config root =
        (discover fs (unselective config limit) root).filter (keeps config root) ∧
      ∀ file ∈ discover fs config root,
        ∀ directory ∈ directoriesBetween root file, directory ∉ excludedDirectories := by
  constructor
  · have hpruned :
        (walk fs config.extraExcludedDirs root).filter (Selection.of config).selects =
          ((walk fs [] root).filter (Selection.of (unselective config limit)).selects).filter
            (keeps config root ∘ record root) := by
      rw [walk_extra, List.filter_filter, List.filter_filter]
      apply List.filter_congr
      intro met hmet
      obtain ⟨hnames, hne⟩ := hnamed.of_mem_walk fs root hmet
      rw [Function.comp_apply, keeps_record root config hnames hne, selects_unselective]
      cases hselects : (Selection.of config).selects met with
      | false =>
          simp
      | true =>
          have hsize : met.size ≤ config.maxFileSize := by
            simp only [Selection.selects, Bool.and_eq_true, decide_eq_true_eq] at hselects
            exact hselects.1
          have hwithin : met.size ≤ limit := Nat.le_trans hsize hlimit
          simp [hwithin]
    rw [discover_eq, hpruned, ← List.filter_map,
      ← Sorting.filter_mergeSort pathOrder_trans pathOrder_total, discover_eq]
    rfl
  · intro file hfile directory hdirectory
    obtain ⟨met, hmet, -, rfl⟩ := (mem_discover_iff fs config root file).mp hfile
    obtain ⟨hnames, -⟩ := hnamed.of_mem_walk fs root hmet
    obtain ⟨content, -, -, hexcluded, -⟩ := (mem_walk_iff fs root _ met).mp hmet
    rw [directoriesBetween_record root hnames] at hdirectory
    have hname := hexcluded directory hdirectory
    rw [isExcluded, Bool.or_eq_false_iff] at hname
    simpa using hname.1

end Discover

/-- A project in a directory that would not be looked into below a project. -/
def sampleProject : FileSystem where
  root := .directory
    [("target", .directory
      [("a.py", .file "print(1)".toUTF8 0),
       ("generated", .directory [("b.py", .file "print(2)".toUTF8 0)])])]
  current := []
  now := 0

theorem sampleProject_wellNamed :
    WellNamed sampleProject "/target" := by
  intro names content hholds
  change HoldsFile
    [("a.py", .file "print(1)".toUTF8 0),
     ("generated", .directory [("b.py", .file "print(2)".toUTF8 0)])] names content at hholds
  rw [holdsFile_cons_iff, holdsFile_file_iff, holdsFile_directory_iff] at hholds
  rcases hholds with ⟨rfl, -⟩ | ⟨rest, rfl, hholds⟩
  · decide
  · obtain ⟨rfl, -⟩ := (holdsFile_file_iff _ _ _).mp hholds
    decide

/--
An extension in capitals with a dot, an extra directory and a size limit, all at once: of the two
files that are found without them, one is found, and it is one that the configuration keeps.
-/
theorem sampleProject_discover :
    let config : Config :=
      { Config.default with
        fileExtensions := [".PY"], extraExcludedDirs := ["generated"], maxFileSize := 100 }
    let everything := discover sampleProject (unselective config 18446744073709551615) "/target"
    everything.map FileRecord.relativePath = ["a.py", "generated/b.py"] ∧
      (discover sampleProject config "/target").map FileRecord.relativePath = ["a.py"] ∧
      discover sampleProject config "/target" = everything.filter (keeps config "/target") := by
  intro config everything
  have hall : everything =
      [record "/target" ⟨["a.py"], 8⟩, record "/target" ⟨["generated", "b.py"], 8⟩] := by
    have hmet : (walk sampleProject (unselective config 18446744073709551615).extraExcludedDirs
        "/target").filter (Selection.of (unselective config 18446744073709551615)).selects =
          [⟨["a.py"], 8⟩, ⟨["generated", "b.py"], 8⟩] := by
      decide +kernel
    simp only [everything]
    rw [discover_eq, hmet]
    exact List.mergeSort_of_pairwise (by decide +kernel)
  have hfound : discover sampleProject config "/target" = [record "/target" ⟨["a.py"], 8⟩] := by
    have hmet : (walk sampleProject config.extraExcludedDirs "/target").filter
        (Selection.of config).selects = [⟨["a.py"], 8⟩] := by
      decide +kernel
    rw [discover_eq, hmet]
    exact List.mergeSort_singleton _
  refine ⟨by rw [hall]; decide +kernel, by rw [hfound]; decide +kernel, ?_⟩
  exact (discover_eq_filter sampleProject config "/target" sampleProject_wellNamed
    18446744073709551615 (by decide)).1

end Discovery
end CodeAudit
