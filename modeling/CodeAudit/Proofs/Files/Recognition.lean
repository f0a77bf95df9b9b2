import CodeAudit.Project.Audit
import CodeAudit.Proofs.Cloud.Issues
import CodeAudit.Proofs.Files.Extension
import CodeAudit.Proofs.Files.Selection
import CodeAudit.Proofs.Migration.Detection

/-!
# Files that are recognised by their names

The assessment looks for a container file and the plan for the descriptors of old frameworks, by
name alone.  Discovery has its own tables of extensions and names.  They leave out container files
such as `Dockerfile.prod`, the descriptors `*.jspx`, `*.wsdl` and `server-config.wsdd`, and a file
that is called `.jsp`; every other file that an analysis recognises by its name is discovered, and
is then recognised.

**Results.**
* `admits_default_iff`: the names that discovery admits by default.
* `admits_iff_not_overlooked`: of the recognised names, those that are not overlooked.
* `recognised_file_discovered_iff`: the same for a file of a project, and what it means for the
  assessment and the plan.
* `dockerfile_prod_overlooked`: a project with a container file that is assessed as having none.
-/

namespace CodeAudit
namespace Discovery

/-- An analysis recognises a file by this name alone. -/
def IsRecognised (name : String) : Prop :=
  Cloud.isContainerFile name = true ∨
    ∃ framework, Detection.isMarker framework name = true

/-- The names, in lower case, that an analysis would recognise and discovery leaves out. -/
def IsOverlooked (lowered : String) : Prop :=
  ("dockerfile.".toList <+: lowered.toList ∧
      Detection.markerExtension lowered ∉ Config.default.fileExtensions) ∨
    lowered = "server-config.wsdd" ∨
    lowered = ".jsp" ∨
    Detection.markerExtension lowered = "jspx" ∨
    Detection.markerExtension lowered = "wsdl"

instance (lowered : String) : Decidable (IsOverlooked lowered) :=
  inferInstanceAs (Decidable (_ ∨ _ ∨ _ ∨ _ ∨ _))

/-- By default discovery admits this name, given in lower case. -/
def IsAdmitted (lowered : String) : Prop :=
  (Detection.markerExtension lowered ∈ Config.default.fileExtensions ∧
      lowered ≠ "." ++ Detection.markerExtension lowered) ∨
    lowered ∈ Language.wellKnownNames

instance (lowered : String) : Decidable (IsAdmitted lowered) :=
  inferInstanceAs (Decidable (_ ∨ _))

section Admission

theorem default_extensions_plain :
    ∀ extension ∈ Config.default.fileExtensions,
      extension ≠ "" ∧
        (∀ c ∈ extension.toList, c.toNat < 128 ∧ c.toLower = c) ∧
        extension.toList.dropWhile (· = '.') = extension.toList := by
  have hall : ∀ extension ∈ Config.default.fileExtensions,
      extension ≠ "" ∧
        (extension.toList.all fun c => decide (c.toNat < 128) && c.toLower == c) = true ∧
        extension.toList.dropWhile (· = '.') = extension.toList := by
    decide +kernel
  intro extension hmem
  obtain ⟨hne, hplain, hdots⟩ := hall extension hmem
  refine ⟨hne, ?_, hdots⟩
  intro c hc
  simpa using List.all_eq_true.mp hplain c hc

theorem default_extensions :
    (Selection.of Config.default).extensions = Config.default.fileExtensions := by
  refine (List.map_congr_left ?_).trans (List.map_id Config.default.fileExtensions)
  intro extension hmem
  obtain ⟨-, hplain, hdots⟩ := default_extensions_plain extension hmem
  rw [hdots, String.ofList_toList, Text.lowerCase_eq_self hplain, id]

/-- By default a name is admitted for its extension, or because it is well known. -/
theorem admits_default_iff
    (met : Met) :
    (Selection.of Config.default).admits met = true ↔ IsAdmitted (Text.lowerCase met.name) := by
  have hsome : (Selection.of Config.default).extensions.isEmpty = false := by
    rw [default_extensions]
    rfl
  rw [Selection.admits, hsome, Bool.false_or, Bool.or_eq_true, default_extensions,
    Option.any_eq_true, Language.isWellKnown, List.contains_iff_mem, IsAdmitted]
  apply or_congr_left
  constructor
  · rintro ⟨extension, hextension, hmem⟩
    rw [List.contains_iff_mem] at hmem
    obtain ⟨hne, hplain, -⟩ := default_extensions_plain extension hmem
    have hascii : ∀ c ∈ extension.toList, c.toNat < 128 := fun c hc => (hplain c hc).1
    obtain ⟨hmarker, hdot⟩ :=
      (extensionOf?_eq_some_iff hne).mp ((extensionOf?_lowerCase_iff hascii).mp hextension)
    rw [hmarker]
    exact ⟨hmem, hdot⟩
  · rintro ⟨hmem, hdot⟩
    obtain ⟨hne, hplain, -⟩ := default_extensions_plain _ hmem
    have hascii := fun c hc => (hplain c hc).1
    refine ⟨_, ?_, List.contains_iff_mem.mpr hmem⟩
    exact (extensionOf?_lowerCase_iff hascii).mpr ((extensionOf?_eq_some_iff hne).mpr ⟨rfl, hdot⟩)

end Admission

section Tables

variable {lowered : String}

/-- Of the container files those are admitted that have one of the extensions, or none. -/
theorem admitted_iff_of_container
    (hcontainer : lowered = "dockerfile" ∨ lowered = "containerfile" ∨
      "dockerfile.".toList <+: lowered.toList) :
    IsAdmitted lowered ↔ ¬ IsOverlooked lowered := by
  rcases hcontainer with rfl | rfl | hbegins
  · decide +kernel
  · decide +kernel
  · have htable : ∀ other ∈ ["server-config.wsdd", ".jsp"] ++ Language.wellKnownNames,
        ¬ "dockerfile.".toList <+: other.toList := by
      decide +kernel
    have hother : ∀ other ∈ ["server-config.wsdd", ".jsp"] ++ Language.wellKnownNames,
        lowered ≠ other := by
      rintro other hmem rfl
      exact htable _ hmem hbegins
    have hdot : lowered ≠ "." ++ Detection.markerExtension lowered := by
      intro hdot
      rw [hdot, String.toList_append] at hbegins
      obtain ⟨rest, hrest⟩ := hbegins
      have hhead := congrArg List.head? hrest
      exact absurd hhead (by simp)
    have hknown : lowered ∉ Language.wellKnownNames := by
      intro hknown
      exact hother lowered (List.mem_append_right _ hknown) rfl
    have hjspx : "jspx" ∉ Config.default.fileExtensions := by decide
    have hwsdl : "wsdl" ∉ Config.default.fileExtensions := by decide
    constructor
    · rintro (⟨hmem, -⟩ | hmem)
      · rintro (⟨-, hnot⟩ | rfl | rfl | hmarker | hmarker)
        · exact hnot hmem
        · exact hother _ (by simp) rfl
        · exact hother _ (by simp) rfl
        · exact hjspx (hmarker ▸ hmem)
        · exact hwsdl (hmarker ▸ hmem)
      · exact absurd hmem hknown
    · intro hnot
      refine .inl ⟨?_, hdot⟩
      by_contra hmem
      exact hnot (.inl ⟨hbegins, hmem⟩)

/-- A name with an extension is not one of the well-known names. -/
theorem not_known_of_markerExtension
    (lowered : String)
    (hmarker : Detection.markerExtension lowered ≠ "") :
    lowered ∉ Language.wellKnownNames := by
  have hplain : ∀ known ∈ Language.wellKnownNames, Detection.markerExtension known = "" := by
    decide +kernel
  intro hknown
  exact hmarker (hplain lowered hknown)

/-- Of the descriptors those are admitted that are XML files or server pages. -/
theorem admitted_iff_of_marker
    (framework : Framework)
    (hmarker : lowered ∈ framework.fileNames ∨
      Detection.markerExtension lowered ∈ framework.extensions) :
    IsAdmitted lowered ↔ ¬ IsOverlooked lowered := by
  have hnames : ∀ framework ∈ Framework.all, ∀ name ∈ framework.fileNames,
      (IsAdmitted name ↔ ¬ IsOverlooked name) := by
    decide +kernel
  have hextensions : ∀ framework ∈ Framework.all, ∀ extension ∈ framework.extensions,
      extension = "jsp" ∨ extension = "jspx" ∨ extension = "wsdl" := by
    decide
  rcases hmarker with hname | hextension
  · exact hnames framework (Framework.mem_all framework) lowered hname
  · rcases hextensions framework (Framework.mem_all framework) _ hextension with
      hjsp | hjspx | hwsdl
    · have hknown := not_known_of_markerExtension lowered (by rw [hjsp]; decide)
      have hdefault : "jsp" ∈ Config.default.fileExtensions := by decide
      have hother : lowered ≠ "server-config.wsdd" := by
        rintro rfl
        exact absurd hjsp (by decide +kernel)
      rw [IsAdmitted, IsOverlooked, hjsp]
      simp [hknown, hdefault, hother]
    · have hknown := not_known_of_markerExtension lowered (by rw [hjspx]; decide)
      have hdefault : "jspx" ∉ Config.default.fileExtensions := by decide
      rw [IsAdmitted, IsOverlooked, hjspx]
      simp [hknown, hdefault]
    · have hknown := not_known_of_markerExtension lowered (by rw [hwsdl]; decide)
      have hdefault : "wsdl" ∉ Config.default.fileExtensions := by decide
      rw [IsAdmitted, IsOverlooked, hwsdl]
      simp [hknown, hdefault]

end Tables

section Names

theorem isContainerFile_iff
    (path : String) :
    Cloud.isContainerFile path = true ↔
      Cloud.loweredName path = "dockerfile" ∨
        Cloud.loweredName path = "containerfile" ∨
        "dockerfile.".toList <+: (Cloud.loweredName path).toList := by
  simp [Cloud.isContainerFile, or_assoc]

theorem isMarker_iff
    (framework : Framework)
    (path : String) :
    Detection.isMarker framework path = true ↔
      Cloud.loweredName path ∈ framework.fileNames ∨
        Detection.markerExtension (Cloud.loweredName path) ∈ framework.extensions := by
  simp [Detection.isMarker, Cloud.loweredName]

/-- The last name of a path is what stands behind its last slash. -/
theorem loweredName_of_last
    {path name : String}
    (hslash : '/' ∉ name.toList)
    (hpath : path = name ∨ ∃ front, path.toList = front ++ '/' :: name.toList) :
    Cloud.loweredName path = Text.lowerCase name := by
  have hlast : (Text.splitAt '/' path.toList).getLastD [] = name.toList := by
    rw [Text.splitAt_eq_splitOn]
    rcases hpath with rfl | ⟨front, hfront⟩
    · rw [List.splitOn_eq_singleton hslash]
      rfl
    · rw [hfront, List.splitOn_append_cons_self, List.splitOn_eq_singleton hslash,
        List.getLastD_concat]
  rw [Cloud.loweredName, hlast, String.ofList_toList]

/-- The relative path of a file ends in its name, unless that has a backslash in it. -/
theorem loweredName_relativePath
    (root : String)
    (directories : List String)
    {name : String}
    (hslash : '/' ∉ name.toList)
    (hbackslash : '\\' ∉ name.toList)
    (size : Nat) :
    Cloud.loweredName (record root ⟨directories ++ [name], size⟩).relativePath =
      Text.lowerCase name := by
  have hkept := map_slash_eq_self hbackslash
  apply loweredName_of_last hslash
  by_cases hdirectories : directories = []
  · left
    rw [record, hdirectories, List.nil_append, String.intercalate_singleton, hkept,
      String.ofList_toList]
  · right
    simp only [record]
    rw [String.intercalate_append_of_ne_nil hdirectories (by simp),
      String.intercalate_singleton, String.toList_ofList, String.toList_append,
      String.toList_append, List.map_append, List.map_append, hkept, List.append_assoc]
    exact ⟨_, rfl⟩

/-- A recognised name is admitted by default unless it is one of those that are overlooked. -/
theorem admits_iff_not_overlooked
    {met : Met}
    (hslash : '/' ∉ met.name.toList)
    (hrecognised : IsRecognised met.name) :
    (Selection.of Config.default).admits met = true ↔
      ¬ IsOverlooked (Text.lowerCase met.name) := by
  rw [admits_default_iff]
  have hlast : Cloud.loweredName met.name = Text.lowerCase met.name :=
    loweredName_of_last hslash (.inl rfl)
  rcases hrecognised with hcontainer | ⟨framework, hmarker⟩
  · rw [isContainerFile_iff, hlast] at hcontainer
    exact admitted_iff_of_container hcontainer
  · rw [isMarker_iff, hlast] at hmarker
    exact admitted_iff_of_marker framework hmarker

end Names

section Project

variable {fs : FileSystem} {root : String}

theorem files_of_withClient
    {config : Config}
    {client : Option Client}
    {project : Project.Prepared}
    {console : List String}
    (hproject : Project.withClient fs config root client = .ok (project, console)) :
    project.files = discover fs config root ∧ project.client = client := by
  unfold Project.withClient at hproject
  cases hvalid : Project.validate fs root with
  | error fault =>
      rw [hvalid] at hproject
      cases hproject
  | ok checked =>
      rw [hvalid] at hproject
      cases hproject
      exact ⟨rfl, rfl⟩

variable (hnamed : WellNamed fs root)
variable {directories : List String} {name : String} {content : ByteArray}
variable (hholds : ProjectHolds fs root (directories ++ [name]) content)

include hnamed hholds

/-- What the default configuration does with a file that the walk has to meet. -/
theorem record_mem_discover_default_iff
    (hexcluded : ∀ directory ∈ directories, directory ∉ excludedDirectories)
    (hignored : isIgnored fs root (directories ++ [name]) = false)
    (hsize : content.size ≤ Config.default.maxFileSize) :
    record root ⟨directories ++ [name], content.size⟩ ∈ discover fs Config.default root ↔
      (Selection.of Config.default).admits ⟨directories ++ [name], content.size⟩ = true := by
  have hselects :
      (Selection.of Config.default).selects ⟨directories ++ [name], content.size⟩ =
        (Selection.of Config.default).admits ⟨directories ++ [name], content.size⟩ := by
    have hsmall : content.size ≤ (Selection.of Config.default).maxFileSize := hsize
    rw [Selection.selects, decide_eq_true hsmall, Bool.true_and]
  have hmet : (⟨directories ++ [name], content.size⟩ : Met) ∈ walk fs [] root := by
    rw [mem_walk_iff]
    refine ⟨content, hholds, rfl, ?_, hignored⟩
    intro directory hdirectory
    rw [List.dropLast_concat] at hdirectory
    simpa [isExcluded] using hexcluded directory hdirectory
  rw [mem_discover_iff, ← hselects]
  constructor
  · -- another file with this record has the same names, so the tests agree on both
    rintro ⟨met, hother, hadmitted, hrecord⟩
    obtain ⟨hnames, hne⟩ := hnamed.of_mem_walk fs root hother
    obtain ⟨hnames', hne'⟩ := hnamed.of_mem_walk fs root hmet
    have hkeeps := keeps_record root Config.default hnames hne
    have hextra : Config.default.extraExcludedDirs = [] := rfl
    rw [hrecord, keeps_record root Config.default hnames' hne', hadmitted, hextra] at hkeeps
    simpa using hkeeps
  · intro hadmitted
    exact ⟨_, hmet, hadmitted, rfl⟩

/--
A file that an analysis recognises by its name is discovered if and only if it is not overlooked.

The file is not too large, in no directory that is left out, and not ignored.  If it is discovered
and can be read, and there is no backslash in its name, then it is recognised: the assessment does
not say that there is no container file, of itself, and the plan lists the framework that the name
marks, with the file.
-/
theorem recognised_file_discovered_iff
    (hexcluded : ∀ directory ∈ directories, directory ∉ excludedDirectories)
    (hignored : isIgnored fs root (directories ++ [name]) = false)
    (hsize : content.size ≤ Config.default.maxFileSize)
    (hrecognised : IsRecognised name) :
    let file := record root ⟨directories ++ [name], content.size⟩
    (file ∈ discover fs Config.default root ↔ ¬ IsOverlooked (Text.lowerCase name)) ∧
      (¬ IsOverlooked (Text.lowerCase name) → '\\' ∉ name.toList →
        ∀ client project console around occasion session,
          Project.withClient fs Config.default root client = .ok (project, console) →
          let read := Project.reading (Project.packageFor around project session).session.files
          (read file).isSome = true →
          (Cloud.isContainerFile name = true → ∀ provider,
            let static := Cloud.staticIssues (Cloud.readableSources read project.files)
            let assessed := Project.assessCloudReadiness around project occasion session provider
            Cloud.missingContainer ∉ static ∧
              static <+: assessed.result.issues ∧
              (client = none → assessed.result.issues = static)) ∧
          ∀ framework, Detection.isMarker framework name = true → ∀ target,
            let planned := Project.planMigration around project occasion session target
            ∃ detection ∈ planned.result.detectedFrameworks,
              detection.framework = framework ∧ file.relativePath ∈ detection.files) := by
  intro file
  have hslash : '/' ∉ name.toList :=
    (hnamed _ content hholds name (by simp)).2.1
  have hname : (⟨directories ++ [name], content.size⟩ : Met).name = name := by
    rw [Met.name, List.getLastD_concat]
  have hdiscovered : file ∈ discover fs Config.default root ↔
      ¬ IsOverlooked (Text.lowerCase name) := by
    rw [record_mem_discover_default_iff hnamed hholds hexcluded hignored hsize,
      admits_iff_not_overlooked (by rwa [hname]) (by rwa [hname]), hname]
  refine ⟨hdiscovered, ?_⟩
  intro hkept hbackslash client project console around occasion session hproject read hread
  obtain ⟨hfiles, hclient⟩ := files_of_withClient hproject
  obtain ⟨text, htext⟩ := Option.isSome_iff_exists.mp hread
  have hmem : file ∈ project.files := by
    rw [hfiles]
    exact hdiscovered.mpr hkept
  have hlast : Cloud.loweredName file.relativePath = Cloud.loweredName name := by
    rw [loweredName_relativePath root directories hslash hbackslash,
      loweredName_of_last hslash (.inl rfl)]
  constructor
  · intro hcontainer provider static assessed
    have hsource : (file.relativePath, text) ∈ Cloud.readableSources read project.files :=
      List.mem_filterMap.mpr ⟨file, hmem, by rw [htext]; rfl⟩
    have hrelative : Cloud.isContainerFile file.relativePath = true := by
      rw [isContainerFile_iff, hlast, ← isContainerFile_iff]
      exact hcontainer
    have hmissing : Cloud.missingContainer ∉ static := by
      rw [Cloud.missingContainer_mem_staticIssues_iff]
      intro hnone
      exact absurd hrelative (by simp [hnone _ hsource])
    refine ⟨hmissing, Cloud.staticIssues_prefix_assess _ _ _ _ _ _ _, ?_⟩
    rintro rfl
    simp only [assessed, Project.assessCloudReadiness, hclient]
    exact Cloud.issues_assess_without_client _ _ _ _ _ _
  · intro framework hmarker target planned
    have hrelative : Detection.isMarker framework file.relativePath = true := by
      rw [isMarker_iff, hlast, ← isMarker_iff]
      exact hmarker
    have hsource : (file, text) ∈ Migration.readableSources read project.files :=
      List.mem_filterMap.mpr ⟨file, hmem, by rw [htext]; rfl⟩
    exact Detection.exists_of_marker (List.mem_map.mpr ⟨(file, text), hsource, rfl⟩) hrelative

end Project

/-- A project that holds one container file, under this name. -/
def containerProject (name : String) : FileSystem where
  root := .directory [("p", .directory [(name, .file "FROM alpine".toUTF8 0)])]
  current := []
  now := 0

theorem holds_containerProject_iff
    (name : String)
    (names : List String)
    (content : ByteArray) :
    ProjectHolds (containerProject name) "/p" names content ↔
      names = [name] ∧ content = "FROM alpine".toUTF8 := by
  exact holdsFile_file_iff name "FROM alpine".toUTF8 0

theorem containerProject_wellNamed
    {name : String}
    (hname : Path.IsFileName name) :
    WellNamed (containerProject name) "/p" := by
  intro names content hholds
  obtain ⟨rfl, -⟩ := (holds_containerProject_iff name names content).mp hholds
  simpa using hname

/-- A container file without an extension is discovered, and the assessment sees it. -/
theorem dockerfile_discovered :
    let fs := containerProject "Dockerfile"
    ProjectHolds fs "/p" ["Dockerfile"] "FROM alpine".toUTF8 ∧
      IsRecognised "Dockerfile" ∧
      record "/p" ⟨["Dockerfile"], 11⟩ ∈ discover fs Config.default "/p" ∧
      ∃ project console,
        Project.withClient fs Config.default "/p" none = .ok (project, console) ∧
          ∀ around occasion provider,
            Cloud.missingContainer ∉ (Project.assessCloudReadiness around project occasion
              ⟨fs, []⟩ provider).result.issues := by
  intro fs
  have hholds : ProjectHolds fs "/p" ([] ++ ["Dockerfile"]) "FROM alpine".toUTF8 :=
    (holds_containerProject_iff "Dockerfile" _ _).mpr ⟨rfl, rfl⟩
  have hrecognised : IsRecognised "Dockerfile" := .inl (by decide +kernel)
  have hkept : ¬ IsOverlooked (Text.lowerCase "Dockerfile") := by decide +kernel
  obtain ⟨hdiscovered, hseen⟩ := recognised_file_discovered_iff
    (containerProject_wellNamed (by decide)) hholds (by simp) (by decide +kernel)
    (by decide +kernel) hrecognised
  refine ⟨hholds, hrecognised, hdiscovered.mpr hkept, _, _, rfl, ?_⟩
  intro around occasion provider
  have hread : (Project.reading fs (record "/p" ⟨["Dockerfile"], 11⟩)).isSome = true := by
    decide +kernel
  obtain ⟨hcontainer, -⟩ := hseen hkept (by decide) none _ _ around occasion ⟨fs, []⟩ rfl hread
  obtain ⟨hmissing, -, hissues⟩ := hcontainer (by decide +kernel) provider
  rw [hissues rfl]
  exact hmissing

/-- A container file with an extension of its own is left out, and the assessment misses it. -/
theorem dockerfile_prod_overlooked :
    let fs := containerProject "Dockerfile.prod"
    let assessed := Cloud.assess none (Project.reading fs) [] default
      (discover fs Config.default "/p") .aws none
    ProjectHolds fs "/p" ["Dockerfile.prod"] "FROM alpine".toUTF8 ∧
      isIgnored fs "/p" ["Dockerfile.prod"] = false ∧
      Cloud.isContainerFile "Dockerfile.prod" = true ∧
      discover fs Config.default "/p" = [] ∧
      Cloud.missingContainer ∈ assessed.result.issues := by
  intro fs assessed
  have hfilter : (walk fs Config.default.extraExcludedDirs "/p").filter
      (Selection.of Config.default).selects = [] := by
    decide +kernel
  have hnone : discover fs Config.default "/p" = [] := by
    rw [discover_eq, hfilter]
    simp
  refine ⟨(holds_containerProject_iff "Dockerfile.prod" _ _).mpr ⟨rfl, rfl⟩,
    by decide +kernel, by decide +kernel, hnone, ?_⟩
  simp only [assessed, Cloud.issues_assess_without_client, hnone]
  decide +kernel

end Discovery
end CodeAudit
