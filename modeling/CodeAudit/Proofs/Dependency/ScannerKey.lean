import CodeAudit.Dependency.Scan
import CodeAudit.Proofs.Config.Overlay

/-!
# The key of the dependency scanner

A command of the scanner ends in the words that hand over the key, if the configuration has one.  A
key that comes from the environment is never blank.  A key of the file is taken as it is: if it is
blank, the environment does not replace it, as it would replace a blank key of the model, and every
command hands over a blank key.

**Results.**
* `arguments_of_command`, `carries_iff`: the key in a command.
* `scanner_key_blank_iff`: when the key is blank after a configuration has been loaded.
* `blank_key_of_file_kept`: a file whose blank key is kept and handed over.
-/

namespace CodeAudit
namespace Dependency

open Config

/-! ## The key in a command -/

/-- The words with which a launcher is handed a key. -/
def keyWords : Launcher → String → List String
  | .auto, _ => []
  | .maven, key => ["-DnvdApiKey=" ++ key]
  | .cli, key | .docker, key => ["--nvdApiKey", key]

/-- A command of a launcher ends in the words for a key. -/
def Carries
    (launcher : Launcher)
    (order : Command)
    (key : String) : Prop :=
  ∃ before, order.arguments = before ++ keyWords launcher key

theorem keyWords_injective
    {launcher : Launcher}
    (hlauncher : launcher ≠ .auto)
    {key key' : String}
    (hwords : keyWords launcher key = keyWords launcher key') :
    key = key' := by
  cases launcher with
  | auto =>
      exact absurd rfl hlauncher
  | maven =>
      simpa [keyWords] using hwords
  | cli | docker =>
      simpa [keyWords] using hwords

/-- The word for an output directory is never one for a key. -/
theorem outputWord_ne_keyWord
    (out key : String) :
    "-DoutputDirectory=" ++ out ≠ "-DnvdApiKey=" ++ key := by
  intro hwords
  have hletters := congrArg (fun word => word.toList.take 3) hwords
  simp at hletters

section Commands

variable
  {fs : FileSystem}
  {config : ScannerConfig}
  {root out : String}
  {launcher : Launcher}
  {order : Command}

/-- A command is the one without a key, followed by the words for the key. -/
theorem arguments_of_command
    (hcommand : command fs config root out launcher = .ok order) :
    ∃ bare, command fs { config with nvdApiKey := none } root out launcher = .ok bare ∧
      order.arguments =
        bare.arguments ++ (config.nvdApiKey.map (keyWords launcher)).getD [] := by
  cases launcher with
  | auto =>
      cases hcommand
  | maven =>
      cases hcommand
      refine ⟨_, rfl, ?_⟩
      cases config.nvdApiKey <;> rfl
  | cli =>
      cases hcommand
      exact ⟨_, rfl, rfl⟩
  | docker =>
      simp only [command] at hcommand ⊢
      split at hcommand
      · cases hcommand
        exact ⟨_, rfl, rfl⟩
      all_goals cases hcommand

/-- Without a key in the configuration, a command ends in its output directory. -/
theorem not_carries_of_none
    (hcommand : command fs { config with nvdApiKey := none } root out launcher = .ok order)
    (key : String) :
    ¬ Carries launcher order key := by
  rintro ⟨before, hwords⟩
  cases launcher with
  | auto =>
      cases hcommand
  | maven =>
      cases hcommand
      have hends : ["-q", "-B", "org.owasp:dependency-check-maven:check", "-Dformat=JSON"] ++
          ["-DoutputDirectory=" ++ out] = before ++ ["-DnvdApiKey=" ++ key] := hwords
      obtain ⟨-, hlast⟩ := List.append_inj' hends rfl
      exact outputWord_ne_keyWord out key (List.cons.inj hlast).1
  | cli =>
      cases hcommand
      have hends : ["--project", projectName fs root, "--scan", root, "--format", "JSON"] ++
          ["--out", out] = before ++ ["--nvdApiKey", key] := hwords
      obtain ⟨-, hlast⟩ := List.append_inj' hends rfl
      simp at hlast
  | docker =>
      simp only [command] at hcommand
      split at hcommand
      · rename_i names _ _
        cases hcommand
        have hends : ["run", "--rm", "-v", "/" ++ "/".intercalate names ++ ":/src:ro", "-v",
            out ++ ":/report", image, "--project", projectName fs root, "--scan", "/src",
            "--format", "JSON"] ++ ["--out", "/report"] = before ++ ["--nvdApiKey", key] := hwords
        obtain ⟨-, hlast⟩ := List.append_inj' hends rfl
        simp at hlast
      all_goals cases hcommand

theorem length_keyWords
    (launcher : Launcher)
    (key key' : String) :
    (keyWords launcher key).length = (keyWords launcher key').length := by
  cases launcher <;> rfl

/-- A command hands over the key of the configuration and no other one. -/
theorem carries_iff
    (hcommand : command fs config root out launcher = .ok order)
    (key : String) :
    Carries launcher order key ↔ config.nvdApiKey = some key := by
  obtain ⟨bare, hbare, harguments⟩ := arguments_of_command hcommand
  have hlauncher : launcher ≠ .auto := by
    rintro rfl
    cases hcommand
  cases hkey : config.nvdApiKey with
  | none =>
      rw [hkey, Option.map_none, Option.getD_none, List.append_nil] at harguments
      simp only [Carries, harguments, reduceCtorEq, iff_false]
      exact not_carries_of_none hbare key
  | some own =>
      rw [hkey, Option.map_some, Option.getD_some] at harguments
      rw [Option.some_inj, Carries, harguments]
      constructor
      · rintro ⟨before, hwords⟩
        obtain ⟨-, hsame⟩ := List.append_inj' hwords (length_keyWords launcher own key)
        exact keyWords_injective hlauncher hsame
      · rintro rfl
        exact ⟨bare.arguments, rfl⟩

end Commands

/-! ## The key of a loaded configuration -/

/--
A key of the file stays, whatever it is; only if the file has none does the environment offer one, and
then it is not blank.  So the key of a loaded configuration is blank if and only if the file has a
blank one.  Every command that is built with the configuration hands over this key and no other one.
-/
theorem scanner_key_blank_iff
    (fs : FileSystem)
    (environment : Environment)
    (explicit : Option String)
    {file : Config}
    (hfile : Config.stored fs environment explicit = .ok file) :
    ∃ config, Config.load fs environment explicit = .ok config ∧
      (config.scanner.nvdApiKey.any Text.isBlankText = true ↔
        file.scanner.nvdApiKey.any Text.isBlankText = true) ∧
      (∀ key, file.scanner.nvdApiKey = some key → config.scanner.nvdApiKey = some key) ∧
      (file.scanner.nvdApiKey = none →
        config.scanner.nvdApiKey = unlessBlank (environment "NVD_API_KEY")) ∧
      ∀ files root out launcher order,
        command files config.scanner root out launcher = .ok order →
          ∀ key, Carries launcher order key ↔ config.scanner.nvdApiKey = some key := by
  have hloaded : (file.withEnvironment environment).scanner.nvdApiKey =
      file.scanner.nvdApiKey.or (unlessBlank (environment "NVD_API_KEY")) := by
    rfl
  refine ⟨file.withEnvironment environment, load_of_stored hfile, ?_, ?_, ?_, ?_⟩
  · rw [hloaded]
    cases hkey : file.scanner.nvdApiKey with
    | some key =>
        rw [Option.some_or]
    | none =>
        rw [Option.none_or]
        simp only [Option.any_none, Bool.false_eq_true, iff_false, Bool.not_eq_true]
        exact any_isBlankText_unlessBlank _
  · intro key hkey
    rw [hloaded, hkey, Option.some_or]
  · intro hnone
    rw [hloaded, hnone, Option.none_or]
  · intro files root out launcher order hcommand key
    exact carries_iff hcommand key

/-- A machine with a project and a configuration file. -/
def configuredMachine (settings : String) : FileSystem where
  root := .directory
    [("home", .directory [(".codewarden.toml", .file settings.toUTF8 0)]), ("p", .directory [])]
  current := []
  now := 0

/-- An environment with a home directory, a key of the scanner and one of the model. -/
def offeringEnvironment : Environment
  | "HOME" => some "/home"
  | "NVD_API_KEY" => some "nvd"
  | "CODEWARDEN_API_KEY" => some "model"
  | _ => none

/-- A file without a key of the scanner, and one with a blank key for the scanner and the model. -/
def keylessSettings : String := "[scanner]\nstrategy = \"maven\"\n"

@[inherit_doc keylessSettings]
def blankSettings : String := "[scanner]\nnvd_api_key = \"\"\n[llm]\napi_key = \"\"\n"

/-- The keys of the scanner and of the model after these files have been loaded. -/
def loadedKeys (settings : String) : Option (Option String × Option String) :=
  (Config.load (configuredMachine settings) offeringEnvironment none).toOption.map fun config =>
    (config.scanner.nvdApiKey, config.model.apiKey)

/-- The last word of the command of a launcher. -/
def lastWord (settings : String) (launcher : Launcher) : Option String := do
  let config ← (Config.load (configuredMachine settings) offeringEnvironment none).toOption
  let order ← (command (configuredMachine settings) config.scanner "/p" "/out" launcher).toOption
  order.arguments.getLast?

/-- Without a key in the file, the one of the environment is handed over. -/
theorem environment_key_handed_over :
    ∃ config, Config.load (configuredMachine keylessSettings) offeringEnvironment none =
        .ok config ∧
      config.scanner.nvdApiKey = some "nvd" ∧
      ∃ order, command (configuredMachine keylessSettings) config.scanner "/p" "/out" .cli =
          .ok order ∧
        Carries .cli order "nvd" ∧ ¬ Carries .cli order "" := by
  have hfile : Config.stored (configuredMachine keylessSettings) offeringEnvironment none = .ok
      { Config.default with scanner := { ScannerConfig.default with strategy := .maven } } := by
    decide +kernel
  obtain ⟨config, hload, -, -, hoffered, hcarries⟩ := scanner_key_blank_iff _ _ _ hfile
  have hkey : config.scanner.nvdApiKey = some "nvd" := by
    rw [hoffered rfl]
    decide +kernel
  obtain ⟨order, horder⟩ : ∃ order, command (configuredMachine keylessSettings) config.scanner "/p"
      "/out" .cli = .ok order := ⟨_, rfl⟩
  refine ⟨config, hload, hkey, order, horder, ?_, ?_⟩
  · exact (hcarries _ _ _ _ _ horder "nvd").mpr hkey
  · rw [hcarries _ _ _ _ _ horder "", hkey]
    decide

/-- A blank key of the file is replaced for the model, but stays for the scanner, so that every
launcher is handed a blank one although the environment offers a key. -/
theorem blank_key_of_file_kept :
    offeringEnvironment "NVD_API_KEY" = some "nvd" ∧
      loadedKeys blankSettings = some (some "", some "model") ∧
      lastWord blankSettings .maven = some "-DnvdApiKey=" ∧
      lastWord blankSettings .cli = some "" ∧
      lastWord blankSettings .docker = some "" := by
  decide +kernel

end Dependency
end CodeAudit
