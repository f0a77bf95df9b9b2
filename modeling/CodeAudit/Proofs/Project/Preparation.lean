import CodeAudit.Project.Audit
import CodeAudit.Proofs.Config.Overlay

/-!
# Preparing a project

A loaded configuration and a path are given.  What is asked first is whether the path leads to a
directory, then whether there is a key for the model, unless the model is skipped.  Whether a key is
blank is tested in three places: where the environment is applied, where the project is prepared, and
where the model is set up.  All three agree, so that the last one never refuses.

**Results.**
* `hasKey_withEnvironment`, `exists_client_of_hasKey`: the three tests.
* `Ends`, `prepare_ends`: the ways in which a preparation can end, with what leads to each.
* `prepare_after_load`: when each of them is met after a configuration has been loaded.
-/

namespace CodeAudit

/-! ## The tests for a key -/

namespace Config

theorem hasKey_eq_false_iff
    {key : Option String} :
    hasKey key = false ↔ key.all Text.isBlankText = true := by
  cases key with
  | none =>
      simp [hasKey]
  | some text =>
      simp [hasKey]

theorem hasKey_unlessBlank_or
    (key other : Option String) :
    hasKey ((unlessBlank key).or other) = (hasKey key || hasKey other) := by
  cases hkey : hasKey key with
  | true =>
      obtain ⟨text, rfl, hvisible⟩ := hasKey_iff.mp hkey
      rw [unlessBlank_eq_some_iff.mpr ⟨rfl, hvisible⟩, Option.some_or, hkey, Bool.true_or]
  | false =>
      rw [unlessBlank_of_not_hasKey hkey, Option.none_or, Bool.false_or]

/-- There is a key for the model if the file or one of the two variables has one. -/
theorem hasKey_withEnvironment
    (environment : Environment)
    (c : Config) :
    hasKey (c.withEnvironment environment).model.apiKey =
      (hasKey c.model.apiKey || hasKey (environment "CODEWARDEN_API_KEY") ||
        hasKey (environment "OPENAI_API_KEY")) := by
  have hsettled : (c.withEnvironment environment).model.apiKey =
      (unlessBlank c.model.apiKey).or
        ((unlessBlank (environment "CODEWARDEN_API_KEY")).or
          ((unlessBlank (environment "OPENAI_API_KEY")).or none)) := by
    have hvariables : (met ["CODEWARDEN_API_KEY", "OPENAI_API_KEY"] [environment]).head? =
        (unlessBlank (environment "CODEWARDEN_API_KEY")).or
          (unlessBlank (environment "OPENAI_API_KEY")) :=
      head?_met_two _ _ environment
    rw [withEnvironment_eq, Option.or_none, ← hvariables]
    rfl
  rw [hsettled, hasKey_unlessBlank_or, hasKey_unlessBlank_or, hasKey_unlessBlank_or]
  simp [hasKey, Bool.or_assoc]

end Config

namespace Project

open Config

/-- A key that is not blank is enough to set up the model. -/
theorem exists_client_of_hasKey
    {config : ModelConfig}
    (hkey : hasKey config.apiKey = true)
    (transport : Endpoint.Transport) :
    ∃ client, Endpoint.client config transport = .ok client := by
  obtain ⟨key, hown, hvisible⟩ := hasKey_iff.mp hkey
  have hfilter : (config.apiKey.filter fun key => !Text.isBlankText key) = some key := by
    rw [hown]
    exact unlessBlank_eq_some_iff.mpr ⟨rfl, hvisible⟩
  simp only [Endpoint.client, hfilter]
  exact ⟨_, rfl⟩

/-! ## The target -/

theorem hasEntry_of_hasDirectory
    {fs : FileSystem}
    {path : String}
    (hdirectory : fs.hasDirectory path = true) :
    fs.hasEntry path = true := by
  unfold FileSystem.hasDirectory at hdirectory
  unfold FileSystem.hasEntry
  cases hentry : fs.entry path with
  | error fault =>
      rw [hentry] at hdirectory
      cases hdirectory
  | ok entry =>
      rfl

theorem hasDirectory_of_absent
    {fs : FileSystem}
    {path : String}
    (hentry : fs.hasEntry path = false) :
    fs.hasDirectory path = false := by
  rw [Bool.eq_false_iff]
  intro hdirectory
  rw [hasEntry_of_hasDirectory hdirectory] at hentry
  cases hentry

theorem validate_of_absent
    {fs : FileSystem}
    {path : String}
    (hentry : fs.hasEntry path = false) :
    validate fs path = .error (.pathNotFound path) := by
  simp [validate, hentry]

theorem validate_of_not_directory
    {fs : FileSystem}
    {path : String}
    (hentry : fs.hasEntry path = true)
    (hdirectory : fs.hasDirectory path = false) :
    validate fs path = .error (.notADirectory path) := by
  simp [validate, hentry, hdirectory]

theorem validate_of_directory
    {fs : FileSystem}
    {path : String}
    (hdirectory : fs.hasDirectory path = true) :
    validate fs path = .ok () := by
  simp [validate, hasEntry_of_hasDirectory hdirectory, hdirectory]

/-- In a directory, files can be discovered with or without a model. -/
theorem withClient_of_directory
    {fs : FileSystem}
    {path : String}
    (hdirectory : fs.hasDirectory path = true)
    (config : Config)
    (client : Option Client) :
    ∃ console, withClient fs config path client =
      .ok (⟨config, path, Discovery.discover fs config path, client⟩, console) := by
  simp only [withClient, validate_of_directory hdirectory]
  exact ⟨_, rfl⟩

/-! ## Preparations -/

/-- The ways in which a preparation can end. -/
inductive Ends
    (fs : FileSystem)
    (config : Config)
    (path : String)
    (skipModel : Bool) :
    Except AuditFault (Prepared × List String) → Prop
  | absent
      (hentry : fs.hasEntry path = false) :
      Ends fs config path skipModel (.error (.pathNotFound path))
  | notADirectory
      (hentry : fs.hasEntry path = true)
      (hdirectory : fs.hasDirectory path = false) :
      Ends fs config path skipModel (.error (.notADirectory path))
  | keyless
      (hdirectory : fs.hasDirectory path = true)
      (hmodel : skipModel = false)
      (hkey : hasKey config.model.apiKey = false) :
      Ends fs config path skipModel (.error .missingApiKey)
  | ready
      (project : Prepared)
      (console : List String)
      (hdirectory : fs.hasDirectory path = true)
      (hkey : skipModel = false → hasKey config.model.apiKey = true)
      (hclient : project.client.isSome = !skipModel) :
      Ends fs config path skipModel (.ok (project, console))

theorem prepare_ends
    (around : Surroundings)
    (fs : FileSystem)
    (config : Config)
    (path : String)
    (skipModel : Bool) :
    Ends fs config path skipModel (prepare around fs config path skipModel) := by
  cases hdirectory : fs.hasDirectory path with
  | false =>
      cases hentry : fs.hasEntry path with
      | false =>
          rw [prepare, validate_of_absent hentry]
          exact .absent hentry
      | true =>
          rw [prepare, validate_of_not_directory hentry hdirectory]
          exact .notADirectory hentry hdirectory
  | true =>
      rw [prepare, validate_of_directory hdirectory]
      cases skipModel with
      | true =>
          obtain ⟨console, hready⟩ := withClient_of_directory hdirectory config none
          simp only [hready]
          exact .ready _ _ hdirectory (by simp) rfl
      | false =>
          cases hkey : hasKey config.model.apiKey with
          | false =>
              exact .keyless hdirectory rfl hkey
          | true =>
              obtain ⟨client, hclient⟩ := exists_client_of_hasKey hkey around.transport
              obtain ⟨console, hready⟩ := withClient_of_directory hdirectory config (some client)
              simp only [hclient, hready]
              exact .ready _ _ hdirectory (fun _ => hkey) rfl

/-- No key that is set up anywhere is more than blank. -/
def Keyless
    (file : Config)
    (environment : Environment) : Prop :=
  ∀ key ∈ [file.model.apiKey, environment "CODEWARDEN_API_KEY", environment "OPENAI_API_KEY"],
    key.all Text.isBlankText = true

theorem keyless_iff
    (file : Config)
    (environment : Environment) :
    Keyless file environment ↔
      hasKey (file.withEnvironment environment).model.apiKey = false := by
  rw [hasKey_withEnvironment]
  simp only [Keyless, Bool.or_eq_false_iff, hasKey_eq_false_iff, List.forall_mem_cons,
    List.not_mem_nil, false_implies, implies_true, and_true, and_assoc]

/--
A configuration that is stored is loaded, and a project is then prepared as follows.  If nothing is
at the path, the path is said not to exist, and if something else than a directory is there, it is
said to be none; neither depends on the keys or on whether the model is skipped.  In a directory, a
key is said to be missing if and only if the model is not skipped and neither the file nor one of the
two variables has a key that is not blank.  Otherwise the project is ready, and it has a model if and
only if the model is not skipped.  Setting up the model never fails for want of a key.
-/
theorem prepare_after_load
    (around : Surroundings)
    (fs : FileSystem)
    (environment : Environment)
    (explicit : Option String)
    {file : Config}
    (hfile : Config.stored fs environment explicit = .ok file) :
    ∃ config, Config.load fs environment explicit = .ok config ∧
      ∀ path skipModel,
        let prepared := prepare around fs config path skipModel
        (prepared = .error (.pathNotFound path) ↔ fs.hasEntry path = false) ∧
          (prepared = .error (.notADirectory path) ↔
            fs.hasEntry path = true ∧ fs.hasDirectory path = false) ∧
          (prepared = .error .missingApiKey ↔
            fs.hasDirectory path = true ∧ skipModel = false ∧ Keyless file environment) ∧
          (∀ reason, prepared ≠ .error (.modelRefused reason)) ∧
          ((∃ ready, prepared = .ok ready) ↔
            fs.hasDirectory path = true ∧ (skipModel = false → ¬ Keyless file environment)) ∧
          ∀ project console, prepared = .ok (project, console) →
            (project.client.isSome = true ↔ skipModel = false) := by
  refine ⟨file.withEnvironment environment, load_of_stored hfile, ?_⟩
  intro path skipModel prepared
  have hends : Ends fs (file.withEnvironment environment) path skipModel prepared :=
    prepare_ends around fs _ path skipModel
  rw [keyless_iff]
  generalize prepared = result at hends
  cases hends with
  | absent hentry =>
      simp [hentry, hasDirectory_of_absent hentry]
  | notADirectory hentry hdirectory =>
      simp [hentry, hdirectory]
  | keyless hdirectory hmodel hkey =>
      simp [hasEntry_of_hasDirectory hdirectory, hdirectory, hmodel, hkey]
  | ready project console hdirectory hkey hclient =>
      refine ⟨?_, ?_, ?_, ?_, ?_, ?_⟩
      · simp [hasEntry_of_hasDirectory hdirectory]
      · simp [hdirectory]
      · simp only [reduceCtorEq, hdirectory, true_and, false_iff, not_and]
        intro hmodel
        simp [hkey hmodel]
      · simp
      · simpa [hdirectory] using hkey
      · intro project' console' hready
        obtain rfl := (Prod.mk.inj (Except.ok.inj hready)).1
        simp [hclient]

/-- A machine with an empty project and a configuration file whose key is blank. -/
def blankKeyMachine : FileSystem where
  root := .directory
    [("home", .directory [(".codewarden.toml", .file "[llm]\napi_key = \" \"\n".toUTF8 0)]),
     ("p", .directory [])]
  current := []
  now := 0

/-- The configuration in this file. -/
def blankKeyFile : Config :=
  { Config.default with model := { ModelConfig.default with apiKey := some " " } }

/-- An environment with a home directory and a key. -/
def keyedEnvironment (key : String) : Environment
  | "HOME" => some "/home"
  | "OPENAI_API_KEY" => some key
  | _ => none

/-- Nothing is around an audit. -/
def bareSurroundings : Surroundings where
  programs := fun _ => none
  transport := fun _ _ => none
  temporary := "/tmp"
  unique := "1"

/-- Blank keys alone let every way of failing be met in its turn; one more key makes the project
ready. -/
theorem every_ending_met :
    (∃ config, Config.load blankKeyMachine (keyedEnvironment "\t") none = .ok config ∧
      prepare bareSurroundings blankKeyMachine config "/q" false = .error (.pathNotFound "/q") ∧
      prepare bareSurroundings blankKeyMachine config "/home/.codewarden.toml" false =
        .error (.notADirectory "/home/.codewarden.toml") ∧
      prepare bareSurroundings blankKeyMachine config "/p" false = .error .missingApiKey ∧
      ∃ ready, prepare bareSurroundings blankKeyMachine config "/p" true = .ok ready ∧
        ready.1.client.isSome = false) ∧
    ∃ config, Config.load blankKeyMachine (keyedEnvironment "key") none = .ok config ∧
      ∃ ready, prepare bareSurroundings blankKeyMachine config "/p" false = .ok ready ∧
        ready.1.client.isSome = true := by
  have hkeyed : Config.stored blankKeyMachine (keyedEnvironment "key") none = .ok blankKeyFile := by
    decide +kernel
  -- What is stored does not depend on the key that the environment offers.
  have hblank : Config.stored blankKeyMachine (keyedEnvironment "\t") none = .ok blankKeyFile :=
    hkeyed
  have hdirectory : blankKeyMachine.hasDirectory "/p" = true := by decide +kernel
  obtain ⟨blank, hload, hends⟩ := prepare_after_load bareSurroundings blankKeyMachine _ none hblank
  obtain ⟨keyed, hload', hends'⟩ := prepare_after_load bareSurroundings blankKeyMachine _ none hkeyed
  refine ⟨⟨blank, hload, ?_, ?_, ?_, ?_⟩, keyed, hload', ?_⟩
  · exact (hends "/q" false).1.mpr (by decide +kernel)
  · exact (hends _ false).2.1.mpr (by decide +kernel)
  · refine (hends "/p" false).2.2.1.mpr ⟨hdirectory, rfl, ?_⟩
    simp only [Keyless]
    decide +kernel
  · obtain ⟨-, -, -, -, hok, hclient⟩ := hends "/p" true
    obtain ⟨ready, hprepared⟩ := hok.mpr ⟨hdirectory, by simp⟩
    refine ⟨ready, hprepared, ?_⟩
    simpa using (hclient _ _ hprepared).not
  · obtain ⟨-, -, -, -, hok, hclient⟩ := hends' "/p" false
    have hkey : ¬ Keyless blankKeyFile (keyedEnvironment "key") := by
      simp only [Keyless]
      decide +kernel
    obtain ⟨ready, hprepared⟩ := hok.mpr ⟨hdirectory, fun _ => hkey⟩
    exact ⟨ready, hprepared, (hclient _ _ hprepared).mpr rfl⟩

end Project
end CodeAudit
