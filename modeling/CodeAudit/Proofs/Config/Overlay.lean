import CodeAudit.Config.Load
import Mathlib.Data.List.Basic

/-!
# Environments over a configuration

Environments are applied to a configuration one after another.  A key is settled by the first value
that is not blank, the configuration's own one before all others, and stays from then on; an endpoint
or a model is replaced by every value that is not blank, so that the last one stays.  The scanner's
key differs from the model's in one point: an own value settles it even if it is blank.

**Results.**
* `withEnvironment_eq`: what one environment does.
* `withEnvironments_eq`: what a session of environments does.
* `overlay_settles_keys`: both, and that an environment need not be applied twice.
-/

namespace CodeAudit
namespace Config

/-- The values of some variables that are not blank, one environment after another. -/
def met
    (names : List String)
    (environments : List Environment) : List String :=
  (environments.flatMap fun environment => names.filterMap environment).filter
    fun value => !Text.isBlankText value

/-- A value, unless it is blank. -/
def unlessBlank
    (value : Option String) : Option String :=
  value.filter fun value => !Text.isBlankText value

/-- The configuration after environments have been applied one after another. -/
def withEnvironments
    (environments : List Environment)
    (c : Config) : Config :=
  environments.foldl (fun c environment => c.withEnvironment environment) c

/-- The configuration in which the values that environments offer have been settled. -/
def settledBy
    (environments : List Environment)
    (c : Config) : Config :=
  { c with
    model := { c.model with
      apiKey := (unlessBlank c.model.apiKey).or
        (met ["CODEWARDEN_API_KEY", "OPENAI_API_KEY"] environments).head?
      baseUrl := (met ["CODEWARDEN_BASE_URL"] environments).getLast?.getD c.model.baseUrl
      model := (met ["CODEWARDEN_MODEL"] environments).getLast?.getD c.model.model }
    scanner := { c.scanner with
      nvdApiKey := c.scanner.nvdApiKey.or (met ["NVD_API_KEY"] environments).head? } }

/-! ## Values that are not blank -/

theorem unlessBlank_eq_some_iff
    {value : Option String}
    {text : String} :
    unlessBlank value = some text ↔ value = some text ∧ Text.isBlankText text = false := by
  simp [unlessBlank, Option.filter_eq_some_iff]

theorem hasKey_iff
    {key : Option String} :
    hasKey key = true ↔ ∃ text, key = some text ∧ Text.isBlankText text = false := by
  cases key with
  | none =>
      simp [hasKey]
  | some text =>
      simp [hasKey]

theorem unlessBlank_eq_self
    {value : Option String}
    (hvisible : ∀ text, value = some text → Text.isBlankText text = false) :
    unlessBlank value = value := by
  cases value with
  | none =>
      rfl
  | some text =>
      exact unlessBlank_eq_some_iff.mpr ⟨rfl, hvisible text rfl⟩

theorem unlessBlank_of_not_hasKey
    {key : Option String}
    (hkey : hasKey key = false) :
    unlessBlank key = none := by
  rw [Option.eq_none_iff_forall_ne_some]
  intro text htext
  have hkey' := hasKey_iff.mpr ⟨text, unlessBlank_eq_some_iff.mp htext⟩
  rw [hkey] at hkey'
  cases hkey'

theorem any_isBlankText_unlessBlank
    (value : Option String) :
    (unlessBlank value).any Text.isBlankText = false := by
  cases hvalue : unlessBlank value with
  | none =>
      rfl
  | some text =>
      exact (unlessBlank_eq_some_iff.mp hvalue).2

theorem not_blank_of_mem_met
    {names : List String}
    {environments : List Environment}
    {value : String}
    (hvalue : value ∈ met names environments) :
    Text.isBlankText value = false := by
  simpa using (List.mem_filter.mp hvalue).2

@[simp] theorem met_append
    (names : List String)
    (earlier later : List Environment) :
    met names (earlier ++ later) = met names earlier ++ met names later := by
  simp [met]

/-- The values of one environment, in the order of the variables. -/
theorem met_singleton
    (names : List String)
    (environment : Environment) :
    met names [environment] = names.filterMap (nonBlank environment) := by
  simp only [met, List.flatMap_singleton, List.filter_filterMap]
  rfl

@[simp] theorem met_one
    (name : String)
    (environment : Environment) :
    met [name] [environment] = (nonBlank environment name).toList := by
  rw [met_singleton]
  cases hvalue : nonBlank environment name with
  | none =>
      simp [hvalue]
  | some value =>
      simp [hvalue]

theorem head?_met_two
    (first second : String)
    (environment : Environment) :
    (met [first, second] [environment]).head? =
      (nonBlank environment first).or (nonBlank environment second) := by
  rw [met_singleton]
  cases hfirst : nonBlank environment first with
  | none =>
      cases hsecond : nonBlank environment second <;> simp [hfirst, hsecond]
  | some value =>
      simp [hfirst]

/-! ## One environment -/

/-- The two ways to say which key is settled: by a test first, or by the first of some values. -/
theorem keyAfter_eq
    (environment : Environment)
    (key : Option String) :
    (if hasKey key then key
      else (nonBlank environment "CODEWARDEN_API_KEY").or
        (nonBlank environment "OPENAI_API_KEY")) =
      (unlessBlank key).or (met ["CODEWARDEN_API_KEY", "OPENAI_API_KEY"] [environment]).head? := by
  rw [head?_met_two]
  cases hkey : hasKey key with
  | true =>
      obtain ⟨text, rfl, hvisible⟩ := hasKey_iff.mp hkey
      rw [if_pos rfl, unlessBlank_eq_some_iff.mpr ⟨rfl, hvisible⟩, Option.some_or]
  | false =>
      rw [unlessBlank_of_not_hasKey hkey, if_neg Bool.false_ne_true, Option.none_or]

/-- One environment settles what it offers. -/
theorem withEnvironment_eq
    (environment : Environment)
    (c : Config) :
    c.withEnvironment environment = c.settledBy [environment] := by
  have hlast : ∀ name, (met [name] [environment]).getLast? = nonBlank environment name := by
    intro name
    rw [met_one]
    cases nonBlank environment name <;> rfl
  have hhead : ∀ name, (met [name] [environment]).head? = nonBlank environment name := by
    intro name
    rw [met_one]
    cases nonBlank environment name <;> rfl
  simp only [withEnvironment, modelWith, scannerWith, settledBy, keyAfter_eq, hlast, hhead]

/-- What is loaded is the stored configuration with the environment over it. -/
theorem load_of_stored
    {fs : FileSystem}
    {environment : Environment}
    {explicit : Option String}
    {file : Config}
    (hfile : stored fs environment explicit = .ok file) :
    load fs environment explicit = .ok (file.withEnvironment environment) := by
  rw [load, hfile]
  rfl

/-! ## A session of environments -/

/-- A key that has been settled is not blank, so that it is settled for good. -/
theorem unlessBlank_settled
    (names : List String)
    (environments : List Environment)
    (key : Option String) :
    unlessBlank ((unlessBlank key).or (met names environments).head?) =
      (unlessBlank key).or (met names environments).head? := by
  apply unlessBlank_eq_self
  intro text htext
  rcases Option.or_eq_some_iff.mp htext with hown | ⟨-, hmet⟩
  · exact (unlessBlank_eq_some_iff.mp hown).2
  · exact not_blank_of_mem_met (List.mem_of_head? hmet)

/-- The last of all values is the last one of the later values, if there is one. -/
theorem getD_getLast?_append
    (earlier later : List String)
    (default : String) :
    (earlier ++ later).getLast?.getD default = later.getLast?.getD (earlier.getLast?.getD default) := by
  rw [List.getLast?_append]
  cases later.getLast? <;> rfl

/-- What environments have settled is settled further by later ones, as by all of them at once. -/
theorem settledBy_settledBy
    (earlier later : List Environment)
    (c : Config) :
    (c.settledBy earlier).settledBy later = c.settledBy (earlier ++ later) := by
  simp only [settledBy, unlessBlank_settled, met_append, List.head?_append, Option.or_assoc,
    getD_getLast?_append]

/-- A session settles what its environments offer, however many they are. -/
theorem withEnvironments_eq
    (first : Environment)
    (later : List Environment)
    (c : Config) :
    c.withEnvironments (first :: later) = c.settledBy (first :: later) := by
  -- The first environment settles the configuration, so the induction is on the later ones.
  induction later generalizing first c with
  | nil =>
      exact withEnvironment_eq first c
  | cons second rest ih =>
      have hstep : c.withEnvironments (first :: second :: rest) =
          (c.withEnvironment first).withEnvironments (second :: rest) := by
        rfl
      rw [hstep, ih, withEnvironment_eq, settledBy_settledBy, List.singleton_append]

/-- What has been settled by environments is not settled otherwise by the same ones. -/
theorem settledBy_same
    (environments : List Environment)
    (c : Config) :
    c.settledBy (environments ++ environments) = c.settledBy environments := by
  have hhead : ∀ values : List String, (values ++ values).head? = values.head? := by
    intro values
    rw [List.head?_append, Option.or_self]
  have hlast : ∀ values : List String, (values ++ values).getLast? = values.getLast? := by
    intro values
    rw [List.getLast?_append, Option.or_self]
  simp only [settledBy, met_append, hhead, hlast]

/--
Environments applied one after another settle a configuration.  The key of the model is the
configuration's own one, or if that is blank the first value of its two variables that is not blank,
environment by environment, or else absent; it is never blank.  The endpoint and the model are the
last values that are not blank, or else as they were.  The key of the scanner is the configuration's
own one, or if that is absent the first value that is not blank.  Nothing else changes, and an
environment that is applied twice does what it does once.
-/
theorem overlay_settles_keys
    (c : Config)
    (first : Environment)
    (later : List Environment) :
    let environments := first :: later
    let final := c.withEnvironments environments
    (final.model.apiKey = (unlessBlank c.model.apiKey).or
        (met ["CODEWARDEN_API_KEY", "OPENAI_API_KEY"] environments).head? ∧
      final.model.apiKey.any Text.isBlankText = false) ∧
      final.model.baseUrl =
        (met ["CODEWARDEN_BASE_URL"] environments).getLast?.getD c.model.baseUrl ∧
      final.model.model = (met ["CODEWARDEN_MODEL"] environments).getLast?.getD c.model.model ∧
      final.scanner.nvdApiKey =
        c.scanner.nvdApiKey.or (met ["NVD_API_KEY"] environments).head? ∧
      final =
        { c with
          model := { c.model with
            apiKey := final.model.apiKey
            baseUrl := final.model.baseUrl
            model := final.model.model }
          scanner := { c.scanner with nvdApiKey := final.scanner.nvdApiKey } } ∧
      (c.withEnvironment first).withEnvironment first = c.withEnvironment first := by
  intro environments final
  have hfinal : final = c.settledBy environments := withEnvironments_eq first later c
  refine ⟨⟨?_, ?_⟩, ?_, ?_, ?_, ?_, ?_⟩
  · rw [hfinal]
    rfl
  · rw [hfinal]
    have hsettled : unlessBlank (c.settledBy environments).model.apiKey =
        (c.settledBy environments).model.apiKey :=
      unlessBlank_settled _ environments c.model.apiKey
    rw [← hsettled]
    exact any_isBlankText_unlessBlank _
  · rw [hfinal]
    rfl
  · rw [hfinal]
    rfl
  · rw [hfinal]
    rfl
  · rw [hfinal]
    rfl
  · rw [withEnvironment_eq, withEnvironment_eq, settledBy_settledBy, settledBy_same]

end Config
end CodeAudit
