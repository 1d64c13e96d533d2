import CommitChecks.Log.Installation

/-!
# The log is installed once

A configuration is refused for its own filter alone. Of those that are not refused the first one installs
the log, and all later ones find it installed. What fails leaves everything as it was.
-/

namespace CommitChecks.Log

variable {config : Config} {environment : Option String} {failure : Failure}

namespace Config

/-- The filter in force when nothing else is given: the configured level for every part of the
library. -/
def defaultFilter (config : Config) : Filter where
  directives := ["checkrun_core", "checkrun_status", "checkrun_github"].map fun target =>
    { threshold := .level config.level, target := some target.toList }

/-- The text of the default filter can be read, whatever the level. -/
theorem read?_defaultText (config : Config) :
    Filter.read? config.defaultText = some config.defaultFilter := by
  have each : ∀ level ∈ Level.all, Filter.read? (defaultText ⟨.compact, level, none⟩) =
      some (defaultFilter ⟨.compact, level, none⟩) := by
    decide +kernel
  have listed : config.level ∈ Level.all := by cases config.level <;> decide
  exact each config.level listed

/-- Whether a configuration has a filter of its own that cannot be read. -/
def Unreadable (config : Config) : Prop :=
  ∃ text, config.filter = some text ∧ Filter.read? text = none

/-- A configuration has a filter unless its own one cannot be read. -/
theorem filter?_eq_error_iff :
    config.filter? environment = .error failure ↔ config.Unreadable ∧ failure = .invalidFilter := by
  unfold filter? Unreadable
  cases config.filter with
  | none =>
    rw [read?_defaultText]
    cases environment.bind Filter.read? <;> simp
  | some text =>
    cases read : Filter.read? text <;> simp [read, eq_comm]

theorem exists_filter?_eq_ok_iff :
    (∃ filter, config.filter? environment = .ok filter) ↔ ¬ config.Unreadable := by
  cases built : config.filter? environment with
  | ok filter =>
    have readable : ¬ config.Unreadable := fun unreadable => by
      rw [filter?_eq_error_iff.2 ⟨unreadable, rfl⟩] at built
      contradiction
    exact ⟨fun _ => readable, fun _ => ⟨filter, rfl⟩⟩
  | error failure => simp [(filter?_eq_error_iff.1 built).1]

end Config

namespace Installation

variable {installation : Installation} {configs : List Config}

/-! ## One configuration -/

/-- What can come of a configuration: its filter is refused, it comes too late, or it is installed. -/
theorem install_cases (installation : Installation) (environment : Option String) (config : Config) :
    (config.Unreadable ∧
        installation.install environment config = (.error .invalidFilter, installation)) ∨
      (¬ config.Unreadable ∧ installation.filter ≠ none ∧
        installation.install environment config = (.error .alreadyInstalled, installation)) ∨
      ¬ config.Unreadable ∧ installation.filter = none ∧ ∃ filter,
        config.filter? environment = .ok filter ∧
          installation.install environment config = (.ok (), ⟨some filter⟩) := by
  cases built : config.filter? environment with
  | error failure =>
    obtain ⟨unreadable, rfl⟩ := Config.filter?_eq_error_iff.1 built
    exact .inl ⟨unreadable, by simp only [install, built]⟩
  | ok filter =>
    have readable : ¬ config.Unreadable := Config.exists_filter?_eq_ok_iff.1 ⟨filter, built⟩
    cases installed : installation.filter with
    | none => exact .inr (.inr ⟨readable, rfl, filter, rfl, by simp only [install, built, installed]⟩)
    | some other => exact .inr (.inl ⟨readable, nofun, by simp only [install, built, installed]⟩)

theorem install_eq_refused_iff :
    (installation.install environment config).1 = .error .invalidFilter ↔ config.Unreadable := by
  have differ : Failure.alreadyInstalled ≠ .invalidFilter := by decide
  obtain ⟨unreadable, result⟩ | ⟨readable, -, result⟩ | ⟨readable, -, filter, -, result⟩ :=
    install_cases installation environment config <;> simp [*]

theorem install_eq_late_iff :
    (installation.install environment config).1 = .error .alreadyInstalled ↔
      ¬ config.Unreadable ∧ installation.filter ≠ none := by
  have differ : Failure.invalidFilter ≠ .alreadyInstalled := by decide
  obtain ⟨unreadable, result⟩ | ⟨readable, installed, result⟩ | ⟨readable, free, filter, -, result⟩ :=
    install_cases installation environment config <;> simp [*]

theorem install_eq_ok_iff :
    (installation.install environment config).1 = .ok () ↔
      ¬ config.Unreadable ∧ installation.filter = none := by
  obtain ⟨unreadable, result⟩ | ⟨readable, installed, result⟩ | ⟨readable, free, filter, -, result⟩ :=
    install_cases installation environment config <;> simp [*]

/-- What fails leaves the installation as it was. -/
theorem install_of_error (fails : (installation.install environment config).1 = .error failure) :
    (installation.install environment config).2 = installation := by
  obtain ⟨-, result⟩ | ⟨-, -, result⟩ | ⟨-, -, filter, -, result⟩ :=
    install_cases installation environment config
  · rw [result]
  · rw [result]
  · rw [result] at fails
    contradiction

/-- Nothing is installed afterwards exactly if nothing was and the configuration was refused. -/
theorem filter_install_eq_none_iff :
    (installation.install environment config).2.filter = none ↔
      installation.filter = none ∧ config.Unreadable := by
  obtain ⟨unreadable, result⟩ | ⟨readable, installed, result⟩ | ⟨readable, free, filter, -, result⟩ :=
    install_cases installation environment config <;> simp [*]

/-! ## One configuration after another -/

theorem installAll_cons (installation : Installation) (environment : Option String) (config : Config)
    (rest : List Config) :
    installation.installAll environment (config :: rest) =
      ((installation.install environment config).1 ::
          ((installation.install environment config).2.installAll environment rest).1,
        ((installation.install environment config).2.installAll environment rest).2) :=
  rfl

theorem length_installAll : (installation.installAll environment configs).1.length = configs.length := by
  induction configs generalizing installation with
  | nil => rfl
  | cons config rest ih => exact congrArg (· + 1) ih

/-- Nothing is installed as long as all configurations are refused. -/
theorem filter_installAll_eq_none_iff :
    (installation.installAll environment configs).2.filter = none ↔
      installation.filter = none ∧ ∀ config ∈ configs, config.Unreadable := by
  induction configs generalizing installation with
  | nil => simp [installAll]
  | cons config rest ih =>
    rw [installAll_cons, ih, filter_install_eq_none_iff, List.forall_mem_cons, and_assoc]

/-- A configuration is met by what those before it have installed. -/
theorem getElem?_installAll (index : Nat) :
    (installation.installAll environment configs).1[index]? = configs[index]?.map fun config =>
      ((installation.installAll environment (configs.take index)).2.install environment config).1 := by
  induction configs generalizing installation index with
  | nil => rfl
  | cons config rest ih =>
    cases index with
    | zero => rfl
    | succ index => exact ih index

/-- A configuration that fails might as well not have been there. -/
theorem installAll_eraseIdx {index : Nat}
    (fails : (installation.installAll environment configs).1[index]? = some (.error failure)) :
    installation.installAll environment (configs.eraseIdx index) =
      ((installation.installAll environment configs).1.eraseIdx index,
        (installation.installAll environment configs).2) := by
  induction configs generalizing installation index with
  | nil => contradiction
  | cons config rest ih =>
    cases index with
    | zero =>
      have unchanged : (installation.install environment config).2 = installation :=
        install_of_error (Option.some.inj fails)
      rw [installAll_cons, unchanged]
      rfl
    | succ index =>
      have later : (installation.install environment config).2.installAll environment
          (rest.eraseIdx index) = _ := ih fails
      rw [List.eraseIdx_cons_succ, installAll_cons, installAll_cons, later, List.eraseIdx_cons_succ]

/-- Whatever the environment holds, a configuration is refused exactly if its own filter cannot be read. Of the
others the first one is installed and all later ones come too late, so that at most one is. One that fails
changes nothing for those after it. -/
theorem log_is_installed_once (environment : Option String) (configs : List Config) :
    let results := (installAll {} environment configs).1
    results.length = configs.length ∧
    (∀ index : Nat,
      (results[index]? = some (.error .invalidFilter) ↔
        ∃ config, configs[index]? = some config ∧ config.Unreadable) ∧
      (results[index]? = some (.ok ()) ↔
        ∃ config, configs[index]? = some config ∧ ¬ config.Unreadable ∧
          ∀ earlier ∈ configs.take index, earlier.Unreadable) ∧
      (results[index]? = some (.error .alreadyInstalled) ↔
        ∃ config, configs[index]? = some config ∧ ¬ config.Unreadable ∧
          ∃ earlier ∈ configs.take index, ¬ earlier.Unreadable)) ∧
    (∀ first second : Nat, results[first]? = some (.ok ()) → results[second]? = some (.ok ()) →
      first = second) ∧
    ∀ (index : Nat) failure, results[index]? = some (.error failure) →
      installAll {} environment (configs.eraseIdx index) =
        (results.eraseIdx index, (installAll {} environment configs).2) := by
  intro results
  have free (index : Nat) :
      (installAll {} environment (configs.take index)).2.filter = none ↔
        ∀ earlier ∈ configs.take index, earlier.Unreadable := by
    rw [filter_installAll_eq_none_iff]
    exact and_iff_right rfl
  have comesTo (index : Nat) (result : Except Failure Unit) :
      results[index]? = some result ↔ ∃ config, configs[index]? = some config ∧
        ((installAll {} environment (configs.take index)).2.install environment config).1 = result := by
    rw [getElem?_installAll, Option.map_eq_some_iff]
  have installs (index : Nat) : results[index]? = some (.ok ()) ↔
      ∃ config, configs[index]? = some config ∧ ¬ config.Unreadable ∧
        ∀ earlier ∈ configs.take index, earlier.Unreadable := by
    simp only [comesTo, install_eq_ok_iff, free]
  refine ⟨length_installAll, ?each, ?once, fun index failure => installAll_eraseIdx⟩
  case each =>
    intro index
    refine ⟨?refused, installs index, ?late⟩
    case refused => simp only [comesTo, install_eq_refused_iff]
    case late => simp only [comesTo, install_eq_late_iff, ne_eq, free,
      Classical.not_forall, exists_prop]
  case once =>
    -- A configuration that is installed is not among the refused ones before another.
    have notBefore : ∀ first second : Nat, results[first]? = some (.ok ()) →
        results[second]? = some (.ok ()) → ¬ first < second := by
      intro first second won won' less
      obtain ⟨config, asked, readable, -⟩ := (installs first).1 won
      obtain ⟨-, -, -, refused⟩ := (installs second).1 won'
      have before : (configs.take second)[first]? = some config := by
        rw [List.getElem?_take_of_lt less, asked]
      exact readable (refused config (List.mem_of_getElem? before))
    intro first second won won'
    exact Nat.le_antisymm (Nat.not_lt.1 (notBefore second first won' won))
      (Nat.not_lt.1 (notBefore first second won won'))

/-- A configuration with a level that does not exist comes first and comes back last, and the environment
holds such a level as well. -/
theorem log_is_installed_once_after_refusal :
    let environment := some "checkrun_core=loud"
    let refused : Config := ⟨.json, .warn, some "checkrun_status=notalevel"⟩
    let late : Config := ⟨.pretty, .trace, some "info"⟩
    let configs : List Config := [refused, .default, late, refused]
    let results := (installAll {} environment configs).1
    results[0]? = some (.error .invalidFilter) ∧ results[1]? = some (.ok ()) ∧
      results[2]? = some (.error .alreadyInstalled) ∧ results[3]? = some (.error .invalidFilter) ∧
      (∀ index : Nat, results[index]? = some (.ok ()) → 1 = index) ∧
      installAll {} environment [.default, late, refused] =
        (results.eraseIdx 0, (installAll {} environment configs).2) := by
  intro environment refused late configs results
  obtain ⟨-, each, once, erased⟩ := log_is_installed_once environment configs
  have unreadable : refused.Unreadable := ⟨_, rfl, by decide +kernel⟩
  have readable : ¬ Config.default.Unreadable := by
    rintro ⟨text, given, -⟩
    contradiction
  have lateReadable : ¬ late.Unreadable := by
    rintro ⟨text, given, unread⟩
    obtain rfl := Option.some.inj given
    revert unread
    decide +kernel
  have first : results[0]? = some (.error .invalidFilter) := (each 0).1.2 ⟨refused, rfl, unreadable⟩
  have second : results[1]? = some (.ok ()) :=
    (each 1).2.1.2 ⟨.default, rfl, readable, by simpa [configs] using unreadable⟩
  have third : results[2]? = some (.error .alreadyInstalled) :=
    (each 2).2.2.2 ⟨late, rfl, lateReadable, .default, by simp [configs], readable⟩
  have fourth : results[3]? = some (.error .invalidFilter) := (each 3).1.2 ⟨refused, rfl, unreadable⟩
  exact ⟨first, second, third, fourth, fun index => once 1 index second, erased 0 .invalidFilter first⟩

end Installation
end CommitChecks.Log
