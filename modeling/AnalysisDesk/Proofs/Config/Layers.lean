/-
The layers of a configuration.

A setting has the value of its variable if that is set and usable, else the value that the file
states, else its default.  `Layers` says so of each setting for itself: a section that is
incomplete is no matter, and neither is a variable that cannot be used.

For each setting, the reader of the file and the reader of the variable take exactly what can be
used; `layered_iff` puts the three layers together from that, so the configuration is the only
one with these layers.
-/
import AnalysisDesk.Config.Overrides
import AnalysisDesk.Proofs.Config.Checking
import AnalysisDesk.Proofs.Config.Stated
import AnalysisDesk.Proofs.Text.Numerals
import Mathlib

namespace AnalysisDesk

namespace Config

open Given

/-! ### One setting -/

/-- Which value a setting has: one that is usable among those from outside, else the one that the
file states, else the default. -/
inductive Layered {α : Type} (usable : α → Prop) (kind : Toml → α → Prop) (stated : Option Toml)
    (default : α) : α → Prop
  | variable {a : α} (h : usable a) : Layered usable kind stated default a
  | file {value : Toml} {a : α} (hunset : ∀ b, ¬usable b) (hstated : stated = some value)
      (hkind : kind value a) : Layered usable kind stated default a
  | default (hunset : ∀ b, ¬usable b) (hstated : stated = none) :
      Layered usable kind stated default default

/-- A setting for which there is no variable. -/
def NoVariable {α : Type} (_ : α) : Prop := False

theorem layered_iff {α : Type} {usable : α → Prop} {kind : Toml → α → Prop} {stated : Option Toml}
    {default a : α} {outside said : Option α} {read : Toml → Option α} (htakes : Takes read kind)
    (houtside : ∀ a, usable a ↔ outside = some a) (hsaid : Says kind stated said) :
    Layered usable kind stated default a ↔ outside.getD (said.getD default) = a := by
  cases outside with
  | some b =>
      constructor
      · rintro (h | ⟨hunset, -⟩ | ⟨hunset, -⟩)
        · exact Option.some.inj ((houtside _).mp h)
        · exact absurd ((houtside b).mpr rfl) (hunset b)
        · exact absurd ((houtside b).mpr rfl) (hunset b)
      · rintro rfl
        exact .variable ((houtside _).mpr rfl)
  | none =>
      have hunset : ∀ b, ¬usable b := fun b h => nomatch (houtside b).mp h
      cases hsaid with
      | nothing hnone =>
          constructor
          · rintro (h | ⟨-, hstated, -⟩ | -)
            · exact absurd h (hunset _)
            · rw [hnone] at hstated
              exact nomatch hstated
            · rfl
          · rintro rfl
            exact .default hunset hnone
      | value hsome hkind =>
          constructor
          · rintro (h | ⟨-, hstated, hkind'⟩ | ⟨-, hstated⟩)
            · exact absurd h (hunset _)
            · rw [hsome] at hstated
              cases hstated
              exact htakes.unique hkind hkind'
            · rw [hsome] at hstated
              exact nomatch hstated
          · rintro rfl
            exact .file hunset hsome hkind

/-- A setting without variable. -/
theorem layered_iff_of_noVariable {α : Type} {kind : Toml → α → Prop} {stated : Option Toml}
    {default a : α} {said : Option α} {read : Toml → Option α} (htakes : Takes read kind)
    (hsaid : Says kind stated said) :
    Layered NoVariable kind stated default a ↔ said.getD default = a :=
  layered_iff htakes (fun _ => ⟨False.elim, nofun⟩ : ∀ a, NoVariable a ↔ none = some a) hsaid

/-! ### The variables -/

/-- A variable with a text. -/
def IsSet (env : Environment) (name text : String) : Prop := env name = some text

/-- A text that writes the number of a port. -/
def IsPort (text : String) (port : Nat) : Prop := Text.WritesNat text port ∧ port ≤ 65535

/-- A text that is the label of a format, with any of its letters as capitals. -/
def IsFormatLabel (text : String) (format : LogFormat) : Prop :=
  List.Forall₂ (fun c letter => c = letter ∨ c = letter.toUpper) text.toList format.label.toList

/-- A variable whose text is usable, for something. -/
def Names {α : Type} (env : Environment) (name : String) (usable : String → α → Prop) (a : α) :
    Prop := ∃ text, IsSet env name text ∧ usable text a

theorem names_iff {α : Type} {env : Environment} {name : String} {usable : String → α → Prop}
    {read : String → Option α} (hread : ∀ text a, read text = some a ↔ usable text a) (a : α) :
    Names env name usable a ↔ (env name).bind read = some a := by
  simp only [Names, IsSet, Option.bind_eq_some_iff, hread]

theorem portOfText?_eq_some_iff (text : String) (port : Nat) :
    portOfText? text = some port ↔ IsPort text port := by
  have hok : portOfText? text = some port ↔ Text.readNatural Limit.word16 text = .ok port := by
    unfold portOfText?
    cases Text.readNatural Limit.word16 text <;> simp [Except.toOption]
  rw [hok, Text.readNatural_eq_ok_iff]
  rfl

/-- A letter that is small in small letters: itself or its capital. -/
theorem toLower_eq_iff {c letter : Char} (hletter : letter.isLower = true) :
    c.toLower = letter ↔ c = letter ∨ c = letter.toUpper := by
  constructor
  · rintro rfl
    by_cases hupper : c.isUpper = true
    · right
      rw [Char.toUpper_toLower_eq_toUpper, Char.toUpper_eq_of_not_isLower]
      intro hlower
      exact Char.not_isUpper_of_isLower hlower hupper
    · exact Or.inl (Char.toLower_eq_of_not_isUpper hupper).symm
  · rintro (rfl | rfl)
    · exact Char.toLower_eq_of_not_isUpper (Char.not_isUpper_of_isLower hletter)
    · rw [Char.toLower_toUpper_eq_toLower]
      exact Char.toLower_eq_of_not_isUpper (Char.not_isUpper_of_isLower hletter)

theorem map_toLower_eq_iff {letters cs : List Char} (h : ∀ c ∈ letters, c.isLower = true) :
    cs.map Char.toLower = letters ↔
      List.Forall₂ (fun c letter => c = letter ∨ c = letter.toUpper) cs letters := by
  induction letters generalizing cs with
  | nil => simp
  | cons letter letters ih =>
      obtain ⟨hletter, hletters⟩ := List.forall_mem_cons.mp h
      cases cs with
      | nil => simp
      | cons c cs => simp [toLower_eq_iff hletter, ih hletters]

theorem ofLabel?_eq_some_iff (text : String) (format : LogFormat) :
    LogFormat.ofLabel? text = some format ↔ IsFormatLabel text format := by
  have hsmall : ∀ c ∈ format.label.toList, c.isLower = true := by
    cases format <;> simp [LogFormat.label]
  rw [LogFormat.ofLabel?, lookup_labelled_iff, IsFormatLabel, ← map_toLower_eq_iff hsmall,
    ← String.toList_inj, String.toLower, String.toList_map]

/-! ### The configuration -/

/-- A configuration whose settings have the values that the layers give them. -/
structure Layers (file : TomlTable) (env : Environment) (c : Config) : Prop where
  host : Layered NoVariable IsText (stated? file "server" "host") "127.0.0.1" c.server.host
  port : Layered (Names env "CODESAGE_PORT" IsPort) (IsNumber 65535)
    (stated? file "server" "port") 5000 c.server.port
  databasePath : Layered (IsSet env "CODESAGE_DB_PATH") IsText (stated? file "server" "db_path")
    ".codesage/codesage.db" c.server.databasePath
  url : Layered (IsSet env "CODESAGE_ANALYZER_URL") IsText (stated? file "analyzer" "url")
    "http://localhost:8000" c.analyzer.url
  requestTimeout : Layered NoVariable (IsNumber (2 ^ 64 - 1))
    (stated? file "analyzer" "request_timeout_secs") 30 c.analyzer.requestTimeout
  interval : Layered NoVariable (IsNumber (2 ^ 64 - 1)) (stated? file "polling" "interval_secs") 5
    c.polling.interval
  timeout : Layered NoVariable (IsNumber (2 ^ 64 - 1)) (stated? file "polling" "timeout_secs") 600
    c.polling.timeout
  sweepInterval : Layered NoVariable (IsNumber (2 ^ 64 - 1))
    (stated? file "polling" "sweep_interval_secs") 30 c.polling.sweepInterval
  maxAttempts : Layered NoVariable (IsNumber (2 ^ 32 - 1)) (stated? file "retry" "max_attempts") 3
    c.retry.maxAttempts
  baseDelay : Layered NoVariable (IsNumber (2 ^ 64 - 1)) (stated? file "retry" "base_delay_ms") 200
    c.retry.baseDelay
  maxDelay : Layered NoVariable (IsNumber (2 ^ 64 - 1)) (stated? file "retry" "max_delay_ms") 5000
    c.retry.maxDelay
  format : Layered (Names env "CODESAGE_LOG_FORMAT" IsFormatLabel) IsFormat
    (stated? file "logging" "format") .plain c.logging.format
  /-- There is no directory by default. -/
  directory : Says IsText (stated? file "logging" "directory") c.logging.directory
  /-- There is no filter by default. -/
  filter : Says IsText (stated? file "logging" "filter") c.logging.filter

theorem says_iff {α : Type} {kind : Toml → α → Prop} {stated : Option Toml}
    {read : Toml → Option α} {said said' : Option α} (htakes : Takes read kind)
    (hsaid : Says kind stated said) : Says kind stated said' ↔ said.or none = said' := by
  rw [Option.or_none]
  exact ⟨hsaid.unique htakes, fun h => h ▸ hsaid⟩

/-- **The configuration is the one with these layers.** -/
theorem layers_iff {file : TomlTable} {given : Given} (htells : Tells file given)
    {env : Environment} {c : Config} :
    Layers file env c ↔ (given.withDefaults .standard).withVariables env = c := by
  have hpath : Layered _ _ _ ".codesage/codesage.db" c.server.databasePath ↔ _ :=
    layered_iff takes_text (fun _ => Iff.rfl : ∀ text, IsSet env "CODESAGE_DB_PATH" text ↔ _)
      htells.databasePath
  have hurl : Layered _ _ _ "http://localhost:8000" c.analyzer.url ↔ _ :=
    layered_iff takes_text (fun _ => Iff.rfl : ∀ text, IsSet env "CODESAGE_ANALYZER_URL" text ↔ _)
      htells.url
  have hport : Layered (Names env "CODESAGE_PORT" IsPort) _ _ 5000 c.server.port ↔ _ :=
    layered_iff (takes_natural _) (names_iff portOfText?_eq_some_iff) htells.port
  have hformat : Layered (Names env "CODESAGE_LOG_FORMAT" IsFormatLabel) _ _ .plain
      c.logging.format ↔ _ :=
    layered_iff takes_format (names_iff ofLabel?_eq_some_iff) htells.format
  constructor
  · intro h
    obtain ⟨⟨_, _, _⟩, ⟨_, _⟩, ⟨_, _, _⟩, ⟨_, _, _⟩, ⟨_, _, _⟩⟩ := c
    obtain rfl := (layered_iff_of_noVariable takes_text htells.host).mp h.host
    obtain rfl := hport.mp h.port
    obtain rfl := hpath.mp h.databasePath
    obtain rfl := hurl.mp h.url
    obtain rfl := (layered_iff_of_noVariable (takes_natural _) htells.requestTimeout).mp
      h.requestTimeout
    obtain rfl := (layered_iff_of_noVariable (takes_natural _) htells.interval).mp h.interval
    obtain rfl := (layered_iff_of_noVariable (takes_natural _) htells.timeout).mp h.timeout
    obtain rfl := (layered_iff_of_noVariable (takes_natural _) htells.sweepInterval).mp
      h.sweepInterval
    obtain rfl := (layered_iff_of_noVariable (takes_natural _) htells.maxAttempts).mp
      h.maxAttempts
    obtain rfl := (layered_iff_of_noVariable (takes_natural _) htells.baseDelay).mp h.baseDelay
    obtain rfl := (layered_iff_of_noVariable (takes_natural _) htells.maxDelay).mp h.maxDelay
    obtain rfl := hformat.mp h.format
    obtain rfl := (says_iff takes_text htells.directory).mp h.directory
    obtain rfl := (says_iff takes_text htells.filter).mp h.filter
    rfl
  · rintro rfl
    exact {
      host := (layered_iff_of_noVariable takes_text htells.host).mpr rfl
      port := hport.mpr rfl
      databasePath := hpath.mpr rfl
      url := hurl.mpr rfl
      requestTimeout := (layered_iff_of_noVariable (takes_natural _) htells.requestTimeout).mpr rfl
      interval := (layered_iff_of_noVariable (takes_natural _) htells.interval).mpr rfl
      timeout := (layered_iff_of_noVariable (takes_natural _) htells.timeout).mpr rfl
      sweepInterval := (layered_iff_of_noVariable (takes_natural _) htells.sweepInterval).mpr rfl
      maxAttempts := (layered_iff_of_noVariable (takes_natural _) htells.maxAttempts).mpr rfl
      baseDelay := (layered_iff_of_noVariable (takes_natural _) htells.baseDelay).mpr rfl
      maxDelay := (layered_iff_of_noVariable (takes_natural _) htells.maxDelay).mpr rfl
      format := hformat.mpr rfl
      directory := (says_iff takes_text htells.directory).mpr rfl
      filter := (says_iff takes_text htells.filter).mpr rfl }

/-! ### What is reported -/

/-- What is reported of a variable: nothing if it is not set or usable, else that its text is not
usable. -/
inductive Reported {α : Type} (env : Environment) (name : String) (usable : String → α → Prop)
    (problem : String → Problem) : List Problem → Prop
  | unset (h : env name = none) : Reported env name usable problem []
  | fine {text : String} {a : α} (hset : IsSet env name text) (h : usable text a) :
      Reported env name usable problem []
  | bad {text : String} (hset : IsSet env name text) (h : ∀ a, ¬usable text a) :
      Reported env name usable problem [problem text]

theorem reported {α : Type} {env : Environment} {name : String} {usable : String → α → Prop}
    {problem : String → Problem} {read : String → Option α}
    (hread : ∀ text a, read text = some a ↔ usable text a) :
    Reported env name usable problem
      ((env name).elim [] fun text => problemIf (read text).isNone (problem text)) := by
  cases hset : env name with
  | none => exact .unset hset
  | some text =>
      cases hvalue : read text with
      | none =>
          simp only [Option.elim_some, hvalue, Option.isNone_none, problemIf, if_true]
          refine .bad hset fun a h => ?_
          rw [← hread, hvalue] at h
          cases h
      | some a =>
          simp only [Option.elim_some, hvalue, Option.isNone_some, problemIf, Bool.false_eq_true,
            if_false]
          exact .fine hset ((hread text a).mp hvalue)

/-- The port is looked at before the format. -/
theorem variableProblems_eq (env : Environment) : variableProblems env =
    ((env "CODESAGE_PORT").elim [] fun text =>
      problemIf (portOfText? text).isNone (.notPort text)) ++
    ((env "CODESAGE_LOG_FORMAT").elim [] fun text =>
      problemIf (LogFormat.ofLabel? text).isNone (.notFormat text)) := by
  unfold variableProblems portVariable formatVariable
  cases env "CODESAGE_PORT" <;> cases env "CODESAGE_LOG_FORMAT" <;> rfl

theorem override_eq (base : Config) (env : Environment) :
    base.override env = if variableProblems env = [] then .ok (base.withVariables env)
      else .error (.invalid (variableProblems env)) := by
  unfold override settle
  cases variableProblems env <;> rfl

/-- The variables are refused for what is reported of the port and then of the format. -/
theorem override_reported (base : Config) (env : Environment) :
    ∃ ports formats, Reported env "CODESAGE_PORT" IsPort .notPort ports ∧
      Reported env "CODESAGE_LOG_FORMAT" IsFormatLabel .notFormat formats ∧
      base.override env = if ports ++ formats = [] then .ok (base.withVariables env)
        else .error (.invalid (ports ++ formats)) := by
  refine ⟨_, _, reported portOfText?_eq_some_iff, reported ofLabel?_eq_some_iff, ?_⟩
  rw [← variableProblems_eq]
  exact override_eq base env

/-- **Settings come in layers.**  Where a text is a configuration, every setting has the value of
its variable, else that of the file, else its default, each for itself; what says nothing in the
file changes nothing; the variables are refused exactly if the port or the format is not usable;
and the check then passes exactly what the service can work by. -/
theorem settings_come_in_layers {text : String} {base : Config}
    (h : Config.ofText? text = some base) (env : Environment) :
    ∃ file, Toml.read? text = some file ∧
      (∀ c, Layers file env c ↔ base.withVariables env = c) ∧
      (∀ text' file', Toml.read? text' = some file' → Relation.EqvGen Pads file file' →
        Config.ofText? text' = some base) ∧
      (∃ ports formats, Reported env "CODESAGE_PORT" IsPort .notPort ports ∧
        Reported env "CODESAGE_LOG_FORMAT" IsFormatLabel .notFormat formats ∧
        base.override env = if ports ++ formats = [] then .ok (base.withVariables env)
          else .error (.invalid (ports ++ formats))) ∧
      ((base.withVariables env).check = .ok () ↔ (base.withVariables env).Workable) := by
  obtain ⟨given, hgiven, rfl⟩ := Option.map_eq_some_iff.mp h
  obtain ⟨file, hfile, htable⟩ := Option.bind_eq_some_iff.mp hgiven
  have htells := (ofTable?_eq_some_iff.mp htable).2
  refine ⟨file, hfile, fun c => layers_iff htells, ?_, override_reported _ env,
    check_eq_ok_iff_workable⟩
  intro text' file' hfile' hpads
  have htable' : ofTable? file' = some given := by rw [← ofTable?_eq_of_eqvGen hpads, htable]
  simp only [Config.ofText?, Given.ofText?, hfile', Option.bind_some, htable', Option.map_some]

/-- A section with one setting and a key that is unknown, a port that is none, and a format in
capitals. -/
theorem settings_come_in_layers_past_a_bad_port :
    let env := Environment.ofList [("CODESAGE_PORT", "70000"), ("CODESAGE_LOG_FORMAT", "JSON")]
    ∃ base, Config.ofText? "[server]\nhost = 'desk'\ncolour = 1\n" = some base ∧
      (base.withVariables env).server = ⟨"desk", 5000, ".codesage/codesage.db"⟩ ∧
      (base.withVariables env).logging.format = .json ∧
      base.override env = .error (.invalid [.notPort "70000"]) ∧
      ∃ file, Toml.read? "[server]\nhost = 'desk'\ncolour = 1\n" = some file ∧
        ∀ c, Layers file env c ↔ base.withVariables env = c := by
  intro env
  have hread : Config.ofText? "[server]\nhost = 'desk'\ncolour = 1\n" =
      some { Config.standard with server := ⟨"desk", 5000, ".codesage/codesage.db"⟩ } := by
    decide +kernel
  obtain ⟨file, hfile, hlayers, -⟩ := settings_come_in_layers hread env
  exact ⟨_, hread, by decide +kernel, by decide +kernel, by decide +kernel, file, hfile, hlayers⟩

end Config

end AnalysisDesk
