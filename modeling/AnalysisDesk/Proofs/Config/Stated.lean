/-
What a settings file states.

A section of a file is a table, or a list of its settings in order, and a file need not
have all sections nor a section all settings.  `stated?` finds the one value that a file
gives for a setting, wherever it stands.  A file is read exactly if every section can be
one and every value that is stated can be read; what is read is then told setting by
setting, and a section that is incomplete says nothing of the settings it leaves out.

Reading never looks at anything else.  So keys that are no names of sections or settings
may come and go.
-/
import AnalysisDesk.Config.Given
import Mathlib.Data.List.Basic
import Mathlib.Logic.Relation

namespace AnalysisDesk

namespace Given

/-! ### Sections -/

/-- The sections with the names of their settings, in the order in which a list gives them. -/
def sections : List (String × List String) := [
  ("server", ["host", "port", "db_path"]),
  ("analyzer", ["url", "request_timeout_secs"]),
  ("polling", ["interval_secs", "timeout_secs", "sweep_interval_secs"]),
  ("retry", ["max_attempts", "base_delay_ms", "max_delay_ms"]),
  ("logging", ["format", "directory", "filter"])]

/-- The names of the settings of a section. -/
def settingsOf (part : String) : List String := (sections.lookup part).getD []

/-- The value that a file gives for a setting: under its name in the table of the section, or at
its place in the list. -/
def stated? (file : TomlTable) (part name : String) : Option Toml :=
  match file.lookup part with
  | some (.table entries) => entries.lookup name
  | some (.arr items) => ((settingsOf part).zip items).lookup name
  | _ => none

/-- What can stand where a section is expected: nothing, a table, a list, or a point in time. -/
inductive IsSection : Option Toml → Prop
  | missing : IsSection none
  | table (entries : TomlTable) : IsSection (some (.table entries))
  | list (items : List Toml) : IsSection (some (.arr items))
  | moment (text : String) : IsSection (some (.moment text))

/-- What can be a section is read as one. -/
theorem exists_section? {value : Option Toml} (names : List String) (h : IsSection value) :
    ∃ entries, section? names value = some entries := by
  cases h with
  | missing => exact ⟨[], rfl⟩
  | table entries => exact ⟨entries, rfl⟩
  | list items => exact ⟨names.zip items, rfl⟩
  | moment text => exact ⟨[], rfl⟩

/-- The settings of a section are those that the file states. -/
theorem lookup_of_section? {file entries : TomlTable} {part : String}
    (h : section? (settingsOf part) (file.lookup part) = some entries) (name : String) :
    entries.lookup name = stated? file part name := by
  unfold stated?
  cases hpart : file.lookup part with
  | none =>
      rw [hpart] at h
      cases h
      rfl
  | some value =>
      rw [hpart] at h
      cases value with
      | table | arr | moment =>
          cases h
          rfl
      | str | int | float | bool => exact nomatch h

theorem isSection_of_section? {names : List String} {value : Option Toml} {entries : TomlTable}
    (h : section? names value = some entries) : IsSection value := by
  cases value with
  | none => exact .missing
  | some value =>
      cases value with
      | table entries => exact .table entries
      | arr items => exact .list items
      | moment text => exact .moment text
      | str | int | float | bool => exact nomatch h

/-! ### Values -/

/-- A value that is a text. -/
def IsText (value : Toml) (text : String) : Prop := value = .str text

/-- A value that is a whole number, not negative and not beyond a greatest one. -/
def IsNumber (greatest : Nat) (value : Toml) (n : Nat) : Prop :=
  value = .int (n : Int) ∧ n ≤ greatest

/-- A value that is a log format: its label, or a table with an empty value under it. -/
def IsFormat (value : Toml) (format : LogFormat) : Prop :=
  value = .str format.label ∨
    ∃ content, isVoid content = true ∧ value = .table [(format.label, content)]

/-- A reader that takes the values of a kind, and nothing else. -/
def Takes {α : Type} (read : Toml → Option α) (kind : Toml → α → Prop) : Prop :=
  ∀ value a, read value = some a ↔ kind value a

/-- A value is taken as one thing at most. -/
theorem Takes.unique {α : Type} {read : Toml → Option α} {kind : Toml → α → Prop}
    (htakes : Takes read kind) {value : Toml} {a b : α} (ha : kind value a) (hb : kind value b) :
    a = b := by
  rw [← htakes] at ha hb
  exact Option.some.inj (ha.symm.trans hb)

theorem takes_text : Takes text? IsText := by
  intro value text
  unfold IsText
  cases value <;> simp [text?]

theorem takes_natural (greatest : Nat) : Takes (natural? greatest) (IsNumber greatest) := by
  intro value n
  unfold IsNumber
  cases value with
  | int i =>
      cases i with
      | ofNat m =>
          simp only [natural?, Option.ite_none_right_eq_some, Option.some.injEq, Toml.int.injEq,
            Int.ofNat_eq_natCast, Int.natCast_inj]
          exact ⟨fun ⟨hle, hm⟩ => ⟨hm, hm ▸ hle⟩, fun ⟨hm, hle⟩ => ⟨hm ▸ hle, hm⟩⟩
      | negSucc m => simp [natural?]
  | str | float | bool | moment | arr | table => simp [natural?]

/-- A label stands for its format. -/
theorem lookup_labelled_iff {label : String} {format : LogFormat} :
    LogFormat.labelled.lookup label = some format ↔ label = format.label := by
  constructor
  · intro h
    obtain ⟨before, after, hlist, -⟩ := List.lookup_eq_some_iff.mp h
    have hmem : (label, format) ∈ LogFormat.labelled := by rw [hlist]; simp
    obtain ⟨format', -, hpair⟩ := List.mem_map.mp hmem
    cases hpair
    rfl
  · rintro rfl
    cases format <;> decide

theorem takes_format : Takes format? IsFormat := by
  intro value format
  unfold IsFormat
  cases value with
  | str label => simp [format?, lookup_labelled_iff]
  | table entries =>
      match entries with
      | [] => simp [format?]
      | [(label, content)] =>
          simp only [format?, Option.filter_eq_some_iff, lookup_labelled_iff]
          constructor
          · rintro ⟨rfl, hvoid⟩
            exact Or.inr ⟨content, hvoid, rfl⟩
          · rintro (h | ⟨content', hvoid, h⟩)
            · exact nomatch h
            · cases h
              exact ⟨rfl, hvoid⟩
      | _ :: _ :: _ => simp [format?]
  | int | float | bool | moment | arr => simp [format?]

/-! ### Settings -/

/-- What is read of a setting: nothing where nothing is stated, else what the value is. -/
inductive Says {α : Type} (kind : Toml → α → Prop) (stated : Option Toml) : Option α → Prop
  | nothing (h : stated = none) : Says kind stated none
  | value {value : Toml} {a : α} (h : stated = some value) (hkind : kind value a) :
      Says kind stated (some a)

theorem setting?_eq_some_iff {α : Type} {read : Toml → Option α} {kind : Toml → α → Prop}
    (htakes : Takes read kind) {name : String} {entries : TomlTable} {said : Option α} :
    setting? read name entries = some said ↔ Says kind (entries.lookup name) said := by
  unfold setting?
  cases hvalue : entries.lookup name with
  | none =>
      constructor
      · rintro h
        cases h
        exact .nothing rfl
      · rintro (_ | ⟨h, -⟩)
        · rfl
        · exact nomatch h
  | some value =>
      dsimp only
      rw [Option.map_eq_some_iff]
      constructor
      · rintro ⟨a, ha, rfl⟩
        exact .value rfl ((htakes value a).mp ha)
      · rintro (h | ⟨h, hkind⟩)
        · exact nomatch h
        · cases h
          exact ⟨_, (htakes value _).mpr hkind, rfl⟩

/-- One thing is read of a setting. -/
theorem Says.unique {α : Type} {read : Toml → Option α} {kind : Toml → α → Prop}
    {stated : Option Toml} {said said' : Option α} (h : Says kind stated said)
    (htakes : Takes read kind) (h' : Says kind stated said') : said = said' := by
  cases h with
  | nothing hnone =>
      cases h' with
      | nothing => rfl
      | value hsome => exact nomatch hnone.symm.trans hsome
  | value hsome hkind =>
      cases h' with
      | nothing hnone => exact nomatch hnone.symm.trans hsome
      | value hsome' hkind' =>
          obtain rfl := Option.some.inj (hsome.symm.trans hsome')
          rw [htakes.unique hkind hkind']

/-- A setting of a section is read as what the file states. -/
theorem setting?_of_section? {α : Type} {read : Toml → Option α} {kind : Toml → α → Prop}
    {file entries : TomlTable} {part : String}
    (h : section? (settingsOf part) (file.lookup part) = some entries) (htakes : Takes read kind)
    (name : String) {said : Option α} :
    setting? read name entries = some said ↔ Says kind (stated? file part name) said := by
  rw [setting?_eq_some_iff htakes, lookup_of_section? h]

/-- What a file says of the settings, one by one. -/
structure Tells (file : TomlTable) (given : Given) : Prop where
  host : Says IsText (stated? file "server" "host") given.host
  port : Says (IsNumber Limit.word16) (stated? file "server" "port") given.port
  databasePath : Says IsText (stated? file "server" "db_path") given.databasePath
  url : Says IsText (stated? file "analyzer" "url") given.url
  requestTimeout : Says (IsNumber Limit.word64) (stated? file "analyzer" "request_timeout_secs")
    given.requestTimeout
  interval : Says (IsNumber Limit.word64) (stated? file "polling" "interval_secs") given.interval
  timeout : Says (IsNumber Limit.word64) (stated? file "polling" "timeout_secs") given.timeout
  sweepInterval : Says (IsNumber Limit.word64) (stated? file "polling" "sweep_interval_secs")
    given.sweepInterval
  maxAttempts : Says (IsNumber Limit.word32) (stated? file "retry" "max_attempts")
    given.maxAttempts
  baseDelay : Says (IsNumber Limit.word64) (stated? file "retry" "base_delay_ms") given.baseDelay
  maxDelay : Says (IsNumber Limit.word64) (stated? file "retry" "max_delay_ms") given.maxDelay
  format : Says IsFormat (stated? file "logging" "format") given.format
  directory : Says IsText (stated? file "logging" "directory") given.directory
  filter : Says IsText (stated? file "logging" "filter") given.filter

/-- A file without settings says nothing. -/
theorem tells_nil : Tells [] default where
  host := .nothing rfl
  port := .nothing rfl
  databasePath := .nothing rfl
  url := .nothing rfl
  requestTimeout := .nothing rfl
  interval := .nothing rfl
  timeout := .nothing rfl
  sweepInterval := .nothing rfl
  maxAttempts := .nothing rfl
  baseDelay := .nothing rfl
  maxDelay := .nothing rfl
  format := .nothing rfl
  directory := .nothing rfl
  filter := .nothing rfl

theorem bind_of_some {α β : Type} {x : Option α} {f : α → Option β} {a : α} {b : β}
    (hx : x = some a) (hf : f a = some b) : (x >>= f) = some b := by
  rw [hx]
  exact hf

theorem settingsOf_eq : settingsOf "server" = ["host", "port", "db_path"] ∧
    settingsOf "analyzer" = ["url", "request_timeout_secs"] ∧
    settingsOf "polling" = ["interval_secs", "timeout_secs", "sweep_interval_secs"] ∧
    settingsOf "retry" = ["max_attempts", "base_delay_ms", "max_delay_ms"] ∧
    settingsOf "logging" = ["format", "directory", "filter"] := by
  decide

theorem forall_mem_sections {p : String → Prop} : (∀ part ∈ sections.map (·.1), p part) ↔
    p "server" ∧ p "analyzer" ∧ p "polling" ∧ p "retry" ∧ p "logging" := by
  simp [sections]

/-- What has been read is what the file tells. -/
theorem tells_of_ofTable? {file : TomlTable} {given : Given} (h : ofTable? file = some given) :
    (∀ part ∈ sections.map (·.1), IsSection (file.lookup part)) ∧ Tells file given := by
  obtain ⟨sserver, sanalyzer, spolling, sretry, slogging⟩ := settingsOf_eq
  unfold ofTable? at h
  rw [← sserver, ← sanalyzer, ← spolling, ← sretry, ← slogging] at h
  obtain ⟨server, hserver, h⟩ := Option.bind_eq_some_iff.mp h
  obtain ⟨analyzer, hanalyzer, h⟩ := Option.bind_eq_some_iff.mp h
  obtain ⟨polling, hpolling, h⟩ := Option.bind_eq_some_iff.mp h
  obtain ⟨retry, hretry, h⟩ := Option.bind_eq_some_iff.mp h
  obtain ⟨logging, hlogging, h⟩ := Option.bind_eq_some_iff.mp h
  obtain ⟨host, hhost, h⟩ := Option.bind_eq_some_iff.mp h
  obtain ⟨port, hport, h⟩ := Option.bind_eq_some_iff.mp h
  obtain ⟨path, hpath, h⟩ := Option.bind_eq_some_iff.mp h
  obtain ⟨url, hurl, h⟩ := Option.bind_eq_some_iff.mp h
  obtain ⟨request, hrequest, h⟩ := Option.bind_eq_some_iff.mp h
  obtain ⟨interval, hinterval, h⟩ := Option.bind_eq_some_iff.mp h
  obtain ⟨timeout, htimeout, h⟩ := Option.bind_eq_some_iff.mp h
  obtain ⟨sweep, hsweep, h⟩ := Option.bind_eq_some_iff.mp h
  obtain ⟨attempts, hattempts, h⟩ := Option.bind_eq_some_iff.mp h
  obtain ⟨base, hbase, h⟩ := Option.bind_eq_some_iff.mp h
  obtain ⟨longest, hlongest, h⟩ := Option.bind_eq_some_iff.mp h
  obtain ⟨format, hformat, h⟩ := Option.bind_eq_some_iff.mp h
  obtain ⟨directory, hdirectory, h⟩ := Option.bind_eq_some_iff.mp h
  obtain ⟨filter, hfilter, h⟩ := Option.bind_eq_some_iff.mp h
  cases h
  constructor
  · exact forall_mem_sections.mpr ⟨isSection_of_section? hserver, isSection_of_section? hanalyzer,
      isSection_of_section? hpolling, isSection_of_section? hretry,
      isSection_of_section? hlogging⟩
  · exact {
      host := (setting?_of_section? hserver takes_text _).mp hhost
      port := (setting?_of_section? hserver (takes_natural _) _).mp hport
      databasePath := (setting?_of_section? hserver takes_text _).mp hpath
      url := (setting?_of_section? hanalyzer takes_text _).mp hurl
      requestTimeout := (setting?_of_section? hanalyzer (takes_natural _) _).mp hrequest
      interval := (setting?_of_section? hpolling (takes_natural _) _).mp hinterval
      timeout := (setting?_of_section? hpolling (takes_natural _) _).mp htimeout
      sweepInterval := (setting?_of_section? hpolling (takes_natural _) _).mp hsweep
      maxAttempts := (setting?_of_section? hretry (takes_natural _) _).mp hattempts
      baseDelay := (setting?_of_section? hretry (takes_natural _) _).mp hbase
      maxDelay := (setting?_of_section? hretry (takes_natural _) _).mp hlongest
      format := (setting?_of_section? hlogging takes_format _).mp hformat
      directory := (setting?_of_section? hlogging takes_text _).mp hdirectory
      filter := (setting?_of_section? hlogging takes_text _).mp hfilter }

/-- What a file tells is read, if its sections can be. -/
theorem ofTable?_of_tells {file : TomlTable} {given : Given}
    (hsections : ∀ part ∈ sections.map (·.1), IsSection (file.lookup part))
    (htells : Tells file given) : ofTable? file = some given := by
  obtain ⟨sserver, sanalyzer, spolling, sretry, slogging⟩ := settingsOf_eq
  unfold ofTable?
  rw [← sserver, ← sanalyzer, ← spolling, ← sretry, ← slogging]
  obtain ⟨server?, analyzer?, polling?, retry?, logging?⟩ := forall_mem_sections.mp hsections
  obtain ⟨server, hserver⟩ := exists_section? (settingsOf "server") server?
  obtain ⟨analyzer, hanalyzer⟩ := exists_section? (settingsOf "analyzer") analyzer?
  obtain ⟨polling, hpolling⟩ := exists_section? (settingsOf "polling") polling?
  obtain ⟨retry, hretry⟩ := exists_section? (settingsOf "retry") retry?
  obtain ⟨logging, hlogging⟩ := exists_section? (settingsOf "logging") logging?
  refine bind_of_some hserver ?_
  refine bind_of_some hanalyzer ?_
  refine bind_of_some hpolling ?_
  refine bind_of_some hretry ?_
  refine bind_of_some hlogging ?_
  refine bind_of_some ((setting?_of_section? hserver takes_text _).mpr htells.host) ?_
  refine bind_of_some ((setting?_of_section? hserver (takes_natural _) _).mpr htells.port) ?_
  refine bind_of_some ((setting?_of_section? hserver takes_text _).mpr htells.databasePath) ?_
  refine bind_of_some ((setting?_of_section? hanalyzer takes_text _).mpr htells.url) ?_
  refine bind_of_some ((setting?_of_section? hanalyzer (takes_natural _) _).mpr
    htells.requestTimeout) ?_
  refine bind_of_some ((setting?_of_section? hpolling (takes_natural _) _).mpr htells.interval) ?_
  refine bind_of_some ((setting?_of_section? hpolling (takes_natural _) _).mpr htells.timeout) ?_
  refine bind_of_some ((setting?_of_section? hpolling (takes_natural _) _).mpr
    htells.sweepInterval) ?_
  refine bind_of_some ((setting?_of_section? hretry (takes_natural _) _).mpr
    htells.maxAttempts) ?_
  refine bind_of_some ((setting?_of_section? hretry (takes_natural _) _).mpr htells.baseDelay) ?_
  refine bind_of_some ((setting?_of_section? hretry (takes_natural _) _).mpr htells.maxDelay) ?_
  refine bind_of_some ((setting?_of_section? hlogging takes_format _).mpr htells.format) ?_
  refine bind_of_some ((setting?_of_section? hlogging takes_text _).mpr htells.directory) ?_
  refine bind_of_some ((setting?_of_section? hlogging takes_text _).mpr htells.filter) ?_
  rfl

/-- **When a file is read, and as what**: every section can be one, and what is stated of the
settings is what is given. -/
theorem ofTable?_eq_some_iff {file : TomlTable} {given : Given} :
    ofTable? file = some given ↔
      (∀ part ∈ sections.map (·.1), IsSection (file.lookup part)) ∧ Tells file given :=
  ⟨tells_of_ofTable?, fun ⟨hsections, htells⟩ => ofTable?_of_tells hsections htells⟩

/-! ### What says nothing -/

/-- A file that has one thing more, which says nothing: under a key that is no section's name,
under one that is no setting's, or a section without settings. -/
inductive Pads : TomlTable → TomlTable → Prop
  | unknownSection (before after : TomlTable) {name : String} (value : Toml)
      (hunknown : name ∉ sections.map (·.1)) :
      Pads (before ++ after) (before ++ (name, value) :: after)
  | unknownSetting (before after : TomlTable) {part : String} (front back : TomlTable)
      {name : String} (value : Toml) (hunknown : name ∉ settingsOf part) :
      Pads (before ++ (part, .table (front ++ back)) :: after)
        (before ++ (part, .table (front ++ (name, value) :: back)) :: after)
  | emptySection (before after : TomlTable) {part : String}
      (hmissing : (before ++ after).lookup part = none) :
      Pads (before ++ after) (before ++ (part, .table []) :: after)

/-- An entry under another name is passed over. -/
theorem lookup_insert_ne {before after : TomlTable} {name key : String} {value : Toml}
    (h : key ≠ name) :
    (before ++ (name, value) :: after).lookup key = (before ++ after).lookup key := by
  rw [List.lookup_append, List.lookup_append, List.lookup_cons, beq_false_of_ne h]

theorem lookup_insert_self {before after : TomlTable} {key : String} {value : Toml}
    (h : before.lookup key = none) :
    (before ++ (key, value) :: after).lookup key = some value := by
  rw [List.lookup_append, h, List.lookup_cons_self]
  rfl

/-- What one finds in two files that state the same: the same value under every section's name,
or a table that has one more entry, or nothing and a table without entries. -/
inductive Alike (part : String) : Option Toml → Option Toml → Prop
  | same (value : Option Toml) : Alike part value value
  | unknown (front back : TomlTable) {name : String} (value : Toml)
      (hunknown : name ∉ settingsOf part) :
      Alike part (some (.table (front ++ back))) (some (.table (front ++ (name, value) :: back)))
  | empty : Alike part none (some (.table []))

theorem Pads.alike {file file' : TomlTable} (h : Pads file file') {part : String}
    (hpart : part ∈ sections.map (·.1)) : Alike part (file.lookup part) (file'.lookup part) := by
  cases h with
  | unknownSection before after value hunknown =>
      rw [lookup_insert_ne (ne_of_mem_of_not_mem hpart hunknown)]
      exact .same _
  | @unknownSetting before after part' front back name value hunknown =>
      by_cases hname : part = part'
      · subst hname
        cases hbefore : before.lookup part with
        | none =>
            rw [lookup_insert_self hbefore, lookup_insert_self hbefore]
            exact .unknown front back value hunknown
        | some found =>
            rw [List.lookup_append, List.lookup_append, hbefore]
            exact .same _
      · rw [lookup_insert_ne hname, lookup_insert_ne hname]
        exact .same _
  | @emptySection before after part' hmissing =>
      by_cases hname : part = part'
      · subst hname
        have hbefore : before.lookup part = none := by
          rw [List.lookup_append, Option.or_eq_none_iff] at hmissing
          exact hmissing.1
        rw [hmissing, lookup_insert_self hbefore]
        exact .empty
      · rw [lookup_insert_ne hname]
        exact .same _

theorem Alike.isSection {part : String} {value value' : Option Toml}
    (h : Alike part value value') : IsSection value ↔ IsSection value' := by
  cases h with
  | same => rfl
  | unknown => exact ⟨fun _ => .table _, fun _ => .table _⟩
  | empty => exact ⟨fun _ => .table _, fun _ => .missing⟩

theorem Alike.stated {file file' : TomlTable} {part name : String}
    (h : Alike part (file.lookup part) (file'.lookup part)) (hname : name ∈ settingsOf part) :
    stated? file part name = stated? file' part name := by
  unfold stated?
  generalize file.lookup part = value, file'.lookup part = value' at h
  cases h with
  | same => rfl
  | unknown front back _ hunknown =>
      exact (lookup_insert_ne (ne_of_mem_of_not_mem hname hunknown)).symm
  | empty => rfl

theorem Tells.congr {file file' : TomlTable} {given : Given}
    (h : ∀ part name, name ∈ settingsOf part → stated? file part name = stated? file' part name)
    (htells : Tells file given) : Tells file' given where
  host := h "server" "host" (by decide) ▸ htells.host
  port := h "server" "port" (by decide) ▸ htells.port
  databasePath := h "server" "db_path" (by decide) ▸ htells.databasePath
  url := h "analyzer" "url" (by decide) ▸ htells.url
  requestTimeout := h "analyzer" "request_timeout_secs" (by decide) ▸ htells.requestTimeout
  interval := h "polling" "interval_secs" (by decide) ▸ htells.interval
  timeout := h "polling" "timeout_secs" (by decide) ▸ htells.timeout
  sweepInterval := h "polling" "sweep_interval_secs" (by decide) ▸ htells.sweepInterval
  maxAttempts := h "retry" "max_attempts" (by decide) ▸ htells.maxAttempts
  baseDelay := h "retry" "base_delay_ms" (by decide) ▸ htells.baseDelay
  maxDelay := h "retry" "max_delay_ms" (by decide) ▸ htells.maxDelay
  format := h "logging" "format" (by decide) ▸ htells.format
  directory := h "logging" "directory" (by decide) ▸ htells.directory
  filter := h "logging" "filter" (by decide) ▸ htells.filter

/-- The settings are those of known sections. -/
theorem mem_sections_of_mem_settingsOf {part name : String} (h : name ∈ settingsOf part) :
    part ∈ sections.map (·.1) := by
  unfold settingsOf at h
  cases hpart : sections.lookup part with
  | none => rw [hpart] at h; exact nomatch h
  | some names =>
      obtain ⟨before, after, hlist, -⟩ := List.lookup_eq_some_iff.mp hpart
      rw [hlist]
      simp

/-- **What says nothing changes nothing.** -/
theorem ofTable?_eq_of_pads {file file' : TomlTable} (h : Pads file file') :
    ofTable? file = ofTable? file' := by
  have hstated : ∀ part name, name ∈ settingsOf part →
      stated? file part name = stated? file' part name := fun part name hname =>
    (h.alike (mem_sections_of_mem_settingsOf hname)).stated hname
  ext given
  rw [ofTable?_eq_some_iff, ofTable?_eq_some_iff]
  constructor
  · rintro ⟨hsections, htells⟩
    exact ⟨fun part hpart => (h.alike hpart).isSection.mp (hsections part hpart),
      htells.congr hstated⟩
  · rintro ⟨hsections, htells⟩
    exact ⟨fun part hpart => (h.alike hpart).isSection.mpr (hsections part hpart),
      htells.congr fun part name hname => (hstated part name hname).symm⟩

/-- However much of it comes and goes. -/
theorem ofTable?_eq_of_eqvGen {file file' : TomlTable} (h : Relation.EqvGen Pads file file') :
    ofTable? file = ofTable? file' := by
  induction h with
  | rel _ _ h => exact ofTable?_eq_of_pads h
  | refl => rfl
  | symm _ _ _ ih => exact ih.symm
  | trans _ _ _ _ _ ih ih' => exact ih.trans ih'

end Given

end AnalysisDesk
