/-
What a query says.

A query is a row of pairs, and a form reads some of them and passes over the rest.  `Fills` says
when a form is content with a query: no field that it knows is given twice, and what is given for
a field is of the field's kind.  It does not speak of the order in which the faults are looked
for, and a form refuses exactly the queries that do not fill it.

Of a query that fills a form, `Says` reads off what a field holds.  Since a field is given once at
most, there is nothing to choose, and the first pair of a name is as good as any.
-/
import AnalysisDesk.Http.Form
import AnalysisDesk.Proofs.Text.Numerals

namespace AnalysisDesk

namespace Form

variable {fields : List (String × Kind)} {seen : List String} {given : List (String × String)}
  {name value : String}

/-- How often a name is given. -/
abbrev times (given : List (String × String)) (name : String) : Nat :=
  given.countP fun pair => pair.1 == name

/-- What a value of a field has to look like. -/
def Kind.Accepts : Kind → String → Prop
  | .text, _ => True
  | .number, value => ∃ n, Text.WritesNat value n ∧ n ≤ Limit.word32
  | .severity, value => ∃ grade : Severity, value = grade.label

/-- Pairs that fill a form. -/
structure Fills (fields : List (String × Kind)) (given : List (String × String)) : Prop where
  once : ∀ name kind, fields.lookup name = some kind → times given name ≤ 1
  ofKind : ∀ name value, (name, value) ∈ given →
    ∀ kind, fields.lookup name = some kind → kind.Accepts value

/-- What pairs say in a field, given what its values mean. -/
def Says {α : Type} (given : List (String × String)) (name : String) (means : String → α → Prop) :
    Option α → Prop
  | none => ∀ value, (name, value) ∉ given
  | some a => ∃ value, (name, value) ∈ given ∧ means value a

/-! ### When a form is content -/

theorem Kind.fault?_eq_none_iff (kind : Kind) (field value : String) :
    kind.fault? field value = none ↔ kind.Accepts value := by
  cases kind with
  | text => simp [Kind.fault?, Kind.Accepts]
  | number =>
      simp only [Kind.fault?, Kind.Accepts, ← Text.readNatural_eq_ok_iff]
      cases Text.readNatural Limit.word32 value <;> simp
  | severity =>
      simp only [Kind.fault?, Kind.Accepts, ← Severity.ofLabel?_eq_some_iff]
      cases Severity.ofLabel? value <;> simp

/-- The pairs that are left fill a form, where the names in `seen` are used up. -/
structure FillsRest (fields : List (String × Kind)) (seen : List String)
    (given : List (String × String)) : Prop extends Fills fields given where
  fresh : ∀ name ∈ seen, ∀ kind, fields.lookup name = some kind → times given name = 0

theorem fillsRest_of_unknown (hname : fields.lookup name = none) :
    FillsRest fields seen ((name, value) :: given) ↔ FillsRest fields seen given := by
  -- no field of the form has this name, so nothing is counted
  have htimes : ∀ other kind, fields.lookup other = some kind →
      times ((name, value) :: given) other = times given other := by
    intro other kind hother
    have hne : name ≠ other := by
      rintro rfl
      rw [hname] at hother
      exact absurd hother (by simp)
    simp [times, hne]
  constructor
  · intro h
    refine ⟨⟨fun other kind hother => ?_, fun other v hmem => ?_⟩, fun other hseen kind hother => ?_⟩
    · exact htimes other kind hother ▸ h.once other kind hother
    · exact h.ofKind other v (List.mem_cons_of_mem _ hmem)
    · exact htimes other kind hother ▸ h.fresh other hseen kind hother
  · intro h
    refine ⟨⟨fun other kind hother => ?_, fun other v hmem kind hother => ?_⟩,
      fun other hseen kind hother => ?_⟩
    · rw [htimes other kind hother]
      exact h.once other kind hother
    · rcases List.mem_cons.mp hmem with heq | hmem
      · cases heq
        rw [hname] at hother
        exact absurd hother (by simp)
      · exact h.ofKind other v hmem kind hother
    · exact (htimes other kind hother).trans (h.fresh other hseen kind hother)

theorem fillsRest_of_known {kind : Kind} (hname : fields.lookup name = some kind) :
    FillsRest fields seen ((name, value) :: given) ↔
      name ∉ seen ∧ kind.Accepts value ∧ FillsRest fields (name :: seen) given := by
  constructor
  · intro h
    refine ⟨fun hseen => ?_, h.ofKind name value (by simp) kind hname,
      ⟨fun other kind' hother => ?_, fun other v hmem => ?_⟩, fun other hseen kind' hother => ?_⟩
    · have hfresh := h.fresh name hseen kind hname
      simp [times] at hfresh
    · have hsome := h.once other kind' hother
      simp only [times, List.countP_cons] at hsome ⊢
      omega
    · exact h.ofKind other v (List.mem_cons_of_mem _ hmem)
    · rcases List.mem_cons.mp hseen with rfl | hseen
      · have hsome := h.once other kind' hother
        simp only [times, List.countP_cons, beq_self_eq_true, if_true] at hsome ⊢
        omega
      · have hfresh := h.fresh other hseen kind' hother
        simp only [times, List.countP_cons] at hfresh ⊢
        omega
  · rintro ⟨hnew, haccepts, h⟩
    refine ⟨⟨fun other kind' hother => ?_, fun other v hmem kind' hother => ?_⟩,
      fun other hseen kind' hother => ?_⟩
    · by_cases hsame : name = other
      · subst hsame
        simp [times, h.fresh name (by simp) kind' hother]
      · simpa [times, List.countP_cons, hsame] using h.once other kind' hother
    · rcases List.mem_cons.mp hmem with heq | hmem
      · cases heq
        rw [hname, Option.some.injEq] at hother
        exact hother ▸ haccepts
      · exact h.ofKind other v hmem kind' hother
    · have hne : name ≠ other := fun hc => hnew (hc ▸ hseen)
      simpa [times, List.countP_cons, hne] using
        h.fresh other (List.mem_cons_of_mem _ hseen) kind' hother

theorem fault?_eq_none_iff_rest : fault? fields seen given = none ↔ FillsRest fields seen given := by
  induction given generalizing seen with
  | nil =>
      simp only [fault?, true_iff]
      exact ⟨⟨by simp [times], by simp⟩, by simp [times]⟩
  | cons pair given ih =>
      obtain ⟨name, value⟩ := pair
      cases hname : fields.lookup name with
      | none => rw [fault?, hname, fillsRest_of_unknown hname, ← ih]
      | some kind =>
          rw [fault?, hname, fillsRest_of_known hname, ← ih, ← kind.fault?_eq_none_iff name value]
          by_cases hseen : name ∈ seen
          · simp [hseen]
          · cases hfault : kind.fault? name value <;> simp [hseen, hfault]

/-- **A form is content with a query exactly if the query fills it.** -/
theorem fault?_eq_none_iff : fault? fields [] given = none ↔ Fills fields given := by
  rw [fault?_eq_none_iff_rest]
  exact ⟨fun h => h.toFills, fun h => ⟨h, by simp⟩⟩

theorem read_eq_ok_iff {query : Option String} :
    read fields query = .ok given ↔ given = pairs (query.getD "") ∧ Fills fields given := by
  unfold read
  generalize pairs (query.getD "") = said
  cases hfault : fault? fields [] said with
  | none =>
      have hfills := fault?_eq_none_iff.mp hfault
      simp only [hfault, Except.ok.injEq]
      constructor
      · rintro rfl
        exact ⟨rfl, hfills⟩
      · exact fun h => h.1.symm
  | some fault =>
      simp only [hfault, reduceCtorEq, false_iff]
      rintro ⟨rfl, h⟩
      rw [fault?_eq_none_iff.mpr h] at hfault
      exact absurd hfault (by simp)

/-! ### What a field holds -/

theorem lookup_eq_some_iff_mem (honce : times given name ≤ 1) :
    given.lookup name = some value ↔ (name, value) ∈ given := by
  induction given with
  | nil => simp
  | cons pair given ih =>
      obtain ⟨other, v⟩ := pair
      by_cases hname : name = other
      · subst hname
        have hnone : (name, value) ∉ given := by
          intro hmem
          have hpos : 0 < times given name := List.countP_pos_iff.mpr ⟨_, hmem, by simp⟩
          simp only [times, List.countP_cons, beq_self_eq_true, if_true] at honce hpos
          omega
        simp [hnone, eq_comm]
      · have hrest : times given name ≤ 1 := by
          simpa [times, List.countP_cons, Ne.symm hname] using honce
        have hkey : (name == other) = false := by simp [hname]
        rw [List.lookup_cons, hkey]
        simp [hname, ih hrest]

theorem lookup_eq_none_iff_not_mem : given.lookup name = none ↔ ∀ value, (name, value) ∉ given := by
  rw [List.lookup_eq_none_iff]
  constructor
  · intro h value hmem
    simpa using h _ hmem
  · rintro h ⟨other, value⟩ hmem
    rw [bne_iff_ne]
    rintro rfl
    exact h value hmem

/-- A field is read as what it says, if its values are read as what they mean. -/
theorem says_iff {α : Type} {read : String → Option α} {means : String → α → Prop} {a? : Option α}
    (honce : times given name ≤ 1)
    (hread : ∀ value, (name, value) ∈ given → (read value).isSome = true)
    (hmeans : ∀ value a, (name, value) ∈ given → (read value = some a ↔ means value a)) :
    (given.lookup name).bind read = a? ↔ Says given name means a? := by
  cases hlookup : given.lookup name with
  | none =>
      have hnone := lookup_eq_none_iff_not_mem.mp hlookup
      cases a? with
      | none => simpa [Says] using hnone
      | some a => simp [Says, hnone]
  | some value =>
      have hmem := (lookup_eq_some_iff_mem honce).mp hlookup
      cases a? with
      | none =>
          have hsome := hread value hmem
          simp only [Option.bind_some, Says]
          constructor
          · intro hnone
            simp [hnone] at hsome
          · intro hnone
            exact absurd hmem (hnone value)
      | some a =>
          simp only [Option.bind_some, Says, hmeans value a hmem]
          constructor
          · exact fun h => ⟨value, hmem, h⟩
          · rintro ⟨value', hmem', h⟩
            rw [(lookup_eq_some_iff_mem honce).mpr hmem', Option.some.injEq] at hlookup
            exact hlookup ▸ h

theorem Fills.number?_eq_iff {n? : Option Nat} (h : Fills fields given)
    (hname : fields.lookup name = some .number) :
    number? given name = n? ↔ Says given name Text.WritesNat n? := by
  refine says_iff (h.once name _ hname) (fun value hmem => ?_) fun value n hmem => ?_
  all_goals
    obtain ⟨m, hm, hle⟩ := h.ofKind name value hmem _ hname
    have hread := Text.readNatural_eq_ok_iff.mpr ⟨hm, hle⟩
    simp only [hread, Except.toOption, Option.isSome_some, Option.some.injEq]
  constructor
  · rintro rfl
    exact hm
  · exact fun hn => hm.unique hn

theorem Fills.severity?_eq_iff {grade? : Option Severity} (h : Fills fields given)
    (hname : fields.lookup name = some .severity) :
    severity? given name = grade? ↔
      Says given name (fun value grade => value = grade.label) grade? := by
  refine says_iff (h.once name _ hname) (fun value hmem => ?_) fun value grade _ =>
    Severity.ofLabel?_eq_some_iff
  obtain ⟨grade, rfl⟩ := h.ofKind name value hmem _ hname
  simp [Severity.ofLabel?_label]

theorem Fills.lookup_eq_iff {kind : Kind} {text? : Option String} (h : Fills fields given)
    (hname : fields.lookup name = some kind) :
    given.lookup name = text? ↔ Says given name Eq text? := by
  have hsays : (given.lookup name).bind some = text? ↔ Says given name Eq text? :=
    says_iff (h.once name _ hname) (fun _ _ => rfl) fun _ _ _ => Option.some_inj
  rwa [Option.bind_fun_some] at hsays

/-! ### The forms of the service -/

/-- The pairs of a query; a request without query has none. -/
abbrev said (query : Option String) : List (String × String) := pairs (query.getD "")

def pageFields : List (String × Kind) := [("page", .number), ("limit", .number)]

def latestFields : List (String × Kind) := [("limit", .number)]

def issueFields : List (String × Kind) :=
  [("severity", .severity), ("category", .text), ("page", .number), ("limit", .number)]

def metricFields : List (String × Kind) := [("metric_type", .text), ("file_path", .text)]

variable {query : Option String}

/-- A query that asks for a page. -/
structure AsksPage (query : Option String) (request : PageRequest) : Prop where
  fills : Fills pageFields (said query)
  page : Says (said query) "page" Text.WritesNat request.page
  limit : Says (said query) "limit" Text.WritesNat request.limit

/-- A query that asks for the latest jobs. -/
structure AsksLatest (query : Option String) (limit : Option Nat) : Prop where
  fills : Fills latestFields (said query)
  limit : Says (said query) "limit" Text.WritesNat limit

/-- A query that asks for a page of issues. -/
structure AsksIssues (query : Option String) (filter : IssueFilter) (request : PageRequest) :
    Prop where
  fills : Fills issueFields (said query)
  severity : Says (said query) "severity" (fun value grade => value = grade.label) filter.severity
  category : Says (said query) "category" Eq filter.category
  page : Says (said query) "page" Text.WritesNat request.page
  limit : Says (said query) "limit" Text.WritesNat request.limit

/-- A query that asks for metrics. -/
structure AsksMetrics (query : Option String) (filter : MetricFilter) : Prop where
  fills : Fills metricFields (said query)
  metricType : Says (said query) "metric_type" Eq filter.metricType
  filePath : Says (said query) "file_path" Eq filter.filePath

/-- What is read with a form is what is made of the pairs, if they fill it. -/
theorem read_map_eq_ok_iff {α : Type} {make : List (String × String) → α} {a : α} :
    (read fields query).map make = .ok a ↔ Fills fields (said query) ∧ make (said query) = a := by
  rw [map_eq_ok_iff]
  constructor
  · rintro ⟨given, hread, hmake⟩
    obtain ⟨rfl, hfills⟩ := read_eq_ok_iff.mp hread
    exact ⟨hfills, hmake⟩
  · rintro ⟨hfills, hmake⟩
    exact ⟨_, read_eq_ok_iff.mpr ⟨rfl, hfills⟩, hmake⟩

theorem page_eq_ok_iff {request : PageRequest} :
    page query = .ok request ↔ AsksPage query request := by
  rw [page, read_map_eq_ok_iff]
  constructor
  · rintro ⟨h, rfl⟩
    exact ⟨h, (h.number?_eq_iff rfl).mp rfl, (h.number?_eq_iff rfl).mp rfl⟩
  · rintro ⟨h, hpage, hlimit⟩
    rw [(h.number?_eq_iff rfl).mpr hpage, (h.number?_eq_iff rfl).mpr hlimit]
    exact ⟨h, rfl⟩

theorem latest_eq_ok_iff {limit : Option Nat} :
    latest query = .ok limit ↔ AsksLatest query limit := by
  rw [latest, read_map_eq_ok_iff]
  constructor
  · rintro ⟨h, rfl⟩
    exact ⟨h, (h.number?_eq_iff rfl).mp rfl⟩
  · rintro ⟨h, hlimit⟩
    exact ⟨h, (h.number?_eq_iff rfl).mpr hlimit⟩

theorem issues_eq_ok_iff {filter : IssueFilter} {request : PageRequest} :
    issues query = .ok (filter, request) ↔ AsksIssues query filter request := by
  rw [issues, read_map_eq_ok_iff]
  constructor
  · rintro ⟨h, heq⟩
    cases heq
    exact ⟨h, (h.severity?_eq_iff rfl).mp rfl, (h.lookup_eq_iff rfl).mp rfl,
      (h.number?_eq_iff rfl).mp rfl, (h.number?_eq_iff rfl).mp rfl⟩
  · rintro ⟨h, hseverity, hcategory, hpage, hlimit⟩
    rw [(h.severity?_eq_iff rfl).mpr hseverity, (h.lookup_eq_iff rfl).mpr hcategory,
      (h.number?_eq_iff rfl).mpr hpage, (h.number?_eq_iff rfl).mpr hlimit]
    exact ⟨h, rfl⟩

theorem metrics_eq_ok_iff {filter : MetricFilter} :
    metrics query = .ok filter ↔ AsksMetrics query filter := by
  rw [metrics, read_map_eq_ok_iff]
  constructor
  · rintro ⟨h, rfl⟩
    exact ⟨h, (h.lookup_eq_iff rfl).mp rfl, (h.lookup_eq_iff rfl).mp rfl⟩
  · rintro ⟨h, htype, hpath⟩
    rw [(h.lookup_eq_iff rfl).mpr htype, (h.lookup_eq_iff rfl).mpr hpath]
    exact ⟨h, rfl⟩

end Form

end AnalysisDesk
