/-
What a document about a job is taken to say.

The status comes first.  If it says that the job is under way, nothing else in the
document is looked at.  If it says that the job is over, the document is decoded as a
report, and what comes out has the status that the document has: the decoder of the
report looks the status up under the same name, and its labels are the two that say
that a job is over.  So a document that says so is never taken for one that says
something else, even if it is no report.
-/
import AnalysisDesk.Analyzer.Answer
import AnalysisDesk.Proofs.Json.Records

namespace AnalysisDesk

/-! ### Decoding records -/

namespace Decode.Fields

variable {α β : Type} {origin : Origin} {present : String → Option Reading}

/-- Whatever is built from the members that are present has a property. -/
def Yields (origin : Origin) (present : String → Option Reading) (P : α → Prop)
    (fields : Fields α) : Prop :=
  ∀ a, fields.build origin present = .ok a → P a

theorem Yields.map {f : α → β} {fields : Fields α} {P : β → Prop}
    (h : fields.Yields origin present fun a => P (f a)) :
    (f <$> fields).Yields origin present P := by
  intro b hb
  obtain ⟨a, ha, rfl⟩ := build_map_eq_ok_iff.mp hb
  exact h a ha

/-- What is built of some members does not depend on those after them. -/
theorem Yields.seq {f : Fields (α → β)} {fields : Fields α} {P : β → Prop}
    (h : f.Yields origin present fun g => ∀ a, P (g a)) :
    (f <*> fields).Yields origin present P := by
  intro b hb
  obtain ⟨g, a, hg, -, rfl⟩ := build_seq_eq_ok_iff.mp hb
  exact h g hg a

theorem Yields.required {name : String} {d : Decoder α} {P : α → Prop} {reading : Reading}
    (hpresent : present name = some reading) (h : ∀ a, d origin reading = .ok a → P a) :
    (required name d).Yields origin present P := by
  intro a ha
  simp only [Fields.required, hpresent] at ha
  exact h a ha

end Decode.Fields

theorem Decoder.label_text_eq_ok_iff {α : Type} {choices : List (String × α)}
    {origin : Decode.Origin} {text : String} {a : α} :
    Decoder.label choices origin (.str text) = .ok a ↔ choices.lookup text = some a := by
  cases hlookup : choices.lookup text <;> cases origin <;> simp [Decoder.label, hlookup]

theorem ReportStatus.label_of_decoded {origin : Decode.Origin} {text : String}
    {status : ReportStatus} (h : ReportStatus.decoder origin (.str text) = .ok status) :
    status.label = text := by
  have hlookup := Decoder.label_text_eq_ok_iff.mp h
  rw [List.lookup_cons, List.lookup_cons, List.lookup_nil] at hlookup
  cases hcompleted : text == "completed" with
  | true =>
      rw [hcompleted] at hlookup
      obtain rfl := Option.some.inj hlookup
      exact (eq_of_beq hcompleted).symm
  | false =>
      rw [hcompleted] at hlookup
      cases hfailed : text == "failed" with
      | true =>
          rw [hfailed] at hlookup
          obtain rfl := Option.some.inj hlookup
          exact (eq_of_beq hfailed).symm
      | false =>
          rw [hfailed] at hlookup
          exact nomatch hlookup

namespace Json

/-- The text that a document has for its status. -/
def status? (document : Json) : Option String := (document.field? "status").bind str?

/-- The document says that the job is under way. -/
def IsUnderway (document : Json) : Prop :=
  ∃ status ∈ ["pending", "queued", "processing"], document.status? = some status

/-- The document says that the job is over. -/
def IsOver (document : Json) : Prop :=
  ∃ status ∈ ["completed", "failed"], document.status? = some status

theorem IsUnderway.not_isOver {document : Json} (h : document.IsUnderway) : ¬ document.IsOver := by
  obtain ⟨status, hstatus, hlabelled⟩ := h
  rintro ⟨status', hstatus', hlabelled'⟩
  obtain rfl := Option.some.inj (hlabelled.symm.trans hlabelled')
  simp only [List.mem_cons, List.not_mem_nil, or_false] at hstatus hstatus'
  rcases hstatus' with rfl | rfl <;> simp at hstatus

/-- A field of an object is read under its name. -/
theorem lookup_ofFields (name : String) (fields : List (String × Json)) :
    (Reading.ofFields fields).lookup name
      = (fields.find? fun field => field.1 == name).map fun field => Reading.ofJson field.2 := by
  induction fields with
  | nil => rfl
  | cons field rest ih =>
      obtain ⟨key, value⟩ := field
      by_cases hname : name = key
      · subst hname
        simp [Reading.ofFields]
      · have hkey : (key == name) = false := by simp [Ne.symm hname]
        have hname : (name == key) = false := by simp [hname]
        rw [Reading.ofFields, List.lookup_cons, hname, List.find?_cons, hkey]
        exact ih

/-- A document with a status is an object that has it among its fields. -/
theorem lookup_of_status {document : Json} {status : String} (h : document.status? = some status) :
    ∃ fields, document = .obj fields ∧
      (Reading.ofFields fields).lookup "status" = some (.str status) := by
  obtain ⟨value, hfield, hvalue⟩ := Option.bind_eq_some_iff.mp h
  cases document with
  | obj fields =>
      refine ⟨fields, rfl, ?_⟩
      have hfound : (fields.find? fun field => field.1 == "status").map (·.2) = some value := hfield
      obtain ⟨field, hfirst, rfl⟩ := Option.map_eq_some_iff.mp hfound
      rw [lookup_ofFields, hfirst]
      cases hcase : field.2 with
      | str text =>
          rw [hcase] at hvalue
          obtain rfl := Option.some.inj hvalue
          simp [hcase, Reading.ofJson]
      | null | bool | int | float | arr | obj =>
          rw [hcase] at hvalue
          exact nomatch hvalue
  | null | bool | int | float | str | arr => exact nomatch hfield

end Json

/-- **A report has the status of the document that it was decoded from.** -/
theorem Report.status_of_decoded {document : Json} {status : String} {report : Report}
    (hstatus : document.status? = some status)
    (hdecoded : Report.decoder.ofJson document = .ok report) : report.status.label = status := by
  obtain ⟨fields, rfl, hlookup⟩ := Json.lookup_of_status hstatus
  have hobject : Report.decoder .document (.obj (Reading.ofFields fields) true) = .ok report := by
    rw [← hdecoded, Decoder.ofJson, Reading.ofJson]
  refine (?_ : Decode.Fields.Yields .document _ (fun report => report.status.label = status) _)
    report (Decode.Fields.decoder_obj_eq_ok_iff.mp hobject).2.2
  -- the status is the first member, and nine follow
  iterate 9 refine Decode.Fields.Yields.seq ?_
  refine Decode.Fields.Yields.map (Decode.Fields.Yields.required hlookup ?_)
  intro found hfound _ _ _ _ _ _ _ _ _
  exact ReportStatus.label_of_decoded hfound

namespace PollAnswer

variable {document : Json}

/-- Whether an answer is the last one that the analyzer gives about a job. -/
def isFinal : Except AnalyzerFault PollAnswer → Bool
  | .ok (.finished _) | .ok (.malformed _ _) | .error (.rejected _) => true
  | .ok .underway | .error (.unavailable _) | .error (.unexpected _) => false

theorem ofJson_of_underway (h : document.IsUnderway) : ofJson document = .ok .underway := by
  obtain ⟨status, hstatus, hlabelled⟩ := h
  have hfield : (document.field? "status").bind Json.str? = some status := hlabelled
  have hunderway : underwayLabels.contains status = true := List.contains_iff_mem.mpr hstatus
  simp only [ofJson, hfield, hunderway, if_true]

/-- A document that says that the job is over is decoded as a report. -/
private theorem labels_of_over (h : document.IsOver) : ∃ status,
    (document.field? "status").bind Json.str? = some status ∧
      underwayLabels.contains status = false ∧ overLabels.contains status = true := by
  obtain ⟨status, hstatus, hlabelled⟩ := h
  refine ⟨status, hlabelled, ?_, List.contains_iff_mem.mpr hstatus⟩
  rw [Bool.eq_false_iff]
  intro hc
  exact Json.IsUnderway.not_isOver ⟨status, List.contains_iff_mem.mp hc, hlabelled⟩
    ⟨status, hstatus, hlabelled⟩

theorem ofJson_of_report (h : document.IsOver) {report : Report}
    (hdecoded : Report.decoder.ofJson document = .ok report) :
    ofJson document = .ok (.finished report) := by
  obtain ⟨status, hfield, hunderway, hover⟩ := labels_of_over h
  simp only [ofJson, hfield, hunderway, hover, hdecoded, Bool.false_eq_true, if_false, if_true]

theorem ofJson_of_no_report (h : document.IsOver) {fault : Decode.Fault}
    (hdecoded : Report.decoder.ofJson document = .error fault) :
    ofJson document = .ok (.malformed document.write fault.message) := by
  obtain ⟨status, hfield, hunderway, hover⟩ := labels_of_over h
  simp only [ofJson, hfield, hunderway, hover, hdecoded, Bool.false_eq_true, if_false, if_true]

theorem ofJson_of_neither (hunderway : ¬ document.IsUnderway) (hover : ¬ document.IsOver) :
    ∃ message, ofJson document = .error (.unexpected message) := by
  cases hlabelled : document.status? with
  | none =>
      have hfield : (document.field? "status").bind Json.str? = none := hlabelled
      simp only [ofJson, hfield]
      exact ⟨_, rfl⟩
  | some status =>
      have hfield : (document.field? "status").bind Json.str? = some status := hlabelled
      have hunderway : underwayLabels.contains status = false := by
        rw [Bool.eq_false_iff]
        exact fun hc => hunderway ⟨status, List.contains_iff_mem.mp hc, hlabelled⟩
      have hover : overLabels.contains status = false := by
        rw [Bool.eq_false_iff]
        exact fun hc => hover ⟨status, List.contains_iff_mem.mp hc, hlabelled⟩
      simp only [ofJson, hfield, hunderway, hover, Bool.false_eq_true, if_false]
      exact ⟨_, rfl⟩

/-- How a document is taken: what it says of its status decides, and if that is that the job is over,
whether it can be decoded as a report. -/
structure Classifies (document : Json) (answer : Except AnalyzerFault PollAnswer) : Prop where
  underway : answer = .ok .underway ↔ document.IsUnderway
  finished : ∀ report, answer = .ok (.finished report) ↔
    document.IsOver ∧ Report.decoder.ofJson document = .ok report
  status : ∀ report, answer = .ok (.finished report) → document.status? = some report.status.label
  malformed : ∀ raw reason, answer = .ok (.malformed raw reason) ↔ document.IsOver ∧
    ∃ fault, Report.decoder.ofJson document = .error fault ∧ document.write = raw ∧
      fault.message = reason
  unexpected : (∃ message, answer = .error (.unexpected message)) ↔
    ¬ document.IsUnderway ∧ ¬ document.IsOver
  fault : ∀ fault, answer = .error fault → ∃ message, fault = .unexpected message
  final : isFinal answer = true ↔ document.IsOver

/-- **Every document is taken for what its status says.** -/
theorem ofJson_classifies (document : Json) : Classifies document (ofJson document) := by
  by_cases hunderway : document.IsUnderway
  · have hover := hunderway.not_isOver
    rw [ofJson_of_underway hunderway]
    constructor <;> simp [hunderway, hover, isFinal]
  by_cases hover : document.IsOver
  · cases hdecoded : Report.decoder.ofJson document with
    | error fault =>
        rw [ofJson_of_no_report hover hdecoded]
        constructor <;> simp [hunderway, hover, isFinal, hdecoded]
    | ok report =>
        rw [ofJson_of_report hover hdecoded]
        obtain ⟨status, hstatus, hlabelled⟩ := hover
        have hlabel := Report.status_of_decoded hlabelled hdecoded
        have hover : document.IsOver := ⟨status, hstatus, hlabelled⟩
        constructor <;> simp [hunderway, hover, isFinal, hdecoded, hlabelled, hlabel]
  · obtain ⟨message, hanswer⟩ := ofJson_of_neither hunderway hover
    rw [hanswer]
    constructor <;> simp [hunderway, hover, isFinal]

end PollAnswer

end AnalysisDesk
