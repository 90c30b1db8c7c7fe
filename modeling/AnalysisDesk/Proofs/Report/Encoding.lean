/-
Reports as documents.

A report is decoded from the document that encodes it, since each member is read back from its own
field.  What else a document may say besides, or say in other words, is told by `Restated`: the
decoders of reports, of their issues and of their metrics are lenient, and a change inside an
issue is a change of the part "issues" of its report.
-/
import AnalysisDesk.Proofs.Json.Lenience
import AnalysisDesk.Report.Basic
import Mathlib.Logic.Relation

namespace AnalysisDesk

open Decode

variable {origin : Origin}

/-! ### Values read back -/

namespace Decoder

theorem int64_int (origin : Origin) {value : Int} (h : Limit.holds64 value = true) :
    int64 origin (.ofJson (.int value)) = .ok value := by
  rw [Reading.ofJson]
  exact if_pos (Limit.holds64_iff.mp h)

theorem double_number (origin : Origin) {value : Double} (h : value.isFinite = true) :
    double origin (.ofJson (.number value)) = .ok value := by
  rw [Json.number, if_pos h, Reading.ofJson]
  rfl

/-- An optional value is read back if a value is, and null is none. -/
theorem nullable_option {α : Type} {d : Decoder α} {encode : α → Json} {o : Option α}
    (hnull : ∀ a, d origin .null ≠ .ok a)
    (h : ∀ a, o = some a → d origin (.ofJson (encode a)) = .ok a) :
    d.nullable origin (.ofJson (.option encode o)) = .ok o := by
  cases o with
  | none => rfl
  | some a =>
      have hread := h a rfl
      show d.nullable origin (.ofJson (encode a)) = .ok (some a)
      unfold nullable
      split
      · rename_i hnothing
        rw [hnothing] at hread
        exact absurd hread (hnull a)
      · rw [hread]
        rfl

theorem items_map {α : Type} {d : Decoder α} {encode : α → Json} {as : List α} {index : Nat}
    (h : ∀ a ∈ as, d origin (.ofJson (encode a)) = .ok a) :
    items d origin index (Reading.ofItems (as.map encode)) = .ok as := by
  induction as generalizing index with
  | nil => rfl
  | cons a rest ih =>
      obtain ⟨ha, hrest⟩ := List.forall_mem_cons.mp h
      rw [List.map_cons, Reading.ofItems, items, ha, ih hrest]

/-- A list is read back if its items are. -/
theorem list_arr {α : Type} {d : Decoder α} {encode : α → Json} {as : List α}
    (h : ∀ a ∈ as, d origin (.ofJson (encode a)) = .ok a) :
    d.list origin (.ofJson (.arr (as.map encode))) = .ok as := by
  rw [Reading.ofJson]
  unfold list
  dsimp only
  rw [items_map h]
  rfl

end Decoder

/-! ### Issues and metrics -/

/-- A line number that an issue gives has sixty-four bits. -/
def ReportedIssue.Encodable (issue : ReportedIssue) : Prop :=
  ∀ value, issue.lineNumber = some value → Limit.holds64 value = true

/-- The names of an issue's fields. -/
def ReportedIssue.names : List String :=
  ["file_path", "line_number", "severity", "category", "title", "description", "suggestion"]

/-- The fields that an issue can do without. -/
def ReportedIssue.spares : List String := ["line_number", "description", "suggestion"]

/-- The value of a metric is a finite number. -/
def ReportedMetric.Encodable (metric : ReportedMetric) : Prop := metric.value.isFinite = true

/-- The names of a metric's fields. -/
def ReportedMetric.names : List String := ["metric_type", "value", "file_path"]

/-- The fields that a metric can do without. -/
def ReportedMetric.spares : List String := ["file_path"]

theorem ReportedIssue.fields_lenient :
    fields.Lenient origin spares fun _ _ _ => False := by
  unfold fields
  refine .seq (.seq (.seq (.seq (.seq (.seq (.map ?_) ?_) ?_) ?_) ?_) ?_) ?_
  · exact .required (by decide) fun _ _ h => h.elim
  · exact .spare fun _ _ h => h
  · exact .required (by decide) fun _ _ h => h.elim
  · exact .required (by decide) fun _ _ h => h.elim
  · exact .required (by decide) fun _ _ h => h.elim
  · exact .spare fun _ _ h => h
  · exact .spare fun _ _ h => h

theorem ReportedMetric.fields_lenient :
    fields.Lenient origin spares fun _ _ _ => False := by
  unfold fields
  refine .seq (.seq (.map ?_) ?_) ?_
  · exact .required (by decide) fun _ _ h => h.elim
  · exact .required (by decide) fun _ _ h => h.elim
  · exact .spare fun _ _ h => h

theorem ReportedIssue.decoder_toJson {issue : ReportedIssue} (h : issue.Encodable) :
    decoder origin (.ofJson issue.toJson) = .ok issue := by
  have hnames : names.Nodup := by decide
  refine fields_lenient.decoder_object_eq_ok hnames ?_
  unfold fields
  refine Fields.build_seq (Fields.build_seq (Fields.build_seq (Fields.build_seq (Fields.build_seq
    (Fields.build_seq (Fields.build_map rfl) ?lineNumber) rfl) rfl) rfl) ?description) ?suggestion
  case lineNumber =>
    exact Decoder.nullable_option (fun _ => nofun) fun _ hline => Decoder.int64_int _ (h _ hline)
  case description => exact Decoder.nullable_option (fun _ => nofun) fun _ _ => rfl
  case suggestion => exact Decoder.nullable_option (fun _ => nofun) fun _ _ => rfl

theorem ReportedMetric.decoder_toJson {metric : ReportedMetric} (h : metric.Encodable) :
    decoder origin (.ofJson metric.toJson) = .ok metric := by
  have hnames : names.Nodup := by decide
  refine fields_lenient.decoder_object_eq_ok hnames ?_
  unfold fields
  refine Fields.build_seq (Fields.build_seq (Fields.build_map rfl) ?value) ?filePath
  case value => exact Decoder.double_number origin h
  case filePath => exact Decoder.nullable_option (fun _ => nofun) fun _ _ => rfl

/-! ### Reports -/

namespace Report

/-- Every number of a report can be written: the floating-point ones are finite and the whole ones
have sixty-four bits. -/
structure Encodable (r : Report) : Prop where
  scores : ∀ score ∈ [r.qualityScore, r.maintainabilityIndex, r.complexityScore, r.securityRating],
    ∀ value, score = some value → value.isFinite = true
  counters : ∀ counter ∈ [r.issuesFound, r.filesAnalyzed],
    ∀ value, counter = some value → Limit.holds64 value = true
  issues : ∀ issue ∈ r.issues, issue.Encodable
  metrics : ∀ metric ∈ r.metrics, metric.Encodable

/-- The names of a report's fields. -/
def names : List String :=
  ["status", "quality_score", "maintainability_index", "complexity_score", "security_rating",
    "issues_found", "files_analyzed", "issues", "metrics", "error"]

/-- The fields that a report can do without, the two lists apart. -/
def spares : List String :=
  ["quality_score", "maintainability_index", "complexity_score", "security_rating", "issues_found",
    "files_analyzed", "error"]

/-- The lists of a report, which may be replaced by lists of which their decoders make the same. -/
def Part (origin : Origin) (name : String) (value value' : Reading) : Prop :=
  (name = "issues" ∧ (Decoder.list ReportedIssue.decoder).Follows origin value value') ∨
    (name = "metrics" ∧ (Decoder.list ReportedMetric.decoder).Follows origin value value')

theorem not_part {name : String} (h : name ≠ "issues" ∧ name ≠ "metrics") (value value' : Reading) :
    ¬ Part origin name value value' := by
  rintro (⟨hname, -⟩ | ⟨hname, -⟩)
  · exact h.1 hname
  · exact h.2 hname

theorem fields_lenient : fields.Lenient origin spares (Part origin) := by
  unfold fields
  refine .seq (.seq (.seq (.seq (.seq (.seq (.seq (.seq (.seq (.map ?status) ?_) ?_) ?_) ?_) ?_) ?_)
    ?issues) ?metrics) ?_
  case status =>
    exact .required (by decide) fun value value' h => absurd h (not_part (by decide) value value')
  case issues =>
    refine .defaulted (by decide) fun value value' h => ?_
    rcases h with ⟨-, h⟩ | ⟨hname, -⟩
    · exact h
    · exact absurd hname (by decide)
  case metrics =>
    refine .defaulted (by decide) fun value value' h => ?_
    rcases h with ⟨hname, -⟩ | ⟨-, h⟩
    · exact absurd hname (by decide)
    · exact h
  all_goals exact .spare (not_part (by decide))

theorem decoder_status (origin : Origin) (status : ReportStatus) :
    ReportStatus.decoder origin (.ofJson (.str status.label)) = .ok status := by
  cases origin <;> cases status <;> rfl

theorem decoder_toJson {r : Report} (h : r.Encodable) :
    decoder origin (.ofJson r.toJson) = .ok r := by
  have hnames : names.Nodup := by decide
  have hscore : ∀ {score}, score ∈ [r.qualityScore, r.maintainabilityIndex, r.complexityScore,
      r.securityRating] →
      (Decoder.nullable .double) origin (.ofJson (.option .number score)) = .ok score := by
    intro score hscore
    exact Decoder.nullable_option (fun _ => nofun) fun value hvalue =>
      Decoder.double_number _ (h.scores score hscore value hvalue)
  have hcounter : ∀ {counter}, counter ∈ [r.issuesFound, r.filesAnalyzed] →
      (Decoder.nullable .int64) origin (.ofJson (.option .int counter)) = .ok counter := by
    intro counter hcounter
    exact Decoder.nullable_option (fun _ => nofun) fun value hvalue =>
      Decoder.int64_int _ (h.counters counter hcounter value hvalue)
  refine fields_lenient.decoder_object_eq_ok hnames ?_
  unfold fields
  refine Fields.build_seq (Fields.build_seq (Fields.build_seq (Fields.build_seq (Fields.build_seq
    (Fields.build_seq (Fields.build_seq (Fields.build_seq (Fields.build_seq (Fields.build_map
    ?status) ?quality) ?maintainability) ?complexity) ?security) ?found) ?files) ?issues) ?metrics)
    ?error
  case status => exact decoder_status origin r.status
  case quality => exact hscore (by simp)
  case maintainability => exact hscore (by simp)
  case complexity => exact hscore (by simp)
  case security => exact hscore (by simp)
  case found => exact hcounter (by simp)
  case files => exact hcounter (by simp)
  case issues =>
    exact Decoder.list_arr fun issue hissue => ReportedIssue.decoder_toJson (h.issues issue hissue)
  case metrics =>
    exact Decoder.list_arr fun metric hmetric =>
      ReportedMetric.decoder_toJson (h.metrics metric hmetric)
  case error => exact Decoder.nullable_option (fun _ => nofun) fun _ _ => rfl

/-! ### Reports put otherwise -/

/-- A document is changed in a way that its reader as a report need not notice: it is put otherwise
itself, or one of its issues or of its metrics is. -/
inductive Restated : Json → Json → Prop
  | report {given given' : List (String × Json)} (h : Json.Reworded names spares given given') :
      Restated (.obj given) (.obj given')
  | issue {before after : List (String × Json)} {first last : List Json}
      {given given' : List (String × Json)}
      (h : Json.Reworded ReportedIssue.names ReportedIssue.spares given given') :
      Restated (.obj (before ++ ("issues", .arr (first ++ .obj given :: last)) :: after))
        (.obj (before ++ ("issues", .arr (first ++ .obj given' :: last)) :: after))
  | metric {before after : List (String × Json)} {first last : List Json}
      {given given' : List (String × Json)}
      (h : Json.Reworded ReportedMetric.names ReportedMetric.spares given given') :
      Restated (.obj (before ++ ("metrics", .arr (first ++ .obj given :: last)) :: after))
        (.obj (before ++ ("metrics", .arr (first ++ .obj given' :: last)) :: after))

/-- A change of an item is a change of its list. -/
theorem list_follows {α : Type} {d : Decoder α} {item item' : Json} {first last : List Json}
    (h : d.Follows origin (.ofJson item) (.ofJson item')) :
    d.list.Follows origin (.ofJson (.arr (first ++ item :: last)))
      (.ofJson (.arr (first ++ item' :: last))) := by
  rw [Reading.ofJson, Reading.ofJson, Reading.ofItems_eq_map, Reading.ofItems_eq_map,
    List.map_append, List.map_append]
  exact h.list

theorem Restated.follows {document document' : Json} (h : Restated document document') :
    decoder.Follows origin (.ofJson document) (.ofJson document') := by
  cases h with
  | report h => exact fields_lenient.follows_of_reworded h
  | issue h =>
      have hitem : ReportedIssue.decoder.Follows origin _ _ :=
        ReportedIssue.fields_lenient.follows_of_reworded h
      have hnamed : "issues" ∈ names := by decide
      exact fields_lenient.follows_of_part hnamed (Or.inl ⟨rfl, list_follows hitem⟩)
  | metric h =>
      have hitem : ReportedMetric.decoder.Follows origin _ _ :=
        ReportedMetric.fields_lenient.follows_of_reworded h
      have hnamed : "metrics" ∈ names := by decide
      exact fields_lenient.follows_of_part hnamed (Or.inr ⟨rfl, list_follows hitem⟩)

/-- **Decoding undoes encoding, and what is put otherwise is decoded as the same report.** -/
theorem decoding_undoes_encoding :
    (∀ (origin : Origin) (r : Report), r.Encodable → decoder origin (.ofJson r.toJson) = .ok r) ∧
      ∀ (origin : Origin) (document document' : Json) (r : Report),
        Relation.ReflTransGen Restated document document' →
          decoder origin (.ofJson document) = .ok r → decoder origin (.ofJson document') = .ok r := by
  constructor
  · intro origin r h
    exact decoder_toJson h
  · intro origin document document' r hsteps hdecoded
    induction hsteps with
    | refl => exact hdecoded
    | tail _ hstep ih => exact hstep.follows r ih

/-- Minus zero and the ends of the range are read back.  A null that is dropped, a null that is
added and a note make no difference, though a whole number is read as a floating-point one. -/
theorem decoding_undoes_encoding_of_negZero :
    (let r : Report := {
      status := .completed
      qualityScore := some .negZero
      maintainabilityIndex := none
      complexityScore := none
      securityRating := none
      issuesFound := some Limit.greatest64
      filesAnalyzed := none
      issues := [⟨"lib.rs", some Limit.least64, "high", "style", "Long line", none, none⟩]
      metrics := [⟨"coverage", .ofNat 80, none⟩]
      error := none }
    decoder .document (.ofJson r.toJson) = .ok r) ∧
      decoder .text (.ofJson (.obj [("status", .str "completed"), ("quality_score", .float .negZero),
        ("metrics", .arr [.obj [("metric_type", .str "coverage"), ("note", .bool true),
          ("value", .int 80), ("file_path", .null)]])])) = .ok {
        status := .completed
        qualityScore := some .negZero
        maintainabilityIndex := none
        complexityScore := none
        securityRating := none
        issuesFound := none
        filesAnalyzed := none
        issues := []
        metrics := [⟨"coverage", .ofInt 80, none⟩]
        error := none } := by
  constructor
  · refine decoding_undoes_encoding.1 .document _ ⟨?_, ?_, ?_, ?_⟩
    · have hzero : Double.negZero.isFinite = true := rfl
      simp [hzero]
    · have hgreatest : Limit.holds64 Limit.greatest64 = true := rfl
      simp [hgreatest]
    · have hleast : Limit.holds64 Limit.least64 = true := rfl
      simp [ReportedIssue.Encodable, hleast]
    · have hvalue : (Double.ofNat 80).isFinite = true := rfl
      simp [ReportedMetric.Encodable, hvalue]
  · have hdropped := Restated.report (@Json.Reworded.nullDropped _ _
      [("status", .str "completed"), ("quality_score", .float .negZero)]
      [("metrics", .arr [.obj [("metric_type", .str "coverage"), ("value", .int 80)]])]
      "error" (by decide))
    have hadded := @Restated.metric
      [("status", .str "completed"), ("quality_score", .float .negZero)] [] [] [] _ _
      (@Json.Reworded.nullAdded _ _ [("metric_type", .str "coverage"), ("value", .int 80)] []
        "file_path" (by decide) (by decide))
    have hnoted := @Restated.metric
      [("status", .str "completed"), ("quality_score", .float .negZero)] [] [] [] _ _
      (@Json.Reworded.unknownAdded _ _ [("metric_type", .str "coverage")]
        [("value", .int 80), ("file_path", .null)] "note" (.bool true) (by decide))
    exact decoding_undoes_encoding.2 .text _ _ _ (.tail (.tail (.single hdropped) hadded) hnoted) rfl

end Report

end AnalysisDesk
