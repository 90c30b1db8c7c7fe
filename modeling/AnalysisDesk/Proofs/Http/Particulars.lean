/-
The particulars of a request.

A request says who asks in a header, which job or repository it is about in its path, and what is
wanted in its query or its body.  Each of these has a relation here that says what stands there,
and the service reads it exactly if it stands there.

The relations are also what a refusal is told by: where the service turns a request away there is
nothing that its header, path, query or body could be taken to say.
-/
import AnalysisDesk.Http.Service
import AnalysisDesk.Proofs.Http.Forms

namespace AnalysisDesk

open HttpService

variable {request : HttpRequest} {raw : String}

/-! ### Who asks -/

/-- The user that a request names: its first header for that is visible text, and but for white
space around it writes a positive number of sixty-four bits. -/
def HttpRequest.NamesUser (request : HttpRequest) (user : Int) : Prop :=
  ∃ value, request.header? userHeader = some value ∧ isVisible value = true ∧
    Text.Writes (Text.trim value) user ∧ 1 ≤ user ∧ user ≤ Limit.greatest64

theorem requester?_eq_some_iff {user : Int} :
    requester? request = some user ↔ request.NamesUser user := by
  unfold requester? HttpRequest.NamesUser
  rw [Option.bind_eq_some_iff]
  refine exists_congr fun value => and_congr_right fun _ => ?_
  by_cases hvisible : isVisible value = true
  · rw [if_pos hvisible]
    -- a positive number is not below the least one
    have hread : Text.readInteger (Text.trim value) = .ok user ∧ 0 < user ↔
        Text.Writes (Text.trim value) user ∧ 1 ≤ user ∧ user ≤ Limit.greatest64 := by
      rw [Text.readInteger_eq_ok_iff, Limit.holds64_iff, Limit.least64]
      constructor
      · rintro ⟨⟨hwrites, -, hhigh⟩, hpos⟩
        exact ⟨hwrites, by omega, hhigh⟩
      · rintro ⟨hwrites, hpos, hhigh⟩
        exact ⟨⟨hwrites, by omega, hhigh⟩, by omega⟩
    simp only [hvisible, true_and, ← hread]
    cases Text.readInteger (Text.trim value) with
    | error fault => simp
    | ok id =>
        by_cases hpos : 0 < id
        · simp only [hpos, if_true, Option.some.injEq, Except.ok.injEq]
          exact ⟨fun h => ⟨h, h ▸ hpos⟩, fun h => h.1⟩
        · simp only [hpos, if_false, reduceCtorEq, false_iff, Except.ok.injEq]
          rintro ⟨rfl, hc⟩
          exact hpos hc
  · simp [hvisible]

theorem requester?_eq_none_iff :
    requester? request = none ↔ ∀ user, ¬ request.NamesUser user := by
  simp only [← requester?_eq_some_iff, ← Option.eq_none_iff_forall_ne_some]

/-! ### What the path names -/

/-- The text that a piece of a path stands for. -/
def Spells (raw text : String) : Prop :=
  Text.ofBytes? (Text.percentDecoded (Text.bytes raw)) = some text

/-- The job that a piece of a path names. -/
def NamesJob (raw : String) (job : JobId) : Prop :=
  ∃ text, Spells raw text ∧ JobId.read? text = some job

/-- The repository that a piece of a path names. -/
def NamesRepository (raw : String) (repository : Int) : Prop :=
  ∃ text, Spells raw text ∧ Text.Writes text repository ∧ Limit.holds64 repository = true

theorem decodedPiece_of_spells {text : String} (h : Spells raw text) :
    decodedPiece raw = .ok text := by
  unfold decodedPiece
  rw [h]

theorem decodedPiece_of_none (h : ∀ text, ¬ Spells raw text) :
    ∃ answer, decodedPiece raw = .error answer ∧ answer.status = 400 := by
  unfold decodedPiece
  rw [Option.eq_none_iff_forall_ne_some.mpr h]
  exact ⟨_, rfl, rfl⟩

theorem spells_or (raw : String) : (∃ text, Spells raw text) ∨ ∀ text, ¬ Spells raw text := by
  unfold Spells
  cases Text.ofBytes? (Text.percentDecoded (Text.bytes raw)) <;> simp

/-- What the service makes of a piece that should name a job. -/
inductive ReadsJob (raw : String) : Except HttpAnswer JobId → Prop
  | named (job : JobId) (h : NamesJob raw job) : ReadsJob raw (.ok job)
  | noJob (text : String) (htext : Spells raw text) (h : JobId.read? text = none) :
      ReadsJob raw (.error (.ofError .notFound))
  | noText (answer : HttpAnswer) (h : ∀ text, ¬ Spells raw text) (hstatus : answer.status = 400) :
      ReadsJob raw (.error answer)

theorem jobIn_reads (raw : String) : ReadsJob raw (jobIn raw) := by
  unfold jobIn
  rcases spells_or raw with ⟨text, htext⟩ | hnone
  · rw [decodedPiece_of_spells htext, Except.bind, jobNamed]
    cases hread : JobId.read? text with
    | none => exact .noJob text htext hread
    | some job => exact .named job ⟨text, htext, hread⟩
  · obtain ⟨answer, hpiece, hstatus⟩ := decodedPiece_of_none hnone
    rw [hpiece]
    exact .noText answer hnone hstatus

theorem jobIn_of_names {job : JobId} (h : NamesJob raw job) : jobIn raw = .ok job := by
  obtain ⟨text, htext, hread⟩ := h
  rw [jobIn, decodedPiece_of_spells htext, Except.bind, jobNamed, hread]

theorem repositoryIn_eq_ok_iff {repository : Int} :
    repositoryIn raw = .ok repository ↔ NamesRepository raw repository := by
  unfold repositoryIn NamesRepository
  rcases spells_or raw with ⟨text, htext⟩ | hnone
  · have hsame : ∀ other, Spells raw other ↔ other = text := fun other =>
      ⟨fun h => Option.some.inj (h.symm.trans htext), fun h => h ▸ htext⟩
    rw [decodedPiece_of_spells htext, Except.bind]
    simp only [hsame, exists_eq_left, ← Text.readInteger_eq_ok_iff]
    cases Text.readInteger text <;> simp
  · obtain ⟨answer, hpiece, -⟩ := decodedPiece_of_none hnone
    simp [hpiece, Except.bind, hnone]

theorem repositoryIn_error {answer : HttpAnswer} (h : repositoryIn raw = .error answer) :
    answer.status = 400 := by
  unfold repositoryIn at h
  rcases spells_or raw with ⟨text, htext⟩ | hnone
  · rw [decodedPiece_of_spells htext, Except.bind] at h
    split at h
    · exact nomatch h
    · cases h
      rfl
  · obtain ⟨answer', hpiece, hstatus⟩ := decodedPiece_of_none hnone
    rw [hpiece] at h
    cases h
    exact hstatus

/-! ### What is asked for and what is sent -/

theorem asked_eq_ok_iff {α : Type} {form : Option String → Except Form.Fault α} {a : α} :
    asked form request = .ok a ↔ form request.query = .ok a := by
  unfold asked
  cases form request.query <;> simp

theorem asked_error {α : Type} {form : Option String → Except Form.Fault α} {answer : HttpAnswer}
    (h : asked form request = .error answer) :
    answer.status = 400 ∧ ∀ a, form request.query ≠ .ok a := by
  unfold asked at h
  cases hform : form request.query with
  | ok a => simp [hform] at h
  | error fault =>
      rw [hform] at h
      cases h
      exact ⟨rfl, by simp⟩

/-- The wish that a request carries in its body: a document, by its header, that is not too long
and has the wish in it. -/
structure HttpRequest.Carries (request : HttpRequest) (wish : SubmitRequest) : Prop where
  isDocument : ∃ value, request.header? "content-type" = some value ∧ isDocumentType value = true
  short : request.body.utf8ByteSize ≤ bodyLimit
  body : SubmitRequest.decoder.ofText request.body = .ok wish

theorem sent_eq_ok_iff {wish : SubmitRequest} :
    sent SubmitRequest.decoder request = .ok wish ↔ request.Carries wish := by
  unfold sent
  have htype : ((request.header? "content-type").map isDocumentType).getD false = true ↔
      ∃ value, request.header? "content-type" = some value ∧ isDocumentType value = true := by
    cases request.header? "content-type" <;> simp
  by_cases hdocument : ((request.header? "content-type").map isDocumentType).getD false = true
  · rw [if_pos hdocument]
    by_cases hlong : bodyLimit < request.body.utf8ByteSize
    · rw [if_pos hlong]
      simp only [reduceCtorEq, false_iff]
      exact fun h => absurd h.short (Nat.not_le.mpr hlong)
    · rw [if_neg hlong]
      constructor
      · intro h
        refine ⟨htype.mp hdocument, Nat.le_of_not_lt hlong, ?_⟩
        split at h
        next wish' hbody =>
          cases h
          exact hbody
        · exact nomatch h
        · exact nomatch h
      · intro h
        rw [h.body]
  · rw [if_neg hdocument]
    simp only [reduceCtorEq, false_iff]
    exact fun h => hdocument (htype.mpr h.isDocument)

theorem sent_error {α : Type} {decoder : Decoder α} {answer : HttpAnswer}
    (h : sent decoder request = .error answer) : answer.status = 400 := by
  unfold sent at h
  split at h
  · split at h
    · cases h
      rfl
    · split at h
      · exact nomatch h
      · cases h
        rfl
      · cases h
        rfl
  · cases h
    rfl

end AnalysisDesk
