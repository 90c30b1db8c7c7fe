/-
Stored times keep the order of time.

The store knows no instants, only their texts, cut to milliseconds.  It sorts jobs by
these texts and finds the stale ones by comparing them, byte by byte.  For the years 0
to 9999 none of that can go wrong: a text reads back as the instant that was cut, and
the smaller text is that of the earlier millisecond.  What a sort or a comparison of
texts finds is therefore true of the instants.

Two instants of one millisecond have one text.  The store cannot tell them apart, and
it is their cuts of which everything is said here.
-/
import AnalysisDesk.Proofs.Store.Windows
import AnalysisDesk.Proofs.Text.ByteOrder
import AnalysisDesk.Proofs.Views.Figures

namespace AnalysisDesk

namespace Instant

variable {t u : Instant}

/-- Cuts compare as milliseconds do. -/
theorem cut_le_cut_iff : t.cut.nanos ≤ u.cut.nanos ↔ t.millis ≤ u.millis := by
  unfold cut ofMillis nanosPerMilli
  dsimp only
  omega

/-- The earlier of two instants in plain years has the smaller text, as far as their milliseconds
differ. -/
theorem stored_le_stored_iff_cut (ht : t.HasPlainYear) (hu : u.HasPlainYear) :
    t.stored ≤ u.stored ↔ t.cut.nanos ≤ u.cut.nanos := by
  rw [stored_le_stored_iff ht hu, cut_le_cut_iff]

theorem stored_lt_stored_iff_cut (ht : t.HasPlainYear) (hu : u.HasPlainYear) :
    t.stored < u.stored ↔ t.cut.nanos < u.cut.nanos := by
  rw [← String.not_le, stored_le_stored_iff_cut hu ht, Int.not_le]

end Instant

namespace JobRow

variable {row : JobRow} {t u : Instant}

/-- An instant in a plain year that is stored as the time at which a job was created. -/
structure CreatedAt (row : JobRow) (t : Instant) : Prop where
  plain : t.HasPlainYear
  text : row.createdAt = t.stored

/-- A job that has been waiting since an instant: dispatched then and still processing, or created
then and still pending.  A processing job without a time of dispatch counts from its creation. -/
inductive WaitsSince (row : JobRow) (t : Instant) : Prop
  | processing (hstatus : row.status = JobStatus.processing.label)
      (htext : row.dispatchedAt.getD row.createdAt = t.stored)
  | pending (hstatus : row.status = JobStatus.pending.label) (htext : row.createdAt = t.stored)

/-- Whether a waiting job is stale is whether its text is smaller than that of the cutoff. -/
theorem WaitsSince.isStale_iff (h : row.WaitsSince t) (cutoff : String) :
    Store.isStale cutoff row = true ↔ t.stored < cutoff := by
  have hdistinct : JobStatus.processing.label ≠ JobStatus.pending.label := by decide
  unfold Store.isStale
  cases h with
  | processing hstatus htext => simp [hstatus, htext, hdistinct]
  | pending hstatus htext => simp [hstatus, htext, hdistinct.symm]

end JobRow

namespace Store

variable {rows : List JobRow} {created : JobRow → Instant}

/-- Of jobs sorted from the newest on none is newer than one before it. -/
theorem newestFirst_chronological (h : ∀ row ∈ rows, row.CreatedAt (created row)) :
    (newestFirst rows).Pairwise fun a b => (created b).cut.nanos ≤ (created a).cut.nanos := by
  rw [List.pairwise_iff_forall_sublist]
  intro a b hsub
  have ha := h a ((newestFirst_perm rows).subset (hsub.subset (by simp)))
  have hb := h b ((newestFirst_perm rows).subset (hsub.subset (by simp)))
  have hle := (sublist_of_newestFirst hsub).1
  rw [ha.text, hb.text] at hle
  exact (Instant.stored_le_stored_iff_cut hb.plain ha.plain).mp hle

/-- Of jobs sorted from the oldest on none is older than one before it. -/
theorem oldestFirst_chronological (h : ∀ row ∈ rows, row.CreatedAt (created row)) :
    (oldestFirst rows).Pairwise fun a b => (created a).cut.nanos ≤ (created b).cut.nanos := by
  rw [List.pairwise_iff_forall_sublist]
  intro a b hsub
  have ha := h a ((oldestFirst_perm rows).subset (hsub.subset (by simp)))
  have hb := h b ((oldestFirst_perm rows).subset (hsub.subset (by simp)))
  have hle := (sublist_of_oldestFirst hsub).1
  rw [ha.text, hb.text] at hle
  exact (Instant.stored_le_stored_iff_cut ha.plain hb.plain).mp hle

end Store

/-- **Stored times are chronological.**  A stored instant reads back to the millisecond, and of two
of them the earlier one has the smaller bytes.  So jobs that are sorted by their texts are sorted
by time, and a waiting job is stale exactly if it has waited since before the cutoff. -/
theorem stored_times_are_chronological {s t : Instant} (hs : s.HasPlainYear) (ht : t.HasPlainYear) :
    readTimestamp t.stored = .ok t.cut ∧
    (Text.bytes s.stored < Text.bytes t.stored ↔ s.cut.nanos < t.cut.nanos) ∧
    (∀ (rows : List JobRow) (created : JobRow → Instant),
      (∀ row ∈ rows, row.CreatedAt (created row)) →
        (Store.newestFirst rows).Pairwise
            (fun a b => (created b).cut.nanos ≤ (created a).cut.nanos) ∧
          (Store.oldestFirst rows).Pairwise
            (fun a b => (created a).cut.nanos ≤ (created b).cut.nanos)) ∧
    (∀ row : JobRow, row.WaitsSince s →
      (Store.isStale t.stored row = true ↔ s.cut.nanos < t.cut.nanos)) := by
  refine ⟨readTimestamp_stored_eq ht, ?_, fun rows created hrows => ?_, fun row hrow => ?_⟩
  · rw [Text.bytes_lt_bytes_iff, Instant.stored_lt_stored_iff_cut hs ht]
  · exact ⟨Store.newestFirst_chronological hrows, Store.oldestFirst_chronological hrows⟩
  · rw [hrow.isStale_iff, Instant.stored_lt_stored_iff_cut hs ht]

/-- The last nanosecond before 1970 and the first millisecond after a leap day: the earlier one is
cut downwards, away from 1970. -/
theorem stored_times_are_chronological_around_epoch :
    (⟨-1⟩ : Instant).HasPlainYear ∧ (⟨68256000001999999⟩ : Instant).HasPlainYear ∧
    (⟨-1⟩ : Instant).stored = "1969-12-31T23:59:59.999Z" ∧
    (⟨68256000001999999⟩ : Instant).stored = "1972-03-01T00:00:00.001Z" ∧
    readTimestamp (⟨68256000001999999⟩ : Instant).stored = .ok ⟨68256000001000000⟩ ∧
    Text.bytes (⟨-1⟩ : Instant).stored < Text.bytes (⟨68256000001999999⟩ : Instant).stored ∧
    (⟨-1⟩ : Instant).cut = ⟨-1000000⟩ := by
  have hs : (⟨-1⟩ : Instant).HasPlainYear := by decide +kernel
  have ht : (⟨68256000001999999⟩ : Instant).HasPlainYear := by decide +kernel
  obtain ⟨hread, hless, -, -⟩ := stored_times_are_chronological hs ht
  exact ⟨hs, ht, by decide +kernel, by decide +kernel, hread, hless.mpr (by decide), rfl⟩

end AnalysisDesk
