/-
Sweeps by a checked configuration.

A sweep takes the timeout off the present instant, and what comes out has to be an
instant that the clock can show.  The check of a configuration asks for a timeout that
is longer than the pause between two questions.  It does not ask how long, so there are
configurations that pass it and by which no sweep can be made: it ends before it has
looked at the store, and no job is ever failed by it.  By every other configuration a
sweep comes to its end.
-/
import AnalysisDesk.Proofs.Config.Checking
import AnalysisDesk.Proofs.Desk.Sweeping

namespace AnalysisDesk

namespace Config

/-- The same configuration with another timeout. -/
def withTimeout (c : Config) (seconds : Nat) : Config :=
  { c with polling := { c.polling with timeout := seconds } }

/-- **The check asks no timeout to be short.**  Where one has passed, a longer one passes too. -/
theorem check_withTimeout {c : Config} (hcheck : c.check = .ok ()) {seconds : Nat}
    (hlonger : c.polling.timeout ≤ seconds) : (c.withTimeout seconds).check = .ok () := by
  rw [check_eq_ok_iff] at hcheck ⊢
  simp only [problems, List.append_eq_nil_iff, problemIf_eq_nil_iff] at hcheck ⊢
  obtain ⟨⟨⟨⟨⟨hintervals, htimeout⟩, hattempts⟩, hdelays⟩, hrequest⟩, hurl⟩ := hcheck
  refine ⟨⟨⟨⟨⟨hintervals, ?_⟩, hattempts⟩, hdelays⟩, hrequest⟩, hurl⟩
  rw [decide_eq_false_iff_not] at htimeout ⊢
  exact fun hc => htimeout (Nat.le_trans hlonger hc)

/-- The longest timeout in seconds that can be taken off an instant.  The clock reaches 8334601228800
seconds back from the beginning of 1970. -/
def longestTimeoutAt (now : Instant) : Int := 8334601228800 + now.nanos / 1000000000

/-- Why a sweep cannot be made by a configuration, if it cannot. -/
def sweepFault (c : Config) : StoreError :=
  if 9223372036854775 < c.polling.timeout then .timeoutOutOfRange else .cutoffOutOfRange

end Config

namespace Desk

variable (config : Config) {now : Instant}

theorem nanos_pollTimeout : config.deskSettings.pollTimeout.nanos
    = min (config.polling.timeout * 1000000000) 18446744073709551615999999999 := by
  show min (config.polling.timeout * Span.nanosPerSecond + 0) Span.longest.nanos = _
  rw [Nat.add_zero]
  rfl

/-- **The instant before which windows have elapsed**, by a configuration. -/
theorem cutoff_of_config (hnow : now.HasPlainYear) : cutoff config.deskSettings now
    = if (config.polling.timeout : Int) ≤ Config.longestTimeoutAt now
      then .ok (now.before config.deskSettings.pollTimeout) else .error config.sweepFault := by
  have hbounds := hnow.bounds
  have htimeout := nanos_pollTimeout config
  have hlongest : longestTimeout.nanos = 9223372036854775807000000 := rfl
  have hbefore : (now.before config.deskSettings.pollTimeout).nanos
      = now.nanos - config.deskSettings.pollTimeout.nanos := rfl
  have hshowable := Instant.isShowable_iff (now.before config.deskSettings.pollTimeout)
  unfold Config.longestTimeoutAt
  by_cases hshort : (config.polling.timeout : Int) ≤ 8334601228800 + now.nanos / 1000000000
  · rw [if_pos hshort]
    exact cutoff_eq_ok (by omega) (hshowable.mpr (by omega))
  · rw [if_neg hshort]
    have hdark : ¬ (now.before config.deskSettings.pollTimeout).isShowable = true := by
      rw [hshowable]
      omega
    unfold cutoff Config.sweepFault
    by_cases hlong : 9223372036854775 < config.polling.timeout
    · rw [if_pos hlong]
      exact if_pos (by omega)
    · rw [if_neg hlong, if_neg (by omega)]
      exact if_neg hdark

/-- Where there is no such instant, a sweep ends before it has looked at the store. -/
theorem sweepAt_of_fault {settings : DeskSettings} {cause : StoreError}
    (h : cutoff settings now = .error cause) :
    sweepAt settings now = .done (.error (.storage cause)) := by
  unfold sweepAt
  rw [h]

end Desk

/-- **A sweep by a checked configuration comes to its end exactly if the timeout can be taken off the
present instant.**  Otherwise it leaves everything as it is.  The check does not tell the two apart. -/
theorem checked_sweep_ends (config : Config) (hcheck : config.check = .ok ()) (now : Instant)
    (hnow : now.HasPlainYear) :
    (∀ s : Store, s.ReachedInYears →
      (Desk.sweepAt config.deskSettings now).Alone (fun result s' =>
        ((∃ count, result = .ok count) ↔
          (config.polling.timeout : Int) ≤ Config.longestTimeoutAt now) ∧
        (∀ e, result = .error e → e = .storage config.sweepFault ∧ s' = s)) s) ∧
    (∀ seconds : Nat, config.polling.timeout ≤ seconds →
      (config.withTimeout seconds).check = .ok ()) := by
  refine ⟨fun s hs => ?_, fun seconds hlonger => Config.check_withTimeout hcheck hlonger⟩
  have hcutoff := Desk.cutoff_of_config config hnow
  by_cases hshort : (config.polling.timeout : Int) ≤ Config.longestTimeoutAt now
  · rw [if_pos hshort] at hcutoff
    refine (Desk.sweepAt_alone hs hnow hcutoff).mono ?_
    rintro result s' ⟨rfl, -, -⟩
    exact ⟨iff_of_true ⟨_, rfl⟩ hshort, fun e he => nomatch he⟩
  · rw [if_neg hshort] at hcutoff
    rw [Desk.sweepAt_of_fault hcutoff]
    refine Flow.Ensures.done_iff.mpr ⟨iff_of_false (fun ⟨_, hc⟩ => nomatch hc) hshort, fun e he => ?_⟩
    exact ⟨(Except.error.inj he).symm, rfl⟩

theorem checked_sweep_ends_standard :
    Config.standard.check = .ok () ∧ (⟨2⟩ : Instant).HasPlainYear ∧
    Small.dispatched.ReachedInYears ∧
    (Config.standard.polling.timeout : Int) ≤ Config.longestTimeoutAt ⟨2⟩ ∧
    (Desk.sweepAt Config.standard.deskSettings ⟨2⟩).Alone (fun result _ =>
      ∃ count, result = .ok count) Small.dispatched ∧
    (Config.standard.withTimeout 9223372036854776).check = .ok () := by
  have hcheck : Config.standard.check = .ok () := by decide +kernel
  have hnow : (⟨2⟩ : Instant).HasPlainYear := by decide +kernel
  have hshort : (Config.standard.polling.timeout : Int) ≤ Config.longestTimeoutAt ⟨2⟩ := by decide
  obtain ⟨hsweep, hlonger⟩ := checked_sweep_ends Config.standard hcheck ⟨2⟩ hnow
  exact ⟨hcheck, hnow, Small.dispatched_reachedInYears, hshort,
    (hsweep Small.dispatched Small.dispatched_reachedInYears).mono fun _ _ h => h.1.mpr hshort,
    hlonger 9223372036854776 (by decide)⟩

/-- Two configurations that pass their check and by which no sweep can be made: the timeout of one
has no room in milliseconds, that of the other reaches back beyond what the clock can show. -/
theorem checked_sweep_may_fail :
    (∀ seconds ∈ [9223372036854776, 10000000000000],
      (Config.standard.withTimeout seconds).check = .ok () ∧
      ¬ (Desk.sweepAt (Config.standard.withTimeout seconds).deskSettings ⟨2⟩).Alone
        (fun result _ => ∃ count, result = .ok count) Small.dispatched) ∧
    Small.dispatched.ReachedInYears ∧ 0 ≤ (⟨2⟩ : Instant).nanos ∧ (⟨2⟩ : Instant).HasPlainYear := by
  refine ⟨?_, Small.dispatched_reachedInYears, by decide, by decide +kernel⟩
  intro seconds hseconds
  simp only [List.mem_cons, List.not_mem_nil, or_false] at hseconds
  rcases hseconds with rfl | rfl
  · exact ⟨by decide +kernel, fun ⟨_, hc⟩ => nomatch hc⟩
  · exact ⟨by decide +kernel, fun ⟨_, hc⟩ => nomatch hc⟩

end AnalysisDesk
