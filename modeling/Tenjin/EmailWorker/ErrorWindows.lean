import Tenjin.EmailWorker.Outgoing

/-!
# Bursts of SMTP errors

`determine_smtp_error_threshold_reached` of `qos.py` against the question that it is asked:
whether some `error_threshold` errors in a row lie within the timeframe.

The loop looks at the errors whose position is a multiple of the threshold, each against the
next one of them, and reads past the list when it comes to the last one.  So it can return
`True` or raise, but never return `False` once the threshold is reached.  Spans of time are
differences of floats, in the question as in the code.

* `HasBurst` is the question, `StrideHit` what the loop is able to see.
* `windowsReached_of_hit`, `windowsReached_of_miss` — what the loop does.
* `thresholdDetected_iff` — the answer is right exactly below the threshold and after a hit.
* `batchSendEmails_running` — only a hit lets the sending of a batch go on.
-/

namespace Tenjin
namespace EmailWorker

open Python ResourceAuxillary

section
variable (errorData : ErrorData) (timeframeSize : PyFloat) (errorThreshold : ℕ)

/-- Some `errorThreshold` consecutive errors lie within a span of `timeframeSize`. -/
def HasBurst : Prop :=
  ∃ front window back, errorData = front ++ window ++ back ∧ window.length = errorThreshold ∧
    ∀ a ∈ window, ∀ b ∈ window, (floatSub b.2 a.2).le timeframeSize = true

/-- The errors at the positions `entry` and `entry + errorThreshold` lie within the
timeframe. -/
def EntryHit (entry : ℕ) : Prop :=
  ∃ start stop, errorData[entry]? = some start ∧
    errorData[entry + errorThreshold]? = some stop ∧
    (floatSub stop.2 start.2).le timeframeSize = true

/-- Two errors at consecutive multiples of the threshold lie within the timeframe. -/
def StrideHit : Prop :=
  0 < errorThreshold ∧ ∃ i, EntryHit errorData timeframeSize errorThreshold (i * errorThreshold)

/-- The test returns, and it returns `True` exactly if there is a burst. -/
def ThresholdDetected : Prop :=
  ∃ reached, determineSmtpErrorThresholdReached errorData timeframeSize errorThreshold =
      .ok reached ∧
    (reached = true ↔ HasBurst errorData timeframeSize errorThreshold)

end

section
variable {errorData : ErrorData} {timeframeSize : PyFloat} {errorThreshold : ℕ}

/-- The loop over increasing entries ends with the first hit: the entries before it can be
read. -/
theorem windowsReached_of_hit {entries : List ℕ} (hsorted : entries.Pairwise (· < ·))
    {entry : ℕ} (hentry : entry ∈ entries)
    (hhit : EntryHit errorData timeframeSize errorThreshold entry) :
    windowsReached errorData timeframeSize errorThreshold entries = .ok true := by
  induction entries with
  | nil => cases hentry
  | cons first entries ih =>
      rw [List.pairwise_cons] at hsorted
      rcases List.mem_cons.mp hentry with rfl | hlater
      · obtain ⟨start, stop, hstart, hstop, hspan⟩ := hhit
        rw [windowsReached, hstart, hstop]
        exact if_pos hspan
      · -- the first entry is before the hit, so both errors are there
        obtain ⟨_, _, _, hstop, _⟩ := hhit
        obtain ⟨hlength, _⟩ := List.getElem?_eq_some_iff.mp hstop
        have hfirst := hsorted.1 entry hlater
        rw [windowsReached, List.getElem?_eq_getElem (by omega),
          List.getElem?_eq_getElem (by omega)]
        dsimp only
        split
        · rfl
        · exact ih hsorted.2 hlater

/-- Without a hit, the loop raises when it comes to an entry that has no error behind it. -/
theorem windowsReached_of_miss {entries : List ℕ}
    (hmiss : ∀ entry ∈ entries, ¬ EntryHit errorData timeframeSize errorThreshold entry)
    {last : ℕ} (hlast : last ∈ entries) (hpast : errorData.length ≤ last + errorThreshold) :
    windowsReached errorData timeframeSize errorThreshold entries = .error .indexError := by
  induction entries with
  | nil => cases hlast
  | cons first entries ih =>
      rw [windowsReached]
      split
      · rename_i start stop hstart hstop
        have hspan : ¬ (floatSub stop.2 start.2).le timeframeSize = true := fun hspan =>
          hmiss first (List.mem_cons_self ..) ⟨start, stop, hstart, hstop, hspan⟩
        rw [if_neg hspan]
        have hlater : last ∈ entries := by
          rcases List.mem_cons.mp hlast with rfl | hlater
          · rw [List.getElem?_eq_none hpast] at hstop
            cases hstop
          · exact hlater
        exact ih (fun entry hentry => hmiss entry (List.mem_cons_of_mem _ hentry)) hlater
      · rfl

/-- The entries of the loop: the multiples of the threshold below the length. -/
theorem mem_entries_iff {entry : ℕ} :
    entry ∈ (List.range errorData.length).filter (fun entry => entry % errorThreshold = 0) ↔
      entry < errorData.length ∧ errorThreshold ∣ entry := by
  rw [List.mem_filter, List.mem_range, decide_eq_true_eq, Nat.dvd_iff_mod_eq_zero]

/-- Above the threshold the first two errors can be read, and the loop is entered. -/
theorem determine_of_gt (hpos : 0 < errorThreshold)
    (hlength : errorThreshold < errorData.length) :
    determineSmtpErrorThresholdReached errorData timeframeSize errorThreshold =
      windowsReached errorData timeframeSize errorThreshold
        ((List.range errorData.length).filter fun entry => entry % errorThreshold = 0) := by
  rw [determineSmtpErrorThresholdReached, if_neg (by omega),
    List.getElem?_eq_getElem (by omega), List.getElem?_eq_getElem hlength]
  exact if_neg (by omega)

/-- A hit makes the test return `True`. -/
theorem determine_of_strideHit
    (hhit : StrideHit errorData timeframeSize errorThreshold) :
    determineSmtpErrorThresholdReached errorData timeframeSize errorThreshold = .ok true := by
  obtain ⟨hpos, i, hhit⟩ := hhit
  have hentry := hhit
  obtain ⟨_, _, hstart, hstop, _⟩ := hentry
  obtain ⟨hread, _⟩ := List.getElem?_eq_some_iff.mp hstart
  obtain ⟨hlength, _⟩ := List.getElem?_eq_some_iff.mp hstop
  rw [determine_of_gt hpos (by omega)]
  refine windowsReached_of_hit (List.pairwise_lt_range.filter _) ?_ hhit
  exact mem_entries_iff.mpr ⟨hread, Nat.dvd_mul_left _ _⟩

/-- Without a hit the test raises, once the threshold is reached. -/
theorem determine_of_not_strideHit (hlength : errorThreshold ≤ errorData.length)
    (hmiss : ¬ StrideHit errorData timeframeSize errorThreshold) :
    ∃ exn, determineSmtpErrorThresholdReached errorData timeframeSize errorThreshold =
      .error exn := by
  rcases Nat.eq_zero_or_pos errorThreshold with rfl | hpos
  · -- the first error is missing, or `range` is asked for steps of zero
    rw [determineSmtpErrorThresholdReached, if_neg (by omega)]
    split
    · exact ⟨.valueError, if_pos rfl⟩
    · exact ⟨.indexError, rfl⟩
  rcases Nat.eq_or_lt_of_le hlength with heq | hgt
  · exact determine_of_eq (by omega)
  · refine ⟨.indexError, ?_⟩
    rw [determine_of_gt hpos hgt]
    have hdiv := Nat.div_add_mod (errorData.length - 1) errorThreshold
    have hmod := Nat.mod_lt (errorData.length - 1) hpos
    have hlast : errorThreshold * ((errorData.length - 1) / errorThreshold) ∈
        (List.range errorData.length).filter fun entry => entry % errorThreshold = 0 :=
      mem_entries_iff.mpr ⟨by omega, Nat.dvd_mul_right _ _⟩
    refine windowsReached_of_miss (fun entry hentry hhit => ?_) hlast (by omega)
    obtain ⟨i, rfl⟩ := (mem_entries_iff.mp hentry).2
    rw [Nat.mul_comm] at hhit
    exact hmiss ⟨hpos, i, hhit⟩

/-- A hit is a burst: the errors between two errors lie between their times. -/
theorem hasBurst_of_entryHit (hordered : errorData.Pairwise fun a b => a.2 ≤ b.2)
    (hpos : 0 < errorThreshold) {entry : ℕ}
    (hhit : EntryHit errorData timeframeSize errorThreshold entry) :
    HasBurst errorData timeframeSize errorThreshold := by
  obtain ⟨start, stop, hstart, hstop, hspan⟩ := hhit
  obtain ⟨hread, hstart⟩ := List.getElem?_eq_some_iff.mp hstart
  obtain ⟨hlength, hstop⟩ := List.getElem?_eq_some_iff.mp hstop
  obtain ⟨k, rfl⟩ := Nat.exists_eq_succ_of_ne_zero (Nat.pos_iff_ne_zero.mp hpos)
  -- the window begins with the first of the two errors, and the second one comes behind it
  have hwindow : (errorData.drop entry).take (k + 1) =
      start :: (errorData.drop (entry + 1)).take k := by
    rw [List.drop_eq_getElem_cons hread, hstart, List.take_succ_cons]
  have hback : (errorData.drop entry).drop (k + 1) =
      stop :: errorData.drop (entry + (k + 1) + 1) := by
    rw [List.drop_drop, List.drop_eq_getElem_cons hlength, hstop]
  have hsplit : errorData = errorData.take entry ++ (errorData.drop entry).take (k + 1) ++
      (errorData.drop entry).drop (k + 1) := by
    rw [List.append_assoc, List.take_append_drop, List.take_append_drop]
  refine ⟨_, _, _, hsplit, ?_, ?_⟩
  · rw [List.length_take, List.length_drop]
    omega
  · intro a ha b hb
    rw [hsplit, List.append_assoc, List.pairwise_append] at hordered
    have hrest := (List.pairwise_append.mp hordered.2.1)
    have hstop_le : b.2 ≤ stop.2 := by
      refine hrest.2.2 b hb stop ?_
      rw [hback]
      exact List.mem_cons_self ..
    have hstart_le : start.2 ≤ a.2 := by
      have hfirst := hrest.1
      rw [hwindow, List.pairwise_cons] at hfirst
      rw [hwindow] at ha
      rcases List.mem_cons.mp ha with rfl | ha
      · exact le_refl _
      · exact hfirst.1 a ha
    exact floatSub_le_of_le hstart_le hstop_le hspan

/-- Fewer errors than the threshold have no window. -/
theorem not_hasBurst_of_lt (hlength : errorData.length < errorThreshold) :
    ¬ HasBurst errorData timeframeSize errorThreshold := by
  rintro ⟨front, window, back, rfl, hwindow, _⟩
  rw [List.length_append, List.length_append] at hlength
  omega

end

/-- For every list of errors in the order of their times, the test is right exactly if there
are fewer errors than the threshold, or two errors at consecutive multiples of the threshold
lie within the timeframe. -/
theorem thresholdDetected_iff (errorData : ErrorData) (timeframeSize : PyFloat)
    (errorThreshold : ℕ) (hordered : errorData.Pairwise fun a b => a.2 ≤ b.2) :
    ThresholdDetected errorData timeframeSize errorThreshold ↔
      errorData.length < errorThreshold ∨ StrideHit errorData timeframeSize errorThreshold := by
  constructor
  · rintro ⟨reached, hreached, _⟩
    by_contra hcondition
    push Not at hcondition
    obtain ⟨exn, hraised⟩ := determine_of_not_strideHit hcondition.1 hcondition.2
    rw [hraised] at hreached
    cases hreached
  · rintro (hlength | hhit)
    · exact ⟨false, determine_of_lt hlength,
        iff_of_false Bool.false_ne_true (not_hasBurst_of_lt hlength)⟩
    · obtain ⟨i, hentry⟩ := hhit.2
      exact ⟨true, determine_of_strideHit hhit,
        iff_of_true rfl (hasBurst_of_entryHit hordered hhit.1 hentry)⟩

/-- Two errors at the times 0.3 and 10.3, as the floats are: they are more than ten apart,
and their difference as a float is ten. -/
def roundedErrors : ErrorData :=
  [(.timeout, 5404319552844595 / 2 ^ 54), (.timeout, 2899192260119757 / 2 ^ 48)]

/-- With a threshold of one the two are a hit for a timeframe of ten. -/
theorem thresholdDetected_roundedErrors : ThresholdDetected roundedErrors (.finite 10) 1 := by
  refine (thresholdDetected_iff roundedErrors (.finite 10) 1 (by decide +kernel)).mpr (.inr ?_)
  exact ⟨by decide, 0, _, _, rfl, rfl, by decide +kernel⟩

/-- Three errors within a timeframe of ten, and a fourth one much later. -/
def quickErrors : ErrorData := [(.timeout, 0), (.timeout, 1), (.timeout, 2), (.timeout, 100)]

/-- The errors are in the order of their times, and with a threshold of three their burst is
not seen: the test raises. -/
theorem quickErrors_not_detected :
    (quickErrors.Pairwise fun a b => a.2 ≤ b.2) ∧
      ¬ ThresholdDetected quickErrors (.finite 10) 3 := by
  refine ⟨by decide, ?_⟩
  rintro ⟨reached, hreached, _⟩
  have hraised : determineSmtpErrorThresholdReached quickErrors (.finite 10) 3 =
      .error .indexError := by
    decide +kernel
  rw [hraised] at hreached
  cases hreached

section Sending

variable {config : EmailWorkerConfig} {outcomes : ℕ → ℕ → SendOutcome} {clock : ℕ → Rat}
  {events : List StreamedEvent}

/-- `True` comes of a hit. -/
theorem strideHit_of_determine {errorData : ErrorData} {timeframeSize : PyFloat}
    {errorThreshold : ℕ}
    (h : determineSmtpErrorThresholdReached errorData timeframeSize errorThreshold = .ok true) :
    StrideHit errorData timeframeSize errorThreshold := by
  by_contra hmiss
  rcases lt_or_ge errorData.length errorThreshold with hlength | hlength
  · rw [determine_of_lt hlength] at h
    cases h
  · obtain ⟨exn, hraised⟩ := determine_of_not_strideHit hlength hmiss
    rw [hraised] at h
    cases h

/-- `False` comes of fewer errors than the threshold. -/
theorem lt_of_determine {errorData : ErrorData} {timeframeSize : PyFloat} {errorThreshold : ℕ}
    (h : determineSmtpErrorThresholdReached errorData timeframeSize errorThreshold =
      .ok false) : errorData.length < errorThreshold := by
  by_contra hlength
  by_cases hhit : StrideHit errorData timeframeSize errorThreshold
  · rw [determine_of_strideHit hhit] at h
    cases h
  · obtain ⟨exn, hraised⟩ := determine_of_not_strideHit (not_lt.mp hlength) hhit
    rw [hraised] at h
    cases h

/-- A hit stays one while errors are added. -/
theorem StrideHit.append {errorData : ErrorData} {timeframeSize : PyFloat} {errorThreshold : ℕ}
    (h : StrideHit errorData timeframeSize errorThreshold) (more : ErrorData) :
    StrideHit (errorData ++ more) timeframeSize errorThreshold := by
  obtain ⟨hpos, i, start, stop, hstart, hstop, hspan⟩ := h
  have hread : ∀ {k : ℕ} {error : SmtpError × Rat}, errorData[k]? = some error →
      (errorData ++ more)[k]? = some error := by
    intro k error hk
    rw [List.getElem?_append_left (List.getElem?_eq_some_iff.mp hk).1]
    exact hk
  exact ⟨hpos, i, start, stop, hread hstart, hread hstop, hspan⟩

/-- The loop only adds to the errors. -/
theorem sendingLoop_noted_prefix (rounds : ℕ) (s : SendState) :
    s.smtpErrorData <+:
      (sendingLoop config outcomes clock events rounds s).2.smtpErrorData := by
  induction rounds generalizing s with
  | zero => exact List.prefix_rfl
  | succ rounds ih =>
      rw [sendingLoop]
      split
      · exact List.prefix_rfl
      · dsimp only
        split
        · exact List.prefix_rfl
        · split
          · exact List.prefix_rfl
          · rename_i next _
            exact ih { s.called _ _ with
              i := s.i + 1
              successfulSends := s.successfulSends ++ [next] }
        · rename_i error _
          split
          · exact List.prefix_append _ _
          · exact (List.prefix_append _ _).trans (ih { s.called _ _ with
              smtpErrorData := s.smtpErrorData ++ [(error, clock s.calls)] })

/-- With a round more than there are events left and errors missing to the threshold, the
loop has ended or met a hit. -/
theorem sendingLoop_running (rounds : ℕ) (s : SendState)
    (hrounds : events.length - s.i +
      (max 1 config.maximumSmtpRefreshes - s.smtpErrorData.length) < rounds)
    (hrunning : (sendingLoop config outcomes clock events rounds s).1 = .running) :
    StrideHit (sendingLoop config outcomes clock events rounds s).2.smtpErrorData
      (.finite config.smtpNetworkErrorWindow) config.maximumSmtpRefreshes := by
  induction rounds generalizing s with
  | zero => exact absurd hrounds (Nat.not_lt_zero _)
  | succ rounds ih =>
      rw [sendingLoop] at hrunning ⊢
      cases hevent : events[s.i]? with
      | none =>
          rw [hevent] at hrunning
          cases hrunning
      | some event =>
          have hi : s.i < events.length := (List.getElem?_eq_some_iff.mp hevent).1
          rw [hevent] at hrunning
          dsimp only at hrunning ⊢
          cases hanswer : (sendEmail config.maxRetries (outcomes s.calls)).answer with
          | error exn =>
              rw [hanswer] at hrunning
              cases hrunning
          | ok answer =>
              rw [hanswer] at hrunning
              cases answer with
              | none =>
                  dsimp only at hrunning ⊢
                  cases hnext : events[s.i + 1]? with
                  | none =>
                      rw [hnext] at hrunning
                      cases hrunning
                  | some next =>
                      rw [hnext] at hrunning
                      refine ih _ ?_ hrunning
                      simp only [SendState.called]
                      omega
              | some error =>
                  dsimp only [SendState.called] at hrunning ⊢
                  generalize htest : determineSmtpErrorThresholdReached
                    (s.smtpErrorData ++ [(error, clock s.calls)])
                    (.finite config.smtpNetworkErrorWindow) config.maximumSmtpRefreshes = test
                    at hrunning ⊢
                  cases test with
                  | error exn => cases hrunning
                  | ok reached =>
                      cases reached with
                      | true =>
                          -- from a hit on there is one
                          obtain ⟨more, hmore⟩ := sendingLoop_noted_prefix rounds _
                          rw [← hmore]
                          exact (strideHit_of_determine htest).append more
                      | false =>
                          have hshort := lt_of_determine htest
                          refine ih _ ?_ hrunning
                          simp only [List.length_append, List.length_singleton] at hshort ⊢
                          omega

/-- `batch_send_emails` has ended after its rounds, or the errors that it has noted contain a
hit: then the test of the threshold stays `True`. -/
theorem batchSendEmails_running (smtpErrorData : ErrorData)
    (hrunning : (batchSendEmails config outcomes clock events smtpErrorData).1 = .running) :
    StrideHit (batchSendEmails config outcomes clock events smtpErrorData).2.smtpErrorData
      (.finite config.smtpNetworkErrorWindow) config.maximumSmtpRefreshes := by
  cases smtpErrorData with
  | nil =>
      -- without errors noted before it never runs on
      by_cases hne : events = []
      · rw [hne, batchSendEmails_nil] at hrunning
        cases hrunning
      · obtain ⟨exn, hraised⟩ : ∃ exn,
            (batchSendEmails config outcomes clock events []).1 = .raised exn :=
          batchSendEmails_raises hne
        rw [hraised] at hrunning
        cases hrunning
  | cons error smtpErrorData =>
      refine sendingLoop_running _ _ ?_ hrunning
      simp only [List.length_cons]
      omega

end Sending

end EmailWorker
end Tenjin
