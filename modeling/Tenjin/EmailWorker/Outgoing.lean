import Mathlib.Order.MinMax
import Tenjin.Python.Floats
import Tenjin.ResourceAuxillary.Events

/-!
# Sending a batch of emails

`send_email` and `batch_send_emails` of `outgoing.py`, with
`determine_smtp_error_threshold_reached` of `qos.py`.  What `send_message` does at each
attempt of each call is up to the environment; connecting works.

* `sendingLoop` is the loop of `batch_send_emails`.  It moves on after a success only.
* `sendingLoop_raises` — with fewer errors noted than the threshold the loop always ends
  with an exception: after the last success it reads past the end of the batch, and the
  error that reaches the threshold makes the test of the threshold read past its list.
* `sendingLoop_first` — when the first email of the batch is delivered at all.
-/

namespace Tenjin
namespace EmailWorker

open Python ResourceAuxillary

/-- The exceptions of the SMTP library, as far as the code tells them apart. -/
inductive SmtpError
  /-- `SMTPTimeoutError`, but not of a read. -/
  | timeout
  | readTimeout
  | serverDisconnected
  /-- Any other `SMTPException`. -/
  | other
  deriving DecidableEq

/-- A subclass of `SMTPTimeoutError`. -/
def SmtpError.isTimeout : SmtpError → Bool
  | .timeout => true
  | .readTimeout => true
  | _ => false

/-- A member of `UNSAFE_SMTP_NETWORK_ERRORS`. -/
def SmtpError.isUnsafe : SmtpError → Bool
  | .readTimeout => true
  | .serverDisconnected => true
  | _ => false

/-- What `send_message` does. -/
inductive SendOutcome
  | delivered
  | failed (error : SmtpError)
  /-- It raises something that is no `SMTPException`. -/
  | raised (exn : Exn)

/-- What a call of `send_email` returns or raises, and whether it has delivered. -/
structure SendAnswer where
  answer : Except Exn (Option SmtpError)
  delivered : Bool

/-- The loop of `send_email` from attempt `i` on. -/
def sendLoop (outcome : ℕ → SendOutcome) : (remaining i : ℕ) → SendAnswer
  | 0, _ => ⟨.ok none, false⟩
  | remaining + 1, i =>
      match outcome i with
      | .delivered => ⟨.ok none, true⟩
      | .failed error =>
          if error.isTimeout ∧ remaining ≠ 0 ∧ ¬ error.isUnsafe then
            sendLoop outcome remaining (i + 1)
          else ⟨.ok (some error), false⟩
      | .raised exn => ⟨.error exn, false⟩

/-- `send_email`.  Without attempts it returns `None`, as after a success. -/
def sendEmail (attempts : ℕ) (outcome : ℕ → SendOutcome) : SendAnswer :=
  sendLoop outcome attempts 1

/-- Errors with their times: floats, given by their values. -/
abbrev ErrorData := List (SmtpError × Rat)

/-- The loop over the windows of `determine_smtp_error_threshold_reached`. -/
def windowsReached (errorData : ErrorData) (timeframeSize : PyFloat) (errorThreshold : ℕ) :
    List ℕ → Except Exn Bool
  | [] => .ok false
  | entry :: entries =>
      match errorData[entry]?, errorData[entry + errorThreshold]? with
      | some start, some stop =>
          if (floatSub stop.2 start.2).le timeframeSize then .ok true
          else windowsReached errorData timeframeSize errorThreshold entries
      | _, _ => .error .indexError

/-- `determine_smtp_error_threshold_reached`. -/
def determineSmtpErrorThresholdReached (errorData : ErrorData) (timeframeSize : PyFloat)
    (errorThreshold : ℕ) : Except Exn Bool :=
  if errorData.length < errorThreshold then .ok false
  else
    match errorData[0]?, errorData[errorThreshold]? with
    | some _, some _ =>
        -- a step of zero is refused by `range`
        if errorThreshold = 0 then .error .valueError
        else
          windowsReached errorData timeframeSize errorThreshold
            ((List.range errorData.length).filter fun entry => entry % errorThreshold = 0)
    | _, _ => .error .indexError

/-- The settings of the worker that the dispatcher reads. -/
structure EmailWorkerConfig where
  maxRetries : ℕ
  smtpNetworkErrorWindow : ℕ
  maximumSmtpRefreshes : ℕ

/-- The variables of `batch_send_emails`, the number of calls of `send_email`, the events
that they were for and those of them that were delivered. -/
structure SendState where
  i : ℕ
  smtpErrorData : ErrorData
  successfulSends : List StreamedEvent
  calls : ℕ
  attempted : List StreamedEvent
  sent : List StreamedEvent

/-- How the loop of `batch_send_emails` ends; it may run on. -/
inductive SendingEnd
  | returned
  | raised (exn : Exn)
  | running

/-- A call of `send_email` for an event. -/
def SendState.called (s : SendState) (event : StreamedEvent) (delivered : Bool) : SendState :=
  { s with
    calls := s.calls + 1
    attempted := s.attempted ++ [event]
    sent := if delivered then s.sent ++ [event] else s.sent }

section Loop

variable (config : EmailWorkerConfig) (outcomes : ℕ → ℕ → SendOutcome) (clock : ℕ → Rat)
  (events : List StreamedEvent)

/-- The loop of `batch_send_emails`, for so many rounds at most. -/
def sendingLoop : ℕ → SendState → SendingEnd × SendState
  | 0, s => (.running, s)
  | rounds + 1, s =>
      match events[s.i]? with
      | none => (.returned, s)
      | some event =>
          let sending := sendEmail config.maxRetries (outcomes s.calls)
          let called := s.called event sending.delivered
          match sending.answer with
          | .error exn => (.raised exn, called)
          | .ok none =>
              -- `events[i]` is read after `i += 1`
              match events[s.i + 1]? with
              | none => (.raised .indexError, { called with i := s.i + 1 })
              | some next =>
                  sendingLoop rounds { called with
                    i := s.i + 1
                    successfulSends := s.successfulSends ++ [next] }
          | .ok (some error) =>
              let noted := { called with
                smtpErrorData := s.smtpErrorData ++ [(error, clock s.calls)] }
              match determineSmtpErrorThresholdReached noted.smtpErrorData
                  (.finite config.smtpNetworkErrorWindow) config.maximumSmtpRefreshes with
              | .error exn => (.raised exn, noted)
              | .ok _ => sendingLoop rounds noted

/-- `batch_send_emails`, for so many rounds: without errors noted before it has ended by
then.  Once the test of the threshold has come to `True` it stays so, and the loop can go on
for ever. -/
def batchSendEmails (smtpErrorData : ErrorData) : SendingEnd × SendState :=
  sendingLoop config outcomes clock events
    (events.length + max 1 config.maximumSmtpRefreshes + smtpErrorData.length)
    ⟨0, smtpErrorData, [], 0, [], []⟩

end Loop

/-- So many attempts from attempt `i` on come to one whose outcome is `P`: only plain
timeouts come before it. -/
def AttemptsReach (outcome : ℕ → SendOutcome) (remaining i : ℕ)
    (P : SendOutcome → Prop) : Prop :=
  ∃ a, i ≤ a ∧ a < i + remaining ∧ P (outcome a) ∧
    ∀ b, i ≤ b → b < a → outcome b = .failed .timeout

/-- One of the attempts of a call delivers. -/
def Delivers (attempts : ℕ) (outcome : ℕ → SendOutcome) : Prop :=
  AttemptsReach outcome attempts 1 fun result => result = .delivered

/-- One of the attempts of a call raises something that is no SMTP error. -/
def Raises (attempts : ℕ) (outcome : ℕ → SendOutcome) : Prop :=
  AttemptsReach outcome attempts 1 fun result => ∃ exn, result = .raised exn

/-- From call `first` on, no call delivers, up to one that raises and at most up to the
one whose error reaches the threshold. -/
def NeverDelivers (config : EmailWorkerConfig) (outcomes : ℕ → ℕ → SendOutcome)
    (first : ℕ) : Prop :=
  ∀ call, first ≤ call → call < max 1 config.maximumSmtpRefreshes →
    (∀ earlier, first ≤ earlier → earlier < call →
      ¬ Raises config.maxRetries (outcomes earlier)) →
    ¬ Delivers config.maxRetries (outcomes call)

section Attempts

variable {outcome : ℕ → SendOutcome} {P : SendOutcome → Prop}

theorem not_attemptsReach_zero {i : ℕ} : ¬ AttemptsReach outcome 0 i P := by
  rintro ⟨a, hlow, hhigh, _⟩
  exact absurd (Nat.lt_of_le_of_lt hlow hhigh) (Nat.lt_irrefl i)

theorem attemptsReach_succ {remaining i : ℕ} :
    AttemptsReach outcome (remaining + 1) i P ↔
      P (outcome i) ∨
        (outcome i = .failed .timeout ∧ AttemptsReach outcome remaining (i + 1) P) := by
  constructor
  · rintro ⟨a, hlow, hhigh, hresult, hbefore⟩
    rcases Nat.eq_or_lt_of_le hlow with rfl | hlater
    · exact .inl hresult
    · refine .inr ⟨hbefore i le_rfl hlater, a, hlater, by omega, hresult, ?_⟩
      intro b hb hba
      exact hbefore b (by omega) hba
  · rintro (hresult | ⟨hfirst, a, hlow, hhigh, hresult, hbefore⟩)
    · exact ⟨i, le_rfl, by omega, hresult, fun b hb hbi => absurd hb (by omega)⟩
    · refine ⟨a, by omega, by omega, hresult, fun b hb hba => ?_⟩
      rcases Nat.eq_or_lt_of_le hb with rfl | hlater
      · exact hfirst
      · exact hbefore b hlater hba

/-- After an error the loop tries again, which it does for plain timeouts only, or returns
the error. -/
theorem sendLoop_of_failed (remaining : ℕ) {i : ℕ} {error : SmtpError}
    (h : outcome i = .failed error) :
    (error = .timeout ∧
      sendLoop outcome (remaining + 1) i = sendLoop outcome remaining (i + 1)) ∨
    ((error = .timeout → remaining = 0) ∧
      sendLoop outcome (remaining + 1) i = ⟨.ok (some error), false⟩) := by
  simp only [sendLoop, h]
  split
  · rename_i hagain
    left
    obtain ⟨htimeout, _, hsafe⟩ := hagain
    cases error with
    | timeout => exact ⟨rfl, rfl⟩
    | readTimeout => simp [SmtpError.isUnsafe] at hsafe
    | serverDisconnected => simp [SmtpError.isTimeout] at htimeout
    | other => simp [SmtpError.isTimeout] at htimeout
  · rename_i hlast
    right
    refine ⟨?_, rfl⟩
    rintro rfl
    by_contra hne
    exact hlast ⟨rfl, hne, by simp [SmtpError.isUnsafe]⟩

/-- A property of answers that comes down to one of outcomes: the loop has it exactly if its
attempts come to such an outcome. -/
theorem sendLoop_reaches_iff {Q : SendAnswer → Prop} (hnone : ¬ Q ⟨.ok none, false⟩)
    (hdelivered : Q ⟨.ok none, true⟩ ↔ P .delivered)
    (hraised : ∀ exn, Q ⟨.error exn, false⟩ ↔ P (.raised exn))
    (hfailed : ∀ error, ¬ P (.failed error) ∧ ¬ Q ⟨.ok (some error), false⟩)
    (remaining i : ℕ) :
    Q (sendLoop outcome remaining i) ↔ AttemptsReach outcome remaining i P := by
  induction remaining generalizing i with
  | zero => exact iff_of_false hnone not_attemptsReach_zero
  | succ remaining ih =>
      rw [attemptsReach_succ]
      cases houtcome : outcome i with
      | delivered => simp [sendLoop, houtcome, hdelivered]
      | raised exn => simp [sendLoop, houtcome, hraised]
      | failed error =>
          rcases sendLoop_of_failed remaining houtcome with
            ⟨htimeout, hagain⟩ | ⟨hlast, hreturns⟩
          · rw [hagain, ih, htimeout]
            simp [(hfailed .timeout).1]
          · rw [hreturns]
            refine iff_of_false (hfailed error).2 ?_
            intro hreach
            obtain ⟨htimeout, hlater⟩ := hreach.resolve_left (hfailed error).1
            cases htimeout
            rw [hlast rfl] at hlater
            exact not_attemptsReach_zero hlater

/-- The loop delivers exactly if its attempts come to a delivery. -/
theorem sendLoop_delivered_iff (remaining i : ℕ) :
    (sendLoop outcome remaining i).delivered = true ↔
      AttemptsReach outcome remaining i fun result => result = .delivered :=
  sendLoop_reaches_iff (Q := fun run => run.delivered = true) (by simp) (by simp) (by simp)
    (by simp) remaining i

/-- The loop raises exactly if its attempts come to another exception. -/
theorem sendLoop_raises_iff (remaining i : ℕ) :
    (∃ exn, (sendLoop outcome remaining i).answer = .error exn) ↔
      AttemptsReach outcome remaining i fun result => ∃ exn, result = .raised exn :=
  sendLoop_reaches_iff (Q := fun run => ∃ exn, run.answer = .error exn) (by simp) (by simp)
    (by simp) (by simp) remaining i

/-- A call of at least one attempt returns `None` exactly after a delivery. -/
theorem sendLoop_answer (remaining i : ℕ) :
    (sendLoop outcome (remaining + 1) i).answer = .ok none ↔
      (sendLoop outcome (remaining + 1) i).delivered = true := by
  induction remaining generalizing i with
  | zero => cases houtcome : outcome i <;> simp [sendLoop, houtcome]
  | succ remaining ih =>
      rw [sendLoop]
      cases outcome i with
      | delivered => simp
      | raised exn => simp
      | failed error =>
          dsimp only
          split
          · exact ih (i + 1)
          · simp

/-- A call of at least one attempt delivers, returns an error or raises. -/
theorem sendEmail_cases {attempts : ℕ} (hattempts : 0 < attempts)
    (outcome : ℕ → SendOutcome) :
    (Delivers attempts outcome ∧ sendEmail attempts outcome = ⟨.ok none, true⟩) ∨
    (¬ Delivers attempts outcome ∧ ¬ Raises attempts outcome ∧
      ∃ error, sendEmail attempts outcome = ⟨.ok (some error), false⟩) ∨
    (¬ Delivers attempts outcome ∧ Raises attempts outcome ∧
      ∃ exn, sendEmail attempts outcome = ⟨.error exn, false⟩) := by
  obtain ⟨remaining, rfl⟩ := Nat.exists_eq_succ_of_ne_zero (Nat.pos_iff_ne_zero.mp hattempts)
  have hdelivers : (sendLoop outcome (remaining + 1) 1).delivered = true ↔ _ :=
    sendLoop_delivered_iff (remaining + 1) 1
  have hraises : (∃ exn, (sendLoop outcome (remaining + 1) 1).answer = .error exn) ↔ _ :=
    sendLoop_raises_iff (remaining + 1) 1
  have hreturns : (sendLoop outcome (remaining + 1) 1).answer = .ok none ↔ _ :=
    sendLoop_answer remaining 1
  unfold Delivers Raises sendEmail
  rw [← hdelivers, ← hraises]
  clear hdelivers hraises
  revert hreturns
  generalize sendLoop outcome (remaining + 1) 1 = sending
  obtain ⟨answer, delivered⟩ := sending
  intro hreturns
  dsimp only at hreturns ⊢
  cases delivered with
  | true =>
      left
      rw [hreturns.mpr rfl]
      exact ⟨rfl, rfl⟩
  | false =>
      right
      cases answer with
      | error exn => exact .inr ⟨by simp, ⟨exn, rfl⟩, exn, rfl⟩
      | ok answer =>
          cases answer with
          | none => exact absurd (hreturns.mp rfl) (by simp)
          | some error => exact .inl ⟨by simp, by simp, error, rfl⟩

end Attempts

section Threshold

variable {errorData : ErrorData} {timeframeSize : PyFloat} {errorThreshold : ℕ}

/-- Below the threshold nothing is read. -/
theorem determine_of_lt (h : errorData.length < errorThreshold) :
    determineSmtpErrorThresholdReached errorData timeframeSize errorThreshold = .ok false :=
  if_pos h

/-- The error that reaches the threshold makes the test fail: it reads past the list, or
asks `range` for steps of zero. -/
theorem determine_of_eq (h : errorData.length = max 1 errorThreshold) :
    ∃ exn, determineSmtpErrorThresholdReached errorData timeframeSize errorThreshold =
      .error exn := by
  unfold determineSmtpErrorThresholdReached
  have hreached : ¬ errorData.length < errorThreshold :=
    not_lt.mpr (h ▸ le_max_right 1 errorThreshold)
  rw [if_neg hreached]
  cases errorThreshold with
  | zero =>
      split
      · exact ⟨.valueError, if_pos rfl⟩
      · exact ⟨.indexError, rfl⟩
  | succ threshold =>
      have hpast : errorData[threshold + 1]? = none := by
        rw [List.getElem?_eq_none_iff, h]
        simp
      rw [hpast]
      split
      · rename_i hsome
        cases hsome
      · exact ⟨.indexError, rfl⟩

end Threshold

section Loops

variable {config : EmailWorkerConfig} {outcomes : ℕ → ℕ → SendOutcome} {clock : ℕ → Rat}
  {events : List StreamedEvent}

/-- An error that is noted ends the loop, or leaves it below the threshold. -/
theorem determine_noted {errorData : ErrorData} (config : EmailWorkerConfig)
    (h : errorData.length < max 1 config.maximumSmtpRefreshes) (error : SmtpError × Rat) :
    (∃ exn, determineSmtpErrorThresholdReached (errorData ++ [error])
        (.finite config.smtpNetworkErrorWindow) config.maximumSmtpRefreshes = .error exn ∧
      errorData.length + 1 = max 1 config.maximumSmtpRefreshes) ∨
    (determineSmtpErrorThresholdReached (errorData ++ [error])
        (.finite config.smtpNetworkErrorWindow) config.maximumSmtpRefreshes = .ok false ∧
      errorData.length + 1 < max 1 config.maximumSmtpRefreshes) := by
  have hlength : (errorData ++ [error]).length = errorData.length + 1 := List.length_append
  rcases Nat.eq_or_lt_of_le (Nat.succ_le_of_lt h) with hlast | hmore
  · obtain ⟨exn, hexn⟩ : ∃ exn, determineSmtpErrorThresholdReached (errorData ++ [error])
        (.finite config.smtpNetworkErrorWindow) config.maximumSmtpRefreshes = .error exn :=
      determine_of_eq (hlength.trans hlast)
    exact .inl ⟨exn, hexn, hlast⟩
  · right
    refine ⟨determine_of_lt ?_, hmore⟩
    rw [hlength]
    rcases lt_max_iff.mp hmore with hone | hthreshold
    · exact absurd hone (by omega)
    · exact hthreshold

/-- From an event of the batch on, and with fewer errors noted than the threshold, the loop
ends with an exception. -/
theorem sendingLoop_raises (rounds : ℕ) (s : SendState) (hi : s.i < events.length)
    (hshort : s.smtpErrorData.length < max 1 config.maximumSmtpRefreshes)
    (hrounds : events.length - s.i +
      (max 1 config.maximumSmtpRefreshes - s.smtpErrorData.length) ≤ rounds + 1) :
    ∃ exn, (sendingLoop config outcomes clock events rounds s).1 = .raised exn := by
  induction rounds generalizing s with
  | zero => exact absurd hrounds (by omega)
  | succ rounds ih =>
      rw [sendingLoop, List.getElem?_eq_getElem hi]
      dsimp only
      cases (sendEmail config.maxRetries (outcomes s.calls)).answer with
      | error exn => exact ⟨exn, rfl⟩
      | ok answer =>
          cases answer with
          | none =>
              cases hnext : events[s.i + 1]? with
              | none => exact ⟨.indexError, rfl⟩
              | some next =>
                  have hlater : s.i + 1 < events.length :=
                    (List.getElem?_eq_some_iff.mp hnext).1
                  exact ih _ hlater hshort (by
                    show events.length - (s.i + 1) + (_ - s.smtpErrorData.length) ≤ _
                    omega)
          | some error =>
              rcases determine_noted config hshort (error, clock s.calls) with
                ⟨exn, hexn, _⟩ | ⟨hok, hmore⟩
              · dsimp only [SendState.called]
                rw [hexn]
                exact ⟨exn, rfl⟩
              · dsimp only [SendState.called]
                rw [hok]
                refine ih _ hi ?_ ?_
                · simpa using hmore
                · simp only [List.length_append, List.length_singleton]
                  omega

/-- What was delivered stays delivered. -/
theorem sendingLoop_keeps_sent (rounds : ℕ) (s : SendState) {event : StreamedEvent}
    (h : event ∈ s.sent) :
    event ∈ (sendingLoop config outcomes clock events rounds s).2.sent := by
  induction rounds generalizing s with
  | zero => exact h
  | succ rounds ih =>
      have hcalled : ∀ other delivered, event ∈ (s.called other delivered).sent := by
        intro other delivered
        cases delivered with
        | true => exact List.mem_append_left _ h
        | false => exact h
      rw [sendingLoop]
      split
      · exact h
      · dsimp only
        split
        · exact hcalled _ _
        · split
          · exact hcalled _ _
          · exact ih _ (hcalled _ _)
        · split
          · exact hcalled _ _
          · exact ih _ (hcalled _ _)

/-- No call from `first` on delivers if that one does not, and if no later one does in case
that it does not raise. -/
theorem neverDelivers_step {first : ℕ} (h : first < max 1 config.maximumSmtpRefreshes) :
    NeverDelivers config outcomes first ↔
      ¬ Delivers config.maxRetries (outcomes first) ∧
        (¬ Raises config.maxRetries (outcomes first) →
          NeverDelivers config outcomes (first + 1)) := by
  constructor
  · intro hnever
    refine ⟨hnever first le_rfl h fun earlier hlow hhigh => absurd hlow (by omega), ?_⟩
    intro hcalm call hlow hhigh hearlier
    refine hnever call (by omega) hhigh fun earlier hfirst hbefore => ?_
    rcases Nat.eq_or_lt_of_le hfirst with rfl | hlater
    · exact hcalm
    · exact hearlier earlier hlater hbefore
  · rintro ⟨hfirst, hrest⟩ call hlow hhigh hearlier
    rcases Nat.eq_or_lt_of_le hlow with rfl | hlater
    · exact hfirst
    · exact hrest (hearlier first le_rfl hlater) call hlater hhigh
        fun earlier hbefore hcall => hearlier earlier (by omega) hcall

/-- While the first email has not been delivered: it is delivered in the end, or nothing
is, and then nothing else was tried. -/
theorem sendingLoop_first (hattempts : 0 < config.maxRetries) {event : StreamedEvent}
    (hevent : events[0]? = some event) (rounds : ℕ) (s : SendState) (hi : s.i = 0)
    (hcalls : s.smtpErrorData.length = s.calls)
    (hshort : s.calls < max 1 config.maximumSmtpRefreshes)
    (hrounds : max 1 config.maximumSmtpRefreshes - s.calls ≤ rounds) (hsent : s.sent = [])
    (htried : ∀ other ∈ s.attempted, other = event) :
    let ending := (sendingLoop config outcomes clock events rounds s).2
    (NeverDelivers config outcomes s.calls →
      ending.sent = [] ∧ event ∈ ending.attempted ∧ ∀ other ∈ ending.attempted, other = event) ∧
    (¬ NeverDelivers config outcomes s.calls → event ∈ ending.sent) := by
  induction rounds generalizing s with
  | zero => exact absurd hrounds (by omega)
  | succ rounds ih =>
      have hattempted : event ∈ s.attempted ++ [event] ∧
          ∀ other ∈ s.attempted ++ [event], other = event := by
        refine ⟨List.mem_append_right _ (List.mem_singleton_self _), fun other hother => ?_⟩
        rcases List.mem_append.mp hother with hold | hnew
        · exact htried other hold
        · exact List.mem_singleton.mp hnew
      rw [neverDelivers_step hshort, sendingLoop, hi, hevent]
      dsimp only
      rcases sendEmail_cases hattempts (outcomes s.calls) with
        ⟨hdelivers, hsending⟩ | ⟨hnot, hcalm, error, hsending⟩ | ⟨hnot, hraises, exn, hsending⟩
      · rw [hsending]
        dsimp only
        refine ⟨fun hnever => absurd hdelivers hnever.1, fun _ => ?_⟩
        have hmem : event ∈ (s.called event true).sent :=
          List.mem_append_right _ (List.mem_singleton_self _)
        split
        · exact hmem
        · exact sendingLoop_keeps_sent rounds _ hmem
      · rw [hsending]
        dsimp only
        rcases determine_noted config (hcalls ▸ hshort) (error, clock s.calls) with
          ⟨exn, hexn, hlast⟩ | ⟨hok, hmore⟩
        · -- the error reaches the threshold, so no later call is made
          rw [hexn]
          refine ⟨fun _ => ⟨hsent, hattempted⟩, fun hdelivers => absurd ?_ hdelivers⟩
          refine ⟨hnot, fun _ call hlow hhigh => ?_⟩
          rw [← hlast, hcalls] at hhigh
          exact absurd hlow (by omega)
        · rw [hok]
          have hnext := ih { s.called event false with
            smtpErrorData := s.smtpErrorData ++ [(error, clock s.calls)] } hi
            (by simp [SendState.called, hcalls]) (by simpa [SendState.called, hcalls] using hmore)
            (by simp only [SendState.called]; omega) hsent hattempted.2
          refine ⟨fun hnever => hnext.1 (hnever.2 hcalm), fun hdelivers => hnext.2 ?_⟩
          intro hlater
          exact hdelivers ⟨hnot, fun _ => hlater⟩
      · rw [hsending]
        dsimp only
        refine ⟨fun _ => ⟨hsent, hattempted⟩, fun hdelivers => absurd ?_ hdelivers⟩
        exact ⟨hnot, fun hcalm => absurd hraises hcalm⟩

/-- On a batch that is not empty, with no error noted, `batch_send_emails` raises. -/
theorem batchSendEmails_raises (hne : events ≠ []) :
    ∃ exn, (batchSendEmails config outcomes clock events []).1 = .raised exn := by
  refine sendingLoop_raises _ _ (List.length_pos_iff.mpr hne) ?_ ?_
  · exact lt_max_of_lt_left Nat.one_pos
  · simp only [List.length_nil]
    omega

/-- Without events it returns at once. -/
theorem batchSendEmails_nil (smtpErrorData : ErrorData) :
    batchSendEmails config outcomes clock [] smtpErrorData =
      (.returned, ⟨0, smtpErrorData, [], 0, [], []⟩) := by
  obtain ⟨rounds, hrounds⟩ := Nat.exists_eq_succ_of_ne_zero
    (Nat.pos_iff_ne_zero.mp (lt_max_of_lt_left Nat.one_pos) :
      max 1 config.maximumSmtpRefreshes ≠ 0)
  rw [batchSendEmails, List.length_nil, Nat.zero_add, hrounds, Nat.succ_add]
  rfl

/-- What it has delivered and tried by then. -/
theorem batchSendEmails_first (outcomes : ℕ → ℕ → SendOutcome) (clock : ℕ → Rat)
    (hattempts : 0 < config.maxRetries) (event : StreamedEvent) (rest : List StreamedEvent) :
    let ending := (batchSendEmails config outcomes clock (event :: rest) []).2
    (NeverDelivers config outcomes 0 →
      ending.sent = [] ∧ event ∈ ending.attempted ∧ ∀ other ∈ ending.attempted, other = event) ∧
    (¬ NeverDelivers config outcomes 0 → event ∈ ending.sent) := by
  refine sendingLoop_first hattempts rfl _ ⟨0, [], [], 0, [], []⟩ rfl rfl
    (lt_max_of_lt_left Nat.one_pos) ?_ rfl fun other h => ?_
  · simp only [List.length_cons]
    omega
  · cases h

end Loops

end EmailWorker
end Tenjin
