import Tenjin.EmailWorker.Dispatcher

/-!
# What a batch of emails comes to

`batch_send_emails` of `outgoing.py` against its purpose: it returns the events whose emails
were sent, in their order, and sends none of them again.

* `SendInv` is what holds of the variables throughout: the emails that were delivered belong
  to events in front of the index, each at most once, and `successful_sends` holds the events
  one place behind theirs.
* `sendingLoop_inv` — every loop keeps it, however it ends; so no delivery is repeated.
* `sendingLoop_not_returned` — the loop does not return from an event of the batch.
* `batchComplete_iff` — the purpose is met exactly for a batch without events.
-/

namespace Tenjin
namespace EmailWorker

open ResourceAuxillary

section
variable (config : EmailWorkerConfig) (outcomes : ℕ → ℕ → SendOutcome) (clock : ℕ → Rat)
  (events : List StreamedEvent)

/-- The variables of `batch_send_emails` before the loop. -/
def SendState.start (smtpErrorData : ErrorData) : SendState := ⟨0, smtpErrorData, [], 0, [], []⟩

/-- `batch_send_emails` comes to its end and returns the events whose emails were delivered.
They are events of the batch in its order, and each of them was delivered once. -/
def BatchComplete (smtpErrorData : ErrorData) : Prop :=
  ∃ rounds s, sendingLoop config outcomes clock events rounds (.start smtpErrorData) =
      (.returned, s) ∧
    s.successfulSends = s.sent ∧ s.sent.Sublist events

/-- What holds of the variables. -/
structure SendInv (s : SendState) : Prop where
  sent : s.sent.Sublist (events.take s.i)
  successful : s.successfulSends = (events.drop 1).take s.i

end

section
variable {config : EmailWorkerConfig} {outcomes : ℕ → ℕ → SendOutcome} {clock : ℕ → Rat}
  {events : List StreamedEvent}

/-- After a delivery `None` is returned, so a call that returns an error or raises has not
delivered. -/
theorem sendEmail_not_delivered {attempts : ℕ} {outcome : ℕ → SendOutcome}
    (h : (sendEmail attempts outcome).answer ≠ .ok none) :
    (sendEmail attempts outcome).delivered = false := by
  unfold sendEmail at h ⊢
  cases attempts with
  | zero => exact absurd rfl h
  | succ remaining =>
      rw [ne_eq, sendLoop_answer] at h
      exact Bool.eq_false_iff.mpr h

theorem SendInv.start (events : List StreamedEvent) (smtpErrorData : ErrorData) :
    SendInv events (.start smtpErrorData) :=
  ⟨List.nil_sublist _, rfl⟩

/-- A call that has not delivered. -/
theorem SendInv.called {s : SendState} (h : SendInv events s) (event : StreamedEvent) :
    SendInv events (s.called event false) :=
  ⟨h.sent, h.successful⟩

/-- A call after which the loop moves on; the event behind is noted, if there is one. -/
theorem SendInv.advance {s : SendState} (h : SendInv events s) {event : StreamedEvent}
    (hevent : events[s.i]? = some event) (delivered : Bool) :
    SendInv events { s.called event delivered with
      i := s.i + 1
      successfulSends := s.successfulSends ++ events[s.i + 1]?.toList } := by
  refine ⟨?_, ?_⟩
  · show (s.called event delivered).sent.Sublist (events.take (s.i + 1))
    rw [List.take_add_one, hevent]
    cases delivered with
    | true => exact h.sent.append (.refl _)
    | false => exact h.sent.trans (List.sublist_append_left _ _)
  · show s.successfulSends ++ events[s.i + 1]?.toList = (events.drop 1).take (s.i + 1)
    rw [List.take_add_one, List.getElem?_drop, Nat.add_comm 1, h.successful]

/-- The loop keeps it. -/
theorem sendingLoop_inv (rounds : ℕ) {s : SendState} (h : SendInv events s) :
    SendInv events (sendingLoop config outcomes clock events rounds s).2 := by
  induction rounds generalizing s with
  | zero => exact h
  | succ rounds ih =>
      rw [sendingLoop]
      cases hevent : events[s.i]? with
      | none => exact h
      | some event =>
          dsimp only
          cases hanswer : (sendEmail config.maxRetries (outcomes s.calls)).answer with
          | error exn =>
              rw [sendEmail_not_delivered (by rw [hanswer]; exact fun h => by cases h)]
              exact h.called event
          | ok answer =>
              cases answer with
              | none =>
                  have hadvance := h.advance hevent
                    (sendEmail config.maxRetries (outcomes s.calls)).delivered
                  cases hnext : events[s.i + 1]? with
                  | none =>
                      rw [hnext, Option.toList_none, List.append_nil] at hadvance
                      exact hadvance
                  | some next =>
                      rw [hnext] at hadvance
                      exact ih hadvance
              | some error =>
                  have hnoted : SendInv events { s.called event false with
                      smtpErrorData := s.smtpErrorData ++ [(error, clock s.calls)] } :=
                    ⟨h.sent, h.successful⟩
                  dsimp only
                  rw [sendEmail_not_delivered (by rw [hanswer]; exact fun h => by cases h)]
                  split
                  · exact hnoted
                  · exact ih hnoted

/-- No email that was delivered is delivered again, however the loop ends. -/
theorem sendingLoop_sent_sublist (rounds : ℕ) (smtpErrorData : ErrorData) :
    (sendingLoop config outcomes clock events rounds (.start smtpErrorData)).2.sent.Sublist
      events :=
  (sendingLoop_inv rounds (.start events smtpErrorData)).sent.trans (List.take_sublist _ _)

/-- From an event of the batch on, the loop does not return: behind the last success it
reads past the end. -/
theorem sendingLoop_not_returned (rounds : ℕ) (s : SendState) (hi : s.i < events.length) :
    (sendingLoop config outcomes clock events rounds s).1 ≠ .returned := by
  induction rounds generalizing s with
  | zero => exact fun h => (by cases h)
  | succ rounds ih =>
      rw [sendingLoop, List.getElem?_eq_getElem hi]
      dsimp only
      split
      · exact fun h => (by cases h)
      · split
        · exact fun h => (by cases h)
        · rename_i next hnext
          exact ih _ (List.getElem?_eq_some_iff.mp hnext).1
      · split
        · exact fun h => (by cases h)
        · exact ih _ hi

end

/-- For every batch, every sequence of outcomes, every clock, every number of attempts and
every list of errors noted before: `batch_send_emails` comes to its end with the right
events exactly if there are no events. -/
theorem batchComplete_iff (config : EmailWorkerConfig) (outcomes : ℕ → ℕ → SendOutcome)
    (clock : ℕ → Rat) (events : List StreamedEvent) (smtpErrorData : ErrorData) :
    BatchComplete config outcomes clock events smtpErrorData ↔ events = [] := by
  constructor
  · rintro ⟨rounds, s, hreturned, _⟩
    by_contra hne
    have hnot : (sendingLoop config outcomes clock events rounds (.start smtpErrorData)).1 ≠
        .returned :=
      sendingLoop_not_returned rounds _ (List.length_pos_iff.mpr hne)
    rw [hreturned] at hnot
    exact hnot rfl
  · rintro rfl
    exact ⟨1, .start smtpErrorData, rfl, rfl, List.Sublist.refl _⟩

/-- One email that is delivered at once: the event behind it is read. -/
theorem registrationEmail_not_complete :
    ¬ BatchComplete ⟨2, 30, 2⟩ (fun _ _ => .delivered) (fun _ => 0) [registrationEmail] [] := by
  rintro ⟨rounds, s, hreturned, _⟩
  cases rounds with
  | zero => cases hreturned
  | succ rounds => cases hreturned

end EmailWorker
end Tenjin
