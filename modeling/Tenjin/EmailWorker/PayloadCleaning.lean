import Tenjin.EmailWorker.Dispatcher

/-!
# Which events are cleaned away

`clean_user_email_payloads` of `qos.py` against its purpose: the invalid events are moved to
the buffer, and the valid ones stay.

The events are popped from the list by their positions in the copy that is iterated.  Each
pop moves the events behind it one place to the front, so the first one takes the invalid
event and every later one an event further back.

* `CleanSplits` is the purpose.
* `cleanLoop_shifted` — after a pop, the last invalid event costs a valid one its place, or
  the loop raises.
* `cleanSplits_iff` — the purpose is met exactly with at most one invalid event.
-/

namespace Tenjin
namespace EmailWorker

open Python ResourceAuxillary

instance (event : StreamedEvent) : Decidable (ValidPayload event) :=
  match h : parseUserEmailPayload event with
  | .ok payload => isTrue ⟨payload, h⟩
  | .error e => isFalse fun ⟨payload, hpayload⟩ => by
      rw [h] at hpayload
      cases hpayload

/-- Nothing is raised, the valid events are left in their order, and the invalid ones have
been appended to the buffer in theirs. -/
def CleanSplits (events improperEventsBuffer : List StreamedEvent) : Prop :=
  cleanUserEmailPayloads events improperEventsBuffer =
    .ok (events.filter (fun event => ValidPayload event),
      improperEventsBuffer ++ events.filter fun event => ¬ ValidPayload event)

section
variable {copy events buffer left buffer' : List StreamedEvent} {event : StreamedEvent} {i : ℕ}

theorem cleanLoop_cons_of_valid (h : ValidPayload event) :
    cleanLoop i (event :: copy) events buffer = cleanLoop (i + 1) copy events buffer := by
  obtain ⟨payload, hpayload⟩ := h
  rw [cleanLoop, hpayload]

/-- An invalid event pops what is at its position by then. -/
theorem cleanLoop_cons_of_not_valid (h : ¬ ValidPayload event) :
    cleanLoop i (event :: copy) events buffer =
      match events[i]? with
      | none => .error .indexError
      | some popped => cleanLoop (i + 1) copy (events.eraseIdx i) (buffer ++ [popped]) := by
  rw [cleanLoop]
  cases hparse : parseUserEmailPayload event with
  | ok payload => exact absurd ⟨payload, hparse⟩ h
  | error e => rfl

/-- The loop passes over valid events. -/
theorem cleanLoop_append_of_valid {front : List StreamedEvent}
    (h : ∀ event ∈ front, ValidPayload event) :
    cleanLoop i (front ++ copy) events buffer =
      cleanLoop (i + front.length) copy events buffer := by
  induction front generalizing i with
  | nil => rfl
  | cons event front ih =>
      rw [List.cons_append, cleanLoop_cons_of_valid (h event (List.mem_cons_self ..)),
        ih fun other hother => h other (List.mem_cons_of_mem _ hother), List.length_cons]
      congr 1
      omega

/-- What is behind a position of a list in which this position has been popped. -/
theorem drop_eraseIdx (h : i < events.length) :
    (events.eraseIdx i).drop (i + 1) = events.drop (i + 2) := by
  have hlength : (events.take i).length = i := List.length_take_of_le (Nat.le_of_lt h)
  rw [List.eraseIdx_eq_take_drop_succ, List.drop_append, hlength, List.drop_drop,
    List.drop_of_length_le (by omega), List.nil_append]
  congr 1
  omega

/-- The events behind the current position are ahead of the copy by as many places as events
have been popped; with at least one of them, the last invalid event pops a valid one. -/
theorem cleanLoop_shifted {shift : ℕ} (hshift : 1 ≤ shift)
    (hdrop : events.drop i = copy.drop shift) (hbad : ∃ event ∈ copy, ¬ ValidPayload event)
    (h : cleanLoop i copy events buffer = .ok (left, buffer')) :
    ∃ popped, buffer' = buffer ++ popped ∧ ∃ event ∈ popped, ValidPayload event := by
  induction copy generalizing i events buffer shift with
  | nil =>
      obtain ⟨_, hmem, _⟩ := hbad
      cases hmem
  | cons event copy ih =>
      obtain ⟨before, rfl⟩ := Nat.exists_eq_add_of_le' hshift
      rw [List.drop_succ_cons] at hdrop
      by_cases hvalid : ValidPayload event
      · rw [cleanLoop_cons_of_valid hvalid] at h
        refine ih hshift ?_ ?_ h
        · rw [← List.drop_drop, hdrop, List.drop_drop]
        · obtain ⟨other, hother, hinvalid⟩ := hbad
          rcases List.mem_cons.mp hother with rfl | hother
          · exact absurd hvalid hinvalid
          · exact ⟨other, hother, hinvalid⟩
      · rw [cleanLoop_cons_of_not_valid hvalid] at h
        split at h
        · cases h
        · rename_i popped hpopped
          obtain ⟨hindex, hat⟩ := List.getElem?_eq_some_iff.mp hpopped
          by_cases hmore : ∃ other ∈ copy, ¬ ValidPayload other
          · -- there will be another pop
            have hahead : (events.eraseIdx i).drop (i + 1) = copy.drop (before + 2) := by
              rw [drop_eraseIdx hindex, ← List.drop_drop, hdrop, List.drop_drop]
            obtain ⟨later, rfl, other, hother, hothervalid⟩ := ih (by omega) hahead hmore h
            exact ⟨popped :: later, by simp, other, List.mem_cons_of_mem _ hother, hothervalid⟩
          · -- this was the last pop, and it took an event behind all invalid ones
            push Not at hmore
            rw [cleanLoop_of_valid hmore] at h
            cases h
            refine ⟨[popped], rfl, popped, List.mem_cons_self .., hmore popped ?_⟩
            have hfirst : popped ∈ events.drop i := by
              rw [List.drop_eq_getElem_cons hindex, hat]
              exact List.mem_cons_self ..
            rw [hdrop] at hfirst
            exact List.mem_of_mem_drop hfirst

theorem filter_of_valid (h : ∀ event ∈ events, ValidPayload event) :
    events.filter (fun event => ValidPayload event) = events ∧
      events.filter (fun event => ¬ ValidPayload event) = [] := by
  constructor
  · simpa [List.filter_eq_self] using h
  · simpa [List.filter_eq_nil_iff] using h

/-- The first invalid event of a list that is not clean. -/
theorem exists_first_invalid (h : ∃ event ∈ events, ¬ ValidPayload event) :
    ∃ front event rest, events = front ++ event :: rest ∧
      (∀ other ∈ front, ValidPayload other) ∧ ¬ ValidPayload event := by
  obtain ⟨bad, hbad, hinvalid⟩ := h
  obtain ⟨event, hfound⟩ := Option.isSome_iff_exists.mp
    (List.find?_isSome (p := fun event => ¬ ValidPayload event)
      |>.mpr ⟨bad, hbad, by simpa using hinvalid⟩)
  obtain ⟨hevent, front, rest, heq, hfront⟩ := List.find?_eq_some_iff_append.mp hfound
  exact ⟨front, event, rest, heq, by simpa using hfront, by simpa using hevent⟩

/-- For the first invalid event, the event itself is popped. -/
theorem clean_first_invalid {front rest : List StreamedEvent}
    (hfront : ∀ other ∈ front, ValidPayload other) (hevent : ¬ ValidPayload event)
    (buffer : List StreamedEvent) :
    cleanUserEmailPayloads (front ++ event :: rest) buffer =
      cleanLoop (front.length + 1) rest (front ++ rest) (buffer ++ [event]) := by
  have hpop : (front ++ event :: rest)[front.length]? = some event := by simp
  have herase : (front ++ event :: rest).eraseIdx front.length = front ++ rest := by
    rw [List.eraseIdx_append_of_length_le (Nat.le_refl _), Nat.sub_self]
    rfl
  rw [cleanUserEmailPayloads, cleanLoop_append_of_valid hfront, Nat.zero_add,
    cleanLoop_cons_of_not_valid hevent, hpop]
  dsimp only
  rw [herase]

end

/-- Cleaning meets its purpose, for every list of events and every buffer, exactly if at most
one of the events is invalid. -/
theorem cleanSplits_iff (events improperEventsBuffer : List StreamedEvent) :
    CleanSplits events improperEventsBuffer ↔
      (events.filter fun event => ¬ ValidPayload event).length ≤ 1 := by
  unfold CleanSplits
  by_cases hall : ∀ event ∈ events, ValidPayload event
  · rw [cleanUserEmailPayloads, cleanLoop_of_valid hall, (filter_of_valid hall).1,
      (filter_of_valid hall).2, List.append_nil]
    exact iff_of_true rfl (Nat.zero_le _)
  push Not at hall
  obtain ⟨front, event, rest, rfl, hfront, hevent⟩ := exists_first_invalid hall
  rw [clean_first_invalid hfront hevent, List.filter_append, List.filter_append,
    (filter_of_valid hfront).1, (filter_of_valid hfront).2,
    List.filter_cons_of_neg (by simpa using hevent),
    List.filter_cons_of_pos (by simpa using hevent), List.nil_append, List.length_cons]
  by_cases hmore : ∃ other ∈ rest, ¬ ValidPayload other
  · refine iff_of_false (fun hsplits => ?_) ?_
    · -- the buffer would hold a valid event
      have hahead : (front ++ rest).drop (front.length + 1) = rest.drop 1 := by
        rw [← List.drop_drop, List.drop_left]
      obtain ⟨popped, hbuffer, other, hother, hvalid⟩ :=
        cleanLoop_shifted (Nat.le_refl 1) hahead hmore hsplits
      rw [List.append_assoc, List.append_cancel_left_eq, List.singleton_append,
        List.cons_inj_right] at hbuffer
      rw [← hbuffer] at hother
      simp [hvalid] at hother
    · obtain ⟨other, hother, hinvalid⟩ := hmore
      have hpos : 0 < (rest.filter fun event => ¬ ValidPayload event).length :=
        List.length_pos_of_mem (List.mem_filter.mpr ⟨hother, by simpa using hinvalid⟩)
      omega
  · push Not at hmore
    rw [cleanLoop_of_valid hmore, (filter_of_valid hmore).1, (filter_of_valid hmore).2]
    exact iff_of_true rfl (Nat.le_refl _)

/-- An email without a recipient. -/
def namelessEmail : StreamedEvent := { registrationEmail with payload := [] }

/-- For the second invalid event the list is too short by then. -/
theorem namelessEmails_not_split :
    ¬ CleanSplits [namelessEmail, registrationEmail, namelessEmail] [] := by
  have hraised : cleanUserEmailPayloads [namelessEmail, registrationEmail, namelessEmail] [] =
      .error .indexError := rfl
  unfold CleanSplits
  rw [hraised]
  exact fun hsplits => (by cases hsplits)

end EmailWorker
end Tenjin
