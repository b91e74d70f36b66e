import Mathlib.Data.List.Perm.Basic
import Mathlib.Data.List.Perm.Subperm
import Tenjin.DatabaseWorkers.Downstream

/-!
# The consumer of downstream decrements

`queue_downstream_decrement_consumer` of `consumer.py`: a paging loop inside a loop of
attempts, which share the offset and the variable for the exception.

* `selectAndEmitPage` is the body of the paging loop, `attemptLoop` the loop of attempts.
* A page that is not emitted is never selected again, and a page that is emitted is never
  selected again either: `attemptLoop_sublist`.
* The exception of a failed attempt stays in its variable, and an attempt that succeeds is
  followed by the next one: the event is acknowledged only if no operation of any attempt
  fails, `attemptLoop_exception_eq_none_iff`.
* `decrementsOnce_iff` — when the decrements are emitted exactly once, or the event is dead
  for a reason.
-/

namespace Tenjin
namespace DatabaseWorkers

open Python ResourceAuxillary

/-- A row that is selected: a foreign key and the number of children. -/
abbrev DeltaRow := String × ℕ

/-- The settings of the consumer. -/
structure DecrementSettings where
  maxRetries : ℕ
  /-- `DOWNSTREAM_COUNTER_BATCH_SIZE`. -/
  limit : ℕ
  maxRetries_pos : 0 < maxRetries
  limit_pos : 0 < limit

/-- What fails: for each selection its exception, if any, and for each call of the retrying
emission what its attempts answer. -/
structure FailurePlan where
  selection : ℕ → Option Exn
  emission : ℕ → ℕ → Except Exn Unit

/-- The variables of the consumer, how often it has selected and emitted, and the rows that
it has emitted. -/
structure ConsumeState where
  offset : ℕ
  exception : Option Exn
  selections : ℕ
  emissions : ℕ
  emitted : List DeltaRow

/-- At the start of an event. -/
def ConsumeState.initial : ConsumeState := ⟨0, none, 0, 0, []⟩

/-- How one round of the paging loop ends. -/
inductive PageEnd
  | more
  | finished
  | raised (e : Exn)

/-- What becomes of an event. -/
inductive Verdict
  | acknowledged
  | declaredDead
  | raised (e : Exn)
  deriving DecidableEq

section
variable (settings : DecrementSettings) (plan : FailurePlan) (rows : List DeltaRow)

/-- The rows of the page at the offset. -/
def pageAt (offset : ℕ) : List DeltaRow := (rows.drop offset).take settings.limit

/-- The answer of a retrying emission. -/
def emissionAnswer (n : ℕ) : Except Exn (Option Unit) :=
  executeWithRedisRetries settings.maxRetries (plan.emission n) none

/-- The body of `while results`.  The offset moves before the page is emitted. -/
def selectAndEmitPage (st : ConsumeState) : ConsumeState × PageEnd :=
  match plan.selection st.selections with
  | some e => ({ st with selections := st.selections + 1 }, .raised e)
  | none =>
      let results := pageAt settings rows st.offset
      let selected := { st with
        offset := st.offset + settings.limit
        selections := st.selections + 1
        emissions := st.emissions + 1 }
      match emissionAnswer settings plan st.emissions with
      | .error e => (selected, .raised e)
      | .ok _ =>
          ({ selected with emitted := st.emitted ++ results },
            if results = [] then .finished else .more)

theorem pageAt_eq_nil_iff (offset : ℕ) :
    pageAt settings rows offset = [] ↔ rows.length ≤ offset := by
  have hlimit := settings.limit_pos
  simp only [pageAt, List.take_eq_nil_iff, List.drop_eq_nil_iff]
  omega

/-- There are more pages only if the page was not empty. -/
theorem selectAndEmitPage_more {st st' : ConsumeState}
    (h : selectAndEmitPage settings plan rows st = (st', .more)) :
    st.offset < rows.length ∧ st'.offset = st.offset + settings.limit := by
  unfold selectAndEmitPage at h
  split at h
  · cases h
  · dsimp only at h
    split at h
    · cases h
    · split at h
      · cases h
      · rename_i hpage
        rw [pageAt_eq_nil_iff] at hpage
        cases h
        exact ⟨by omega, rfl⟩

/-- The paging loop of one attempt, with the exception that it raises. -/
def selectAndEmit (st : ConsumeState) : ConsumeState × Option Exn :=
  match _hround : selectAndEmitPage settings plan rows st with
  | (st', .more) => selectAndEmit st'
  | (st', .finished) => (st', none)
  | (st', .raised e) => (st', some e)
termination_by rows.length - st.offset
decreasing_by
  have hmore := selectAndEmitPage_more settings plan rows _hround
  have hlimit := settings.limit_pos
  omega

/-- The loop of attempts.  An attempt that succeeds does not leave it. -/
def attemptLoop : (remaining : ℕ) → ConsumeState → ConsumeState
  | 0, st => st
  | remaining + 1, st =>
      match selectAndEmit settings plan rows st with
      -- there is no `break`, and an older exception stays in its variable
      | (st', none) => attemptLoop remaining st'
      | (st', some e) =>
          if isPotentialTransientError e then
            -- the next attempt goes on at the offset of this one
            attemptLoop remaining { st' with exception := some e }
          else { st' with exception := some e }

/-- `queue_downstream_decrement_consumer` for one event: `eventPayload` is what its payload
is reconstructed to, `fresh` the answer of the deduplication, and `rows` are the rows that
the payload selects. -/
def queueDownstreamDecrementConsumer
    (eventPayload : Except Exn DownstreamCounterDecrementData) (fresh : Bool) :
    Verdict × List DeltaRow :=
  match eventPayload with
  | .error (.keyError _) => (.declaredDead, [])
  | .error .valueError => (.declaredDead, [])
  -- the `except` names a `KeyError` and a `ValueError` only
  | .error e => (.raised e, [])
  | .ok _ =>
      if fresh then
        let st := attemptLoop settings plan rows settings.maxRetries .initial
        (if st.exception.isSome then .declaredDead else .acknowledged, st.emitted)
      else (.acknowledged, [])

end

/-- The event is acknowledged exactly when every row has been emitted once; it is dead only
if a row is missing; and no row is emitted twice. -/
structure DecrementsOnce (rows : List DeltaRow) (outcome : Verdict × List DeltaRow) : Prop where
  acknowledged_iff : outcome.1 = .acknowledged ↔ outcome.2.Perm rows
  dead_only : outcome.1 = .declaredDead → ∃ row ∈ rows, outcome.2.count row < rows.count row
  none_twice : ∀ row, outcome.2.count row ≤ rows.count row

section
variable (settings : DecrementSettings) (plan : FailurePlan) (rows : List DeltaRow)

/-- The number of pages that hold rows. -/
def pageCount : ℕ := (rows.length + settings.limit - 1) / settings.limit

/-- The retrying emission succeeds. -/
def EmissionSucceeds (n : ℕ) : Prop := ∃ answer, emissionAnswer settings plan n = .ok answer

/-- The next `count` selections succeed, and as many emissions: an empty page is emitted too. -/
def AllSucceed (count selections emissions : ℕ) : Prop :=
  ∀ i < count, plan.selection (selections + i) = none ∧
    EmissionSucceeds settings plan (emissions + i)

/-- The next `pages` pages are selected and emitted: fewer selections fail on the way than
there are attempts left, all of them for a moment only, and the emission of every page
succeeds. -/
def PagesArrive (attempts pages selections emissions : ℕ) : Prop :=
  ∃ failures < attempts,
    (List.range' selections (pages + failures)).countP (plan.selection · = none) = pages ∧
    (∀ i ∈ List.range' selections (pages + failures), ∀ e, plan.selection i = some e →
      isPotentialTransientError e = true) ∧
    ∀ i < pages, EmissionSucceeds settings plan (emissions + i)

/-- Each page has been reached by as many emissions as pages before it. -/
def AtPage (st : ConsumeState) : Prop := st.offset = st.emissions * settings.limit

/-- The state after a page has been selected and emitted. -/
def ConsumeState.afterPage (st : ConsumeState) : ConsumeState where
  offset := st.offset + settings.limit
  exception := st.exception
  selections := st.selections + 1
  emissions := st.emissions + 1
  emitted := st.emitted ++ pageAt settings rows st.offset

end

section
variable {settings : DecrementSettings} {plan : FailurePlan} {rows : List DeltaRow}

/-- A page of rows begins at every multiple of the limit that the page count allows. -/
theorem mul_limit_lt_iff (n : ℕ) :
    n * settings.limit < rows.length ↔ n < pageCount settings rows := by
  have hlimit := settings.limit_pos
  unfold pageCount
  rw [Nat.lt_iff_add_one_le, Nat.lt_iff_add_one_le, Nat.le_div_iff_mul_le hlimit, Nat.add_mul,
    Nat.one_mul]
  omega

/-- The paging loop, one page at a time. -/
theorem selectAndEmit_page (st : ConsumeState) :
    selectAndEmit settings plan rows st =
      match selectAndEmitPage settings plan rows st with
      | (st', .more) => selectAndEmit settings plan rows st'
      | (st', .finished) => (st', none)
      | (st', .raised e) => (st', some e) := by
  rw [selectAndEmit]
  split <;> rename_i hround <;> rw [hround]

theorem AtPage.afterPage {st : ConsumeState} (h : AtPage settings st) :
    AtPage settings (st.afterPage settings rows) := by
  unfold AtPage at h ⊢
  simp [ConsumeState.afterPage, h, Nat.add_mul]

/-- The page is empty exactly when no page is left. -/
theorem AtPage.length_le_iff {st : ConsumeState} (h : AtPage settings st) :
    rows.length ≤ st.offset ↔ pageCount settings rows - st.emissions = 0 := by
  rw [h, ← Nat.not_lt, mul_limit_lt_iff]
  omega

/-- The loop of attempts, one page at a time. -/
theorem attemptLoop_page (remaining : ℕ) (st : ConsumeState) :
    attemptLoop settings plan rows (remaining + 1) st =
      match selectAndEmitPage settings plan rows st with
      | (st', .more) => attemptLoop settings plan rows (remaining + 1) st'
      | (st', .finished) => attemptLoop settings plan rows remaining st'
      | (st', .raised e) =>
          if isPotentialTransientError e then
            attemptLoop settings plan rows remaining { st' with exception := some e }
          else { st' with exception := some e } := by
  rw [attemptLoop, selectAndEmit_page]
  obtain ⟨st', outcome⟩ := selectAndEmitPage settings plan rows st
  cases outcome with
  | more => rfl
  | finished => rfl
  | raised e => rfl

/-- What every round and every assignment of the exception keep, the loop keeps. -/
theorem attemptLoop_preserves {I : ConsumeState → Prop}
    (hpage : ∀ st, I st → I (selectAndEmitPage settings plan rows st).1)
    (hexception : ∀ st e, I st → I { st with exception := some e })
    (remaining : ℕ) {st : ConsumeState} (h : I st) :
    I (attemptLoop settings plan rows remaining st) := by
  have hattempt : ∀ st, I st → I (selectAndEmit settings plan rows st).1 := by
    intro st
    induction st using selectAndEmit.induct settings plan rows with
    | case1 st st' hround ih =>
        intro h
        rw [selectAndEmit_page, hround]
        exact ih (by simpa [hround] using hpage st h)
    | case2 st st' hround =>
        intro h
        rw [selectAndEmit_page, hround]
        simpa [hround] using hpage st h
    | case3 st st' e hround =>
        intro h
        rw [selectAndEmit_page, hround]
        simpa [hround] using hpage st h
  induction remaining generalizing st with
  | zero => exact h
  | succ remaining ih =>
      have hst := hattempt st h
      rw [attemptLoop]
      split
      · rename_i st' hresult
        rw [hresult] at hst
        exact ih hst
      · rename_i st' e hresult
        rw [hresult] at hst
        split
        · exact ih (hexception _ e hst)
        · exact hexception _ e hst

variable (settings plan) in
/-- The emitted rows are among those that the offset has passed, in their order. -/
theorem attemptLoop_sublist (remaining : ℕ) {st : ConsumeState}
    (h : st.emitted.Sublist (rows.take st.offset)) :
    (attemptLoop settings plan rows remaining st).emitted.Sublist
      (rows.take (attemptLoop settings plan rows remaining st).offset) := by
  refine attemptLoop_preserves (I := fun st => st.emitted.Sublist (rows.take st.offset))
    (fun st hst => ?_) (fun st e hst => hst) remaining h
  have hpassed : rows.take (st.offset + settings.limit) =
      rows.take st.offset ++ pageAt settings rows st.offset := List.take_add
  unfold selectAndEmitPage
  split
  · exact hst
  · dsimp only
    split
    -- the page is passed without being emitted
    · exact hst.trans (hpassed ▸ List.sublist_append_left _ _)
    · rw [hpassed]
      exact hst.append (List.Sublist.refl _)

/-- Once a row has been passed without being emitted, not all of them will be. -/
theorem attemptLoop_lost (remaining : ℕ) {st : ConsumeState}
    (h : st.emitted.length < min st.offset rows.length) :
    (attemptLoop settings plan rows remaining st).emitted.length < rows.length := by
  suffices hlost : (attemptLoop settings plan rows remaining st).emitted.length <
      min (attemptLoop settings plan rows remaining st).offset rows.length by omega
  refine attemptLoop_preserves
    (I := fun st => st.emitted.length < min st.offset rows.length)
    (fun st hst => ?_) (fun st e hst => hst) remaining h
  unfold selectAndEmitPage
  split
  · exact hst
  · dsimp only
    split
    · dsimp only
      omega
    -- a page that is emitted adds no more rows than the offset moves
    · simp only [List.length_append, pageAt, List.length_take, List.length_drop]
      omega

/-- An exception stays in its variable. -/
theorem attemptLoop_exception (remaining : ℕ) {st : ConsumeState}
    (h : st.exception.isSome = true) :
    (attemptLoop settings plan rows remaining st).exception.isSome = true := by
  refine attemptLoop_preserves (I := fun st => st.exception.isSome = true)
    (fun st hst => ?_) (fun st e hst => rfl) remaining h
  unfold selectAndEmitPage
  split
  · exact hst
  · dsimp only
    split <;> exact hst

variable (settings plan rows) in
/-- The three ways through the body of the paging loop. -/
theorem selectAndEmitPage_cases (st : ConsumeState) :
    (∃ e, plan.selection st.selections = some e ∧
      selectAndEmitPage settings plan rows st =
        ({ st with selections := st.selections + 1 }, .raised e)) ∨
    (plan.selection st.selections = none ∧ ¬ EmissionSucceeds settings plan st.emissions ∧
      ∃ e, selectAndEmitPage settings plan rows st =
        ({ st with
            offset := st.offset + settings.limit
            selections := st.selections + 1
            emissions := st.emissions + 1 }, .raised e)) ∨
    (plan.selection st.selections = none ∧ EmissionSucceeds settings plan st.emissions ∧
      selectAndEmitPage settings plan rows st =
        (st.afterPage settings rows,
          if rows.length ≤ st.offset then .finished else .more)) := by
  unfold selectAndEmitPage EmissionSucceeds
  cases hselection : plan.selection st.selections with
  | some e => exact .inl ⟨e, rfl, rfl⟩
  | none =>
      cases hanswer : emissionAnswer settings plan st.emissions with
      | error e => exact .inr (.inl ⟨rfl, by simp, e, rfl⟩)
      | ok answer =>
          refine .inr (.inr ⟨rfl, ⟨answer, rfl⟩, ?_⟩)
          simp only [pageAt_eq_nil_iff, ConsumeState.afterPage]

/-- A round that raises leaves an exception for good. -/
theorem attemptLoop_raised {remaining : ℕ} {st st' : ConsumeState} {e : Exn}
    (hround : selectAndEmitPage settings plan rows st = (st', .raised e)) :
    (attemptLoop settings plan rows (remaining + 1) st).exception ≠ none := by
  rw [attemptLoop_page, hround]
  rw [← Option.isSome_iff_ne_none]
  dsimp only
  split
  · exact attemptLoop_exception _ rfl
  · rfl

/-- The next selection and the next emission succeed. -/
def NextSucceeds (settings : DecrementSettings) (plan : FailurePlan) (selections emissions : ℕ) :
    Prop :=
  plan.selection selections = none ∧ EmissionSucceeds settings plan emissions

theorem selectAndEmitPage_of_succeeds {st : ConsumeState}
    (h : NextSucceeds settings plan st.selections st.emissions) :
    selectAndEmitPage settings plan rows st =
      (st.afterPage settings rows, if rows.length ≤ st.offset then .finished else .more) := by
  rcases selectAndEmitPage_cases settings plan rows st with
    ⟨e, hselection, -⟩ | ⟨-, hemission, -⟩ | ⟨-, -, hround⟩
  · rw [h.1] at hselection
    cases hselection
  · exact absurd h.2 hemission
  · exact hround

theorem attemptLoop_of_not_succeeds {remaining : ℕ} {st : ConsumeState}
    (h : ¬ NextSucceeds settings plan st.selections st.emissions) :
    (attemptLoop settings plan rows (remaining + 1) st).exception ≠ none := by
  rcases selectAndEmitPage_cases settings plan rows st with
    ⟨e, -, hround⟩ | ⟨-, -, e, hround⟩ | ⟨hselection, hemission, -⟩
  · exact attemptLoop_raised hround
  · exact attemptLoop_raised hround
  · exact absurd ⟨hselection, hemission⟩ h

theorem allSucceed_succ (count selections emissions : ℕ) :
    AllSucceed settings plan (count + 1) selections emissions ↔
      NextSucceeds settings plan selections emissions ∧
        AllSucceed settings plan count (selections + 1) (emissions + 1) := by
  have hshift : ∀ n i : ℕ, n + 1 + i = n + (i + 1) := fun n i => by omega
  constructor
  · intro h
    refine ⟨h 0 (Nat.succ_pos _), fun i hi => ?_⟩
    rw [hshift, hshift]
    exact h (i + 1) (by omega)
  · rintro ⟨hhead, htail⟩ i hi
    cases i with
    | zero => exact hhead
    | succ i =>
        have hnext := htail i (by omega)
        rwa [hshift selections, hshift emissions] at hnext

variable (settings plan rows) in
/-- No exception is left exactly when everything succeeds: one selection and one emission
for each page that is left and for the end of each attempt. -/
theorem attemptLoop_exception_eq_none_iff (remaining : ℕ) {st : ConsumeState}
    (hnone : st.exception = none) (hpage : AtPage settings st)
    (hremaining : 0 < remaining ∨ pageCount settings rows - st.emissions = 0) :
    (attemptLoop settings plan rows remaining st).exception = none ↔
      AllSucceed settings plan (pageCount settings rows - st.emissions + remaining)
        st.selections st.emissions := by
  -- over the attempts, and in each attempt over the pages that are left
  induction remaining generalizing st with
  | zero =>
      have hdone : pageCount settings rows - st.emissions + 0 = 0 := by omega
      rw [hdone]
      exact iff_of_true hnone fun i hi => absurd hi (Nat.not_lt_zero i)
  | succ remaining ih =>
      induction hpages : pageCount settings rows - st.emissions generalizing st with
      | zero =>
          rw [Nat.zero_add, allSucceed_succ]
          by_cases hnext : NextSucceeds settings plan st.selections st.emissions
          · -- the page is empty, and the next attempt begins
            have hafter : (st.afterPage settings rows).exception = none := hnone
            have hleft : pageCount settings rows -
                (st.afterPage settings rows).emissions = 0 := by
              simp only [ConsumeState.afterPage]
              omega
            rw [and_iff_right hnext, attemptLoop_page, selectAndEmitPage_of_succeeds hnext,
              if_pos (hpage.length_le_iff.mpr hpages)]
            dsimp only
            rw [ih hafter hpage.afterPage (.inr hleft), hleft, Nat.zero_add]
            rfl
          · exact iff_of_false (attemptLoop_of_not_succeeds hnext) fun h => hnext h.1
      | succ pages ihpages =>
          rw [Nat.add_right_comm, allSucceed_succ]
          by_cases hnext : NextSucceeds settings plan st.selections st.emissions
          · -- a page with rows, and the attempt goes on
            have hafter : (st.afterPage settings rows).exception = none := hnone
            have hleft : pageCount settings rows -
                (st.afterPage settings rows).emissions = pages := by
              simp only [ConsumeState.afterPage]
              omega
            have hmore : ¬ rows.length ≤ st.offset := by
              rw [hpage.length_le_iff]
              omega
            rw [and_iff_right hnext, attemptLoop_page, selectAndEmitPage_of_succeeds hnext,
              if_neg hmore]
            dsimp only
            rw [ihpages hafter hpage.afterPage (.inl (Nat.succ_pos _)) hleft]
            rfl
          · exact iff_of_false (attemptLoop_of_not_succeeds hnext) fun h => hnext h.1

/-- When no page is left, all rows have been emitted and stay so. -/
theorem attemptLoop_complete (remaining : ℕ) {st : ConsumeState}
    (h : rows.Sublist st.emitted) :
    rows.Sublist (attemptLoop settings plan rows remaining st).emitted := by
  refine attemptLoop_preserves (I := fun st => rows.Sublist st.emitted)
    (fun st hst => ?_) (fun st e hst => hst) remaining h
  unfold selectAndEmitPage
  split
  · exact hst
  · dsimp only
    split
    · exact hst
    · exact hst.trans (List.sublist_append_left _ _)

section
variable {attempts pages selections emissions : ℕ}

/-- A selection that fails uses up an attempt. -/
theorem pagesArrive_of_failure {e : Exn} (h : plan.selection selections = some e)
    (htransient : isPotentialTransientError e = true) :
    PagesArrive settings plan (attempts + 1) (pages + 1) selections emissions ↔
      PagesArrive settings plan attempts (pages + 1) (selections + 1) emissions := by
  constructor
  · rintro ⟨failures, hfailures, hcount, htransients, hemissions⟩
    cases failures with
    | zero =>
        -- as many successes as selections, but the first one fails
        have hall := List.countP_eq_length.mp (hcount.trans List.length_range'.symm)
        have hfirst := hall selections (by simp)
        simp [h] at hfirst
    | succ failures =>
        rw [← Nat.add_assoc, List.range'_succ] at hcount htransients
        refine ⟨failures, by omega, ?_, fun i hi => ?_, hemissions⟩
        · simpa [h] using hcount
        · exact htransients i (List.mem_cons_of_mem _ hi)
  · rintro ⟨failures, hfailures, hcount, htransients, hemissions⟩
    refine ⟨failures + 1, by omega, ?_, ?_, hemissions⟩
    · rw [← Nat.add_assoc, List.range'_succ]
      simpa [h] using hcount
    · rw [← Nat.add_assoc, List.range'_succ]
      intro i hi e' he'
      rcases List.mem_cons.mp hi with rfl | hi
      · rw [h] at he'
        cases he'
        exact htransient
      · exact htransients i hi e' he'

/-- A page that is selected and emitted uses up nothing. -/
theorem pagesArrive_of_success (h : plan.selection selections = none)
    (hemission : EmissionSucceeds settings plan emissions) :
    PagesArrive settings plan attempts (pages + 1) selections emissions ↔
      PagesArrive settings plan attempts pages (selections + 1) (emissions + 1) := by
  have hshift : ∀ i : ℕ, emissions + (i + 1) = emissions + 1 + i := fun i => by omega
  refine exists_congr fun failures => and_congr_right fun _ => ?_
  rw [Nat.add_right_comm, List.range'_succ]
  refine and_congr ?_ (and_congr ?_ ?_)
  · simp [h]
  · constructor
    · intro hall i hi
      exact hall i (List.mem_cons_of_mem _ hi)
    · intro hall i hi e he
      rcases List.mem_cons.mp hi with rfl | hi
      · rw [h] at he
        cases he
      · exact hall i hi e he
  · constructor
    · intro hall i hi
      rw [← hshift]
      exact hall (i + 1) (by omega)
    · intro hall i hi
      cases i with
      | zero => exact hemission
      | succ i =>
          rw [hshift]
          exact hall i (by omega)

theorem not_pagesArrive_of_error {e : Exn} (h : plan.selection selections = some e)
    (hpermanent : ¬ isPotentialTransientError e = true) :
    ¬ PagesArrive settings plan attempts (pages + 1) selections emissions := by
  rintro ⟨failures, -, -, htransients, -⟩
  exact hpermanent (htransients selections (List.mem_range'_1.mpr (by omega)) e h)

theorem pagesArrive_zero : PagesArrive settings plan (attempts + 1) 0 selections emissions :=
  ⟨0, Nat.succ_pos _, rfl, by simp, fun i hi => absurd hi (Nat.not_lt_zero i)⟩

end

/-- While pages are left, rows are missing. -/
theorem AtPage.emitted_ne {st : ConsumeState} (hpage : AtPage settings st)
    (hemitted : st.emitted = rows.take st.offset)
    (hleft : 0 < pageCount settings rows - st.emissions) : st.emitted ≠ rows := by
  intro heq
  have hlt : ¬ rows.length ≤ st.offset := by
    rw [hpage.length_le_iff]
    omega
  have hlength := congrArg List.length (hemitted.symm.trans heq)
  rw [List.length_take] at hlength
  omega

/-- A page whose emission fails is lost. -/
theorem attemptLoop_emission_lost {remaining : ℕ} {st : ConsumeState} {e : Exn}
    (hpage : AtPage settings st) (hemitted : st.emitted = rows.take st.offset)
    (hleft : 0 < pageCount settings rows - st.emissions)
    (hround : selectAndEmitPage settings plan rows st =
      ({ st with
          offset := st.offset + settings.limit
          selections := st.selections + 1
          emissions := st.emissions + 1 }, .raised e)) :
    (attemptLoop settings plan rows (remaining + 1) st).emitted ≠ rows := by
  intro heq
  rw [attemptLoop_page, hround] at heq
  dsimp only at heq
  split at heq
  · have hlt : ¬ rows.length ≤ st.offset := by
      rw [hpage.length_le_iff]
      omega
    have hlimit := settings.limit_pos
    have hshort := congrArg List.length heq
    refine absurd hshort (Nat.ne_of_lt (attemptLoop_lost remaining ?_))
    simp only [hemitted, List.length_take]
    omega
  · exact hpage.emitted_ne hemitted hleft heq

variable (settings plan rows) in
/-- All rows are emitted exactly when the pages that are left arrive. -/
theorem attemptLoop_emitted_eq_iff (remaining : ℕ) {st : ConsumeState}
    (hpage : AtPage settings st) (hemitted : st.emitted = rows.take st.offset)
    (hremaining : 0 < remaining ∨ 0 < pageCount settings rows - st.emissions) :
    (attemptLoop settings plan rows remaining st).emitted = rows ↔
      PagesArrive settings plan remaining (pageCount settings rows - st.emissions)
        st.selections st.emissions := by
  induction remaining generalizing st with
  | zero =>
      refine iff_of_false (hpage.emitted_ne hemitted (by omega)) ?_
      rintro ⟨failures, hfailures, -⟩
      omega
  | succ remaining ih =>
      induction hpages : pageCount settings rows - st.emissions generalizing st with
      | zero =>
          have hall : st.emitted = rows := by
            rw [hemitted, List.take_of_length_le (hpage.length_le_iff.mpr hpages)]
          refine iff_of_true ?_ pagesArrive_zero
          refine List.Sublist.antisymm ?_ (attemptLoop_complete _ (by rw [hall]))
          exact (attemptLoop_sublist _ _ _ (by rw [hemitted])).trans (List.take_sublist _ _)
      | succ pages ihpages =>
          have hleft : 0 < pageCount settings rows - st.emissions := by omega
          rcases selectAndEmitPage_cases settings plan rows st with
            ⟨e, hselection, hround⟩ | ⟨hselection, hemission, e, hround⟩ |
              ⟨hselection, hemission, hround⟩
          · rw [attemptLoop_page, hround]
            dsimp only
            by_cases htransient : isPotentialTransientError e = true
            · -- the next attempt selects the same page
              rw [if_pos htransient, pagesArrive_of_failure hselection htransient, ← hpages]
              have hsame : AtPage settings
                  { st with selections := st.selections + 1, exception := some e } := hpage
              refine ih hsame hemitted (.inr ?_)
              simp only [hpages]
              omega
            · rw [if_neg htransient]
              exact iff_of_false (hpage.emitted_ne hemitted hleft)
                (not_pagesArrive_of_error hselection htransient)
          · refine iff_of_false (attemptLoop_emission_lost hpage hemitted hleft hround) ?_
            rintro ⟨failures, -, -, -, hemissions⟩
            exact hemission (hemissions 0 (Nat.succ_pos _))
          · have hmore : ¬ rows.length ≤ st.offset := by
              rw [hpage.length_le_iff]
              omega
            have hnext : pageCount settings rows -
                (st.afterPage settings rows).emissions = pages := by
              simp only [ConsumeState.afterPage]
              omega
            have hpassed : (st.afterPage settings rows).emitted =
                rows.take (st.afterPage settings rows).offset := by
              simp only [ConsumeState.afterPage, hemitted, pageAt, List.take_add]
            rw [attemptLoop_page, hround, if_neg hmore,
              pagesArrive_of_success hselection hemission]
            exact ihpages hpage.afterPage hpassed (.inl (Nat.succ_pos _)) hnext

theorem pagesArrive_of_allSucceed {attempts pages : ℕ} (hattempts : 0 < attempts)
    (h : AllSucceed settings plan (pages + attempts) 0 0) :
    PagesArrive settings plan attempts pages 0 0 := by
  have hselection : ∀ i ∈ List.range' 0 (pages + 0), plan.selection i = none := by
    intro i hi
    have hlt : i < pages + attempts := by
      have hmem := (List.mem_range'_1.mp hi).2
      omega
    simpa using (h i hlt).1
  refine ⟨0, hattempts, ?_, fun i hi e he => ?_, fun i hi => (h i (by omega)).2⟩
  · rw [List.countP_eq_length.mpr fun i hi => by simpa using hselection i hi]
    simp
  · rw [hselection i hi] at he
    cases he

/-- A proper part of the rows misses one of them. -/
theorem exists_missing {emitted : List DeltaRow} (hsub : emitted.Sublist rows)
    (hne : emitted ≠ rows) : ∃ row ∈ rows, emitted.count row < rows.count row := by
  by_contra hnone
  have hall : ∀ row ∈ rows, rows.count row ≤ emitted.count row := fun row hrow =>
    Nat.not_lt.mp fun hlt => hnone ⟨row, hrow, hlt⟩
  refine hne (hsub.eq_of_length (List.Perm.length_eq (List.perm_iff_count.mpr fun row => ?_)))
  by_cases hrow : row ∈ rows
  · exact Nat.le_antisymm (hsub.count_le row) (hall row hrow)
  · rw [List.count_eq_zero_of_not_mem hrow,
      List.count_eq_zero_of_not_mem fun hmem => hrow (hsub.subset hmem)]

section
variable (settings plan rows)

/-- What the consumer does with a fresh event whose payload can be read. -/
theorem consumer_spec (payload : DownstreamCounterDecrementData) :
    (queueDownstreamDecrementConsumer settings plan rows (.ok payload) true).2.Sublist rows ∧
      ((queueDownstreamDecrementConsumer settings plan rows (.ok payload) true).2 = rows ↔
        PagesArrive settings plan settings.maxRetries (pageCount settings rows) 0 0) ∧
      ((queueDownstreamDecrementConsumer settings plan rows (.ok payload) true).1 =
          .acknowledged ↔
        AllSucceed settings plan (pageCount settings rows + settings.maxRetries) 0 0) ∧
      ((queueDownstreamDecrementConsumer settings plan rows (.ok payload) true).1 =
          .declaredDead ↔
        ¬ AllSucceed settings plan (pageCount settings rows + settings.maxRetries) 0 0) := by
  have hstart : AtPage settings .initial := (Nat.zero_mul _).symm
  have hexception := attemptLoop_exception_eq_none_iff settings plan rows settings.maxRetries
    rfl hstart (.inl settings.maxRetries_pos)
  have hemitted := attemptLoop_emitted_eq_iff settings plan rows settings.maxRetries
    hstart List.take_zero.symm (.inl settings.maxRetries_pos)
  have hnone : ConsumeState.initial.emitted.Sublist (rows.take ConsumeState.initial.offset) :=
    List.nil_sublist _
  have hsub := (attemptLoop_sublist settings plan settings.maxRetries hnone).trans
    (List.take_sublist _ _)
  have hverdict : ∀ exception : Option Exn,
      ((if exception.isSome then Verdict.declaredDead else .acknowledged) = .acknowledged ↔
        exception = none) ∧
      ((if exception.isSome then Verdict.declaredDead else .acknowledged) = .declaredDead ↔
        ¬ exception = none) := by
    intro exception
    cases exception <;> simp
  refine ⟨hsub, hemitted, ?_, ?_⟩
  · exact (hverdict _).1.trans hexception
  · exact (hverdict _).2.trans (not_congr hexception)

/-- If every page arrives and still something fails, the event is dead for no reason. -/
theorem not_decrementsOnce (payload : DownstreamCounterDecrementData)
    (harrive : PagesArrive settings plan settings.maxRetries (pageCount settings rows) 0 0)
    (hfails : ¬ AllSucceed settings plan (pageCount settings rows + settings.maxRetries) 0 0) :
    ¬ DecrementsOnce rows
      (queueDownstreamDecrementConsumer settings plan rows (.ok payload) true) := by
  intro honce
  obtain ⟨-, hall, -, hdead⟩ := consumer_spec settings plan rows payload
  -- the event is dead although no row is missing
  obtain ⟨row, -, hmissing⟩ := honce.dead_only (hdead.mpr hfails)
  rw [hall.mpr harrive] at hmissing
  exact absurd hmissing (Nat.lt_irrefl _)

/-- The decrements of an event are emitted once, or the event is dead for a reason, exactly
when nothing fails at all or some page does not arrive. -/
theorem decrementsOnce_iff (payload : DownstreamCounterDecrementData) :
    DecrementsOnce rows
        (queueDownstreamDecrementConsumer settings plan rows (.ok payload) true) ↔
      AllSucceed settings plan (pageCount settings rows + settings.maxRetries) 0 0 ∨
        ¬ PagesArrive settings plan settings.maxRetries (pageCount settings rows) 0 0 := by
  obtain ⟨hsub, hall, hacknowledged, hdead⟩ := consumer_spec settings plan rows payload
  constructor
  · intro honce
    by_contra hnot
    obtain ⟨hfails, harrive⟩ := not_or.mp hnot
    exact not_decrementsOnce settings plan rows payload (not_not.mp harrive) hfails honce
  · intro hcondition
    constructor
    · rw [hacknowledged]
      constructor
      · intro hsucceed
        rw [hall.mpr (pagesArrive_of_allSucceed settings.maxRetries_pos hsucceed)]
      · intro hperm
        have harrive := hall.mp (hsub.eq_of_length hperm.length_eq)
        exact hcondition.resolve_right (not_not_intro harrive)
    · intro hverdict
      have hlost := hcondition.resolve_left (hdead.mp hverdict)
      exact exists_missing hsub fun heq => hlost (hall.mp heq)
    · exact hsub.count_le

end

/-- Two attempts, and pages of 100 rows. -/
def twoAttempts : DecrementSettings := ⟨2, 100, by decide, by decide⟩

/-- The first selection loses its connection. -/
def firstSelectionFails : FailurePlan where
  selection n := if n = 0 then some .operationalError else none
  emission _ _ := .ok ()

/-- The second attempt emits the one row, and the event is declared dead. -/
theorem dead_after_second_attempt :
    ¬ DecrementsOnce [("7", 3)]
      (queueDownstreamDecrementConsumer twoAttempts firstSelectionFails [("7", 3)]
        (.ok ⟨"users:comments", .post, .authorId, 17000000000000⟩) true) := by
  apply not_decrementsOnce
  · refine ⟨1, by decide, by decide, fun i _ e he => ?_, fun i _ => ⟨_, rfl⟩⟩
    simp only [firstSelectionFails] at he
    split at he <;> cases he
    rfl
  · intro hsucceed
    have hfirst := (hsucceed 0 (by decide)).1
    cases hfirst

end

end DatabaseWorkers
end Tenjin
