import Tenjin.ResourceAuxillary.EventCodec
import Tenjin.ResourceServer.IntentLifecycle

/-!
# Reading an intent

`fetch_indicators` and the whole of `guard_action` (`cache_manager.py`), on the intents that
`set_intent` and `IntentUpdate.intent_value` write.

* `guardRun` is the generator of `guard_action` under its context manager: what it yields, what
  leaves the block, and what it does with the lock key.
* `FetchReadsWritten` and `GuardReadsWritten` are the purpose.
* A flag holds the separator itself, so the piece in front of the first one is the same for all
  flags; and without an intent the missing reply is split.  So neither reads any intent, nor
  that there is none (`intents_not_read`).
* `writtenIntent_recoverable` — the first two pieces would be the flag.
-/

namespace Tenjin
namespace ResourceServer

open Python ResourceAuxillary

/-- What `set_intent` stores. -/
def writtenIntent (intentFlag : IntentFlag) (intentId : String) : String :=
  pyJoin nameSeperator [intentFlag.value, intentId]

/-- The reply that stands for what was written, if anything was. -/
def storedIntent (written : Option (IntentFlag × String)) : Option String :=
  written.map fun (intentFlag, intentId) => writtenIntent intentFlag intentId

/-- `fetch_indicators` behind its transaction; `lock` and `intent` are the replies. -/
def fetchIndicators (decodeResponses : Bool) (lock intent : Option String) :
    Except Exn (Option Reply × Option IntentFlag) :=
  match intent with
  | none => .error .attributeError
  | some stored =>
      match clientReply decodeResponses stored with
      | .bytes _ => .error .typeError
      | .str s =>
          let intentValue := (pySplit ':' s).headD ""
          if intentValue.isEmpty then .ok (lock.map (clientReply decodeResponses), none)
          else
            match IntentFlag.ofValue intentValue with
            | some flag => .ok (lock.map (clientReply decodeResponses), some flag)
            | none => .error .valueError

/-- What asking a generator for its next value comes to. -/
inductive Resumed
  | stops
  | raises (e : Exn)
  | yields (value : Option String)

/-- `guard_action` behind its first `yield`, after a body that ended normally.  A written
intent was split before that `yield`. -/
def guardSecond (decodeResponses : Bool) (intent : Option String) : Resumed :=
  match intent with
  | none => .raises .attributeError
  | some stored =>
      if stored.isEmpty then
        match clientReply decodeResponses stored with
        | .bytes _ => .raises .typeError
        | .str s => .yields (some ((pySplit ':' s).headD ""))
      else .stops

/-- A command on the lock key. -/
inductive LockCommand
  | set
  | delete
  deriving DecidableEq

/-- What the generator yields, what leaves the `async with` block, and the commands on the lock
key. -/
structure GuardRun where
  yielded : List (Option String)
  raised : Option Exn
  commands : List LockCommand

/-- The `finally` clause. -/
def GuardRun.finally (run : GuardRun) : GuardRun :=
  { run with commands := run.commands ++ [.delete] }

/-- `async with guard_action(...)` around a body that raises or ends normally. -/
def guardRun (decodeResponses : Bool) (options : GuardOptions) (lockSet : Bool)
    (intent : Option String) (body : Option Exn) : GuardRun :=
  GuardRun.finally <|
    match guardAction decodeResponses options lockSet intent with
    | .rejected e => ⟨[], some e, [.set]⟩
    | .entered latestIntent =>
        match body with
        -- the exception is thrown into the generator at its `yield`
        | some e => ⟨[latestIntent], some e, [.set]⟩
        | none =>
            match guardSecond decodeResponses intent with
            | .stops => ⟨[latestIntent], none, [.set]⟩
            | .raises e => ⟨[latestIntent], some e, [.set]⟩
            -- "generator didn't stop"
            | .yields value => ⟨[latestIntent, value], some .runtimeError, [.set]⟩

/-- `fetch_indicators` returns the written flag, and `None` when there is none. -/
def FetchReadsWritten (decodeResponses : Bool) (written : Option (IntentFlag × String)) : Prop :=
  ∀ lock, fetchIndicators decodeResponses lock (storedIntent written) =
    .ok (lock.map (clientReply decodeResponses), written.map Prod.fst)

/-- The written flag is the conflicting one. -/
def Conflicting (options : GuardOptions) (written : Option (IntentFlag × String)) : Prop :=
  ∃ flag, written.map Prod.fst = some flag ∧ options.conflictingIntent = some flag

/-- `guard_action`, with the lock taken: it raises the conflict exception exactly when the
written flag is the conflicting one, and otherwise yields that flag once and lets a body that
ends normally leave normally.  It removes its lock in any case. -/
structure GuardReadsWritten (decodeResponses : Bool) (options : GuardOptions)
    (written : Option (IntentFlag × String)) : Prop where
  conflict : (∃ message, guardAction decodeResponses options true (storedIntent written) =
      .rejected (.conflictingIntentException message)) ↔ Conflicting options written
  yieldsOnce : ¬ Conflicting options written → ∀ body,
    (guardRun decodeResponses options true (storedIntent written) body).yielded =
      [(written.map Prod.fst).map IntentFlag.value]
  leaves : ¬ Conflicting options written →
    (guardRun decodeResponses options true (storedIntent written) none).raised = none
  unlocks : ∀ lockSet body,
    (guardRun decodeResponses options lockSet (storedIntent written) body).commands.getLast? =
      some .delete

/-- Both ways of writing an intent give the same text. -/
theorem intentValue_eq (u : IntentUpdate) :
    u.intentValue = writtenIntent u.intentFlag u.intentId := rfl

/-- The guard of `GuardAction` raises what the second request of a value comes to. -/
theorem guardResume_eq (decodeResponses : Bool) (intent : Option String) :
    guardResume decodeResponses intent =
      match guardSecond decodeResponses intent with
      | .stops => none
      | .raises e => some e
      | .yields _ => some .runtimeError := by
  cases intent with
  | none => rfl
  | some stored =>
      simp only [guardResume, guardSecond]
      split
      · cases decodeResponses <;> rfl
      · rfl

/-- Whatever happens, the lock key is deleted last. -/
theorem guardRun_unlocks (decodeResponses : Bool) (options : GuardOptions) (lockSet : Bool)
    (intent : Option String) (body : Option Exn) :
    (guardRun decodeResponses options lockSet intent body).commands.getLast? =
      some .delete := by
  simp [guardRun, GuardRun.finally]

/-- The first piece of a written intent is no flag. -/
theorem writtenIntent_head (flag : IntentFlag) (intentId : String) :
    (pySplit ':' (writtenIntent flag intentId)).headD "" = "FLAG" := by
  have hpieces := pySplit_intentValue ⟨"", flag, intentId⟩
  rw [intentValue_eq] at hpieces
  rw [hpieces, pySplit_intentFlag]
  rfl

theorem fetchIndicators_written (decodeResponses : Bool) (lock : Option String)
    (flag : IntentFlag) (intentId : String) :
    fetchIndicators decodeResponses lock (some (writtenIntent flag intentId)) =
      .error (if decodeResponses then .valueError else .typeError) := by
  cases decodeResponses with
  | false => rfl
  | true =>
      simp only [fetchIndicators, clientReply, if_true, writtenIntent_head]
      rfl

theorem guardRun_written_str (options : GuardOptions) (flag : IntentFlag) (intentId : String) :
    guardRun true options true (some (writtenIntent flag intentId)) none =
      ⟨[some "FLAG"], none, [.set, .delete]⟩ := by
  have hentered : guardAction true options true (some (writtenIntent flag intentId)) =
      .entered (some "FLAG") := guardAction_str options flag intentId
  have hnonempty : (writtenIntent flag intentId).isEmpty = false := by
    obtain ⟨back, hback⟩ := intentValue_prefix flag intentId
    unfold writtenIntent
    rw [hback]
    simp
  simp [guardRun, hentered, guardSecond, hnonempty, GuardRun.finally]

/-- Without an intent the body is entered, but the block is left with an exception. -/
theorem guardRun_none (decodeResponses : Bool) (options : GuardOptions) :
    guardRun decodeResponses options true none none =
      ⟨[none], some .attributeError, [.set, .delete]⟩ := rfl

/-- The written flag can be read off the first two pieces. -/
theorem writtenIntent_recoverable (flag : IntentFlag) (intentId : String) :
    IntentFlag.ofValue (pyJoin nameSeperator
      ((pySplit ':' (writtenIntent flag intentId)).take 2)) = some flag := by
  have hpieces := pySplit_intentValue ⟨"", flag, intentId⟩
  rw [intentValue_eq] at hpieces
  rw [hpieces, pySplit_intentFlag]
  cases flag <;> rfl

/-- For every flag, every id and no intent, whatever the client returns and the endpoint
declares: neither `fetch_indicators` nor `guard_action` reads what was written. -/
theorem intents_not_read (decodeResponses : Bool) (options : GuardOptions)
    (written : Option (IntentFlag × String)) :
    ¬ FetchReadsWritten decodeResponses written ∧
      ¬ GuardReadsWritten decodeResponses options written := by
  cases written with
  | none =>
      constructor
      · intro h
        cases h none
      · intro h
        have hleaves := h.leaves fun hconflict => by
          obtain ⟨flag, hflag, _⟩ := hconflict
          cases hflag
        rw [show storedIntent none = none from rfl, guardRun_none] at hleaves
        cases hleaves
  | some written =>
      obtain ⟨flag, intentId⟩ := written
      constructor
      · intro h
        have hfetched := h none
        rw [show storedIntent (some (flag, intentId)) = some (writtenIntent flag intentId) from
          rfl, fetchIndicators_written] at hfetched
        cases hfetched
      · intro h
        cases decodeResponses with
        | false =>
            -- bytes cannot be split, so nothing is yielded and no conflict is found
            have hrejected : guardAction false options true (storedIntent (some (flag, intentId))) =
                .rejected .typeError := guardAction_bytes options flag intentId
            by_cases hconflict : Conflicting options (some (flag, intentId))
            · obtain ⟨message, hmessage⟩ := h.conflict.mpr hconflict
              rw [hrejected] at hmessage
              cases hmessage
            · have hyields := h.yieldsOnce hconflict none
              simp [guardRun, hrejected, GuardRun.finally] at hyields
        | true =>
            have hentered : guardAction true options true (storedIntent (some (flag, intentId))) =
                .entered (some "FLAG") := guardAction_str options flag intentId
            by_cases hconflict : Conflicting options (some (flag, intentId))
            · obtain ⟨message, hmessage⟩ := h.conflict.mpr hconflict
              rw [hentered] at hmessage
              cases hmessage
            · have hyields := h.yieldsOnce hconflict none
              have hrun : guardRun true options true (storedIntent (some (flag, intentId))) none =
                  ⟨[some "FLAG"], none, [.set, .delete]⟩ :=
                guardRun_written_str options flag intentId
              rw [hrun] at hyields
              have hflag : some "FLAG" = some flag.value := (List.cons.inj hyields).1
              exact intentFlag_value_ne flag (Option.some.inj hflag).symm

/-- A post's deletion is pending, and the endpoint that it conflicts with goes on. -/
theorem pendingDeletion_not_read :
    ¬ GuardReadsWritten true { conflictingIntent := some .resourceDeletionPendingFlag }
      (some (.resourceDeletionPendingFlag, "4f2a")) := by
  intro h
  obtain ⟨message, hmessage⟩ := h.conflict.mpr ⟨_, rfl, rfl⟩
  have hentered : guardAction true { conflictingIntent := some .resourceDeletionPendingFlag } true
      (storedIntent (some (.resourceDeletionPendingFlag, "4f2a"))) = .entered (some "FLAG") :=
    guardAction_str _ _ _
  rw [hentered] at hmessage
  cases hmessage

end ResourceServer
end Tenjin
