import Mathlib.Data.Finmap
import Tenjin.Foundation.Effects
import Tenjin.Python.Separated

/-!
# The local keys of a resource server and the announced ones

`parse_keyset` and `sync_jwks` of `key_manager.py`.

* `current_mapping` is a finite map; the parsed announcement keeps the order of its kids,
  in which the loop removes them.
* A message is a value of any type.  The client's are dictionaries, and these cannot be
  split.
* `Reconciles` is the purpose: the kids are the announced ones afterwards, known kids keep
  their PEM and new ones get the announced PEM.
* The kids that the loop removes are those that are announced and not known, and removing
  the first of them raises.  So of a text a new kid raises, and an expired one stays
  (`syncKeys_reconciles_iff`), and of a dictionary every announcement raises
  (`syncMessage_reconciles_iff`); no message changes the mapping (`stateAfter_syncJwks`).
-/

namespace Tenjin
namespace ResourceServer

open Foundation
open Python

/-- `current_mapping`: a PEM for each kid. -/
abbrev KeyMapping := Finmap fun _ : String => String

/-- The mapping of an announcement. -/
abbrev Keyset := AList fun _ : String => String

/-- `value.split(separator)`. -/
def splitValue (separator : Char) : PyValue → Except Exn (List String)
  | .str text => .ok (pySplit separator text)
  | .bytes _ => .error .typeError
  | _ => .error .attributeError

/-- `parse_keyset`. -/
def parseKeyset (rawKeyset : PyValue) (entryDelimitor pairDelimitor : Char) :
    Except Exn Keyset := do
  let entries ← splitValue entryDelimitor rawKeyset
  entries.foldlM (fun keys entry =>
    match pySplit pairDelimitor entry with
    | keyId :: pem :: _ => .ok (keys.insert keyId pem)
    | _ => .error .indexError) ∅

/-- `self.current_mapping.pop(key_id)`. -/
def popKey (keyId : String) : EStateM Exn KeyMapping Unit := do
  let current ← get
  if keyId ∈ current then set (current.erase keyId) else throw (.keyError keyId)

/-- `self.current_mapping.setdefault(key_id, key)`. -/
def setdefault (keyId key : String) (current : KeyMapping) : KeyMapping :=
  if keyId ∈ current then current else current.insert keyId key

/-- `expired_keys`: the announced kids that are not known. -/
def expiredKeys (keys : Keyset) (current : KeyMapping) : List String :=
  keys.keys.filter fun k => k ∉ current

/-- The loop over `expired_keys`.  `keys.pop` never raises: they are distinct keys of
`keys`. -/
def popExpired : List String → Keyset → EStateM Exn KeyMapping Keyset
  | [], keys => pure keys
  | keyId :: expired, keys => do
      popKey keyId
      popExpired expired (keys.erase keyId)

/-- The body of the loop of `sync_jwks`, from the parsed announcement on. -/
def syncKeys (keys : Keyset) : EStateM Exn KeyMapping Unit := do
  let current ← get
  let keys ← popExpired (expiredKeys keys current) keys
  keys.entries.forM fun entry => modify (setdefault entry.1 entry.2)

/-- One message of the loop, as `pubsub.listen()` yields it. -/
def syncMessage (message : PyValue) : EStateM Exn KeyMapping Unit :=
  match parseKeyset message ':' '=' with
  | .error exn => throw exn
  | .ok keys => syncKeys keys

/-- `sync_jwks`: an exception ends the task. -/
def syncJwks (messages : List PyValue) : EStateM Exn KeyMapping Unit :=
  messages.forM syncMessage

/-- The text that a message is about: itself, or the data of the dictionary that the client
makes of it. -/
def announcedText : PyValue → Option String
  | .str raw => some raw
  | .dict items =>
      match items.lookup "data" with
      | some (.str raw) => some raw
      | some (.bytes raw) => some raw
      | _ => none
  | _ => none

/-- The message announces this keyset. -/
def Announces (message : PyValue) (keys : Keyset) : Prop :=
  ∃ raw, announcedText message = some raw ∧ parseKeyset (.str raw) ':' '=' = .ok keys

/-- The announcement is processed without an error, and the mapping is reconciled. -/
def Reconciles (keys : Keyset) (before : KeyMapping) :
    EStateM.Result Exn KeyMapping Unit → Prop
  | .error _ _ => False
  | .ok _ after =>
      (∀ keyId, keyId ∈ after ↔ keyId ∈ keys) ∧
        (∀ keyId ∈ keys, keyId ∈ before → after.lookup keyId = before.lookup keyId) ∧
        (∀ keyId ∈ keys, keyId ∉ before → after.lookup keyId = keys.lookup keyId)

@[simp] theorem setdefault_of_mem {keyId key : String} {current : KeyMapping}
    (h : keyId ∈ current) : setdefault keyId key current = current := by
  simp [setdefault, h]

/-- Setting defaults for known kids changes nothing. -/
theorem forM_setdefault_of_known {entries : List (Σ _ : String, String)} {current : KeyMapping}
    (hknown : ∀ entry ∈ entries, entry.1 ∈ current) :
    (entries.forM fun entry =>
      (modify (setdefault entry.1 entry.2) : EStateM Exn KeyMapping Unit)) current =
      .ok () current := by
  induction entries with
  | nil => rfl
  | cons entry entries ih =>
      have hentry : setdefault entry.1 entry.2 current = current :=
        setdefault_of_mem (hknown entry (List.mem_cons_self ..))
      have hfirst : (modify (setdefault entry.1 entry.2) : EStateM Exn KeyMapping Unit) current =
          .ok () current := by
        show EStateM.Result.ok () (setdefault entry.1 entry.2 current) = _
        rw [hentry]
      have hrest := ih fun e he => hknown e (List.mem_cons_of_mem _ he)
      exact bind_eq_ok.mpr ⟨(), current, hfirst, hrest⟩

theorem popKey_of_notMem {keyId : String} {current : KeyMapping} (h : keyId ∉ current) :
    popKey keyId current = .error (.keyError keyId) current := by
  show (if keyId ∈ current then set (current.erase keyId) else throw (.keyError keyId) :
    EStateM Exn KeyMapping Unit) current = _
  rw [if_neg h]
  rfl

/-- An announcement of known kids is processed, and the local mapping stays as it is. -/
theorem syncKeys_of_known {keys : Keyset} {current : KeyMapping}
    (hknown : ∀ keyId ∈ keys, keyId ∈ current) : syncKeys keys current = .ok () current := by
  have hexpired : expiredKeys keys current = [] := by
    rw [expiredKeys, List.filter_eq_nil_iff]
    intro keyId hkeyId
    simpa using hknown keyId (AList.mem_keys.mpr hkeyId)
  have hentries : ∀ entry ∈ keys.entries, entry.1 ∈ current := by
    intro entry hentry
    exact hknown entry.1 (AList.mem_keys.mpr (List.mem_keys_of_mem hentry))
  have hpop : popExpired (expiredKeys keys current) keys current = .ok keys current := by
    rw [hexpired]
    rfl
  exact bind_eq_ok.mpr ⟨current, current, rfl,
    bind_eq_ok.mpr ⟨keys, current, hpop, forM_setdefault_of_known hentries⟩⟩

/-- An announcement with a new kid raises before anything is changed. -/
theorem syncKeys_of_new {keys : Keyset} {current : KeyMapping} {newKid : String}
    (hnew : newKid ∈ keys) (hunknown : newKid ∉ current) :
    ∃ keyId, syncKeys keys current = .error (.keyError keyId) current := by
  have hmem : newKid ∈ expiredKeys keys current := by
    rw [expiredKeys, List.mem_filter]
    exact ⟨AList.mem_keys.mp hnew, by simpa using hunknown⟩
  cases hexpired : expiredKeys keys current with
  | nil =>
      rw [hexpired] at hmem
      cases hmem
  | cons keyId expired =>
      have hkeyId : keyId ∉ current := by
        have hfirst : keyId ∈ expiredKeys keys current := hexpired ▸ List.mem_cons_self ..
        rw [expiredKeys, List.mem_filter] at hfirst
        simpa using hfirst.2
      refine ⟨keyId, bind_eq_error.mpr (.inr ⟨current, current, rfl, ?_⟩)⟩
      apply bind_of_error
      rw [hexpired]
      exact bind_of_error (popKey_of_notMem hkeyId)

/-- However an announcement is processed, the local mapping stays as it is. -/
theorem stateAfter_syncKeys (keys : Keyset) (current : KeyMapping) :
    stateAfter (syncKeys keys) current = current := by
  by_cases hknown : ∀ keyId ∈ keys, keyId ∈ current
  · exact stateAfter_of_ok (syncKeys_of_known hknown)
  · push Not at hknown
    obtain ⟨newKid, hnew, hunknown⟩ := hknown
    obtain ⟨keyId, herror⟩ := syncKeys_of_new hnew hunknown
    exact stateAfter_of_error herror

/-- However a message is processed, the local mapping stays as it is. -/
theorem stateAfter_syncMessage (message : PyValue) (current : KeyMapping) :
    stateAfter (syncMessage message) current = current := by
  unfold syncMessage
  cases parseKeyset message ':' '=' with
  | error exn => rfl
  | ok keys => exact stateAfter_syncKeys keys current

/-- No run of announcements changes the local mapping. -/
theorem stateAfter_syncJwks (messages : List PyValue) (current : KeyMapping) :
    stateAfter (syncJwks messages) current = current := by
  have hkeeps : Keeps (fun mapping => mapping = current) (syncJwks messages) := by
    apply Keeps.forM
    intro message _ mapping hmapping
    exact (stateAfter_syncMessage message mapping).trans hmapping
  exact hkeeps current rfl

/-- A keyset is reconciled exactly if its kids are those that are known already. -/
theorem syncKeys_reconciles_iff (keys : Keyset) (current : KeyMapping) :
    Reconciles keys current (syncKeys keys current) ↔
      ∀ keyId, keyId ∈ keys ↔ keyId ∈ current := by
  by_cases hknown : ∀ keyId ∈ keys, keyId ∈ current
  · rw [syncKeys_of_known hknown]
    constructor
    · rintro ⟨hkids, _, _⟩ keyId
      exact (hkids keyId).symm
    · intro hsame
      refine ⟨fun keyId => (hsame keyId).symm, fun _ _ _ => rfl, fun keyId hkeyId hnot => ?_⟩
      exact absurd (hknown keyId hkeyId) hnot
  · -- one of the announced kids is new
    push Not at hknown
    obtain ⟨newKid, hnew, hunknown⟩ := hknown
    obtain ⟨keyId, herror⟩ := syncKeys_of_new hnew hunknown
    rw [herror]
    constructor
    · intro h
      exact h.elim
    · intro hsame
      exact absurd ((hsame newKid).mp hnew) hunknown

/-- A text is processed as its keyset. -/
theorem syncMessage_str {raw : String} {keys : Keyset}
    (h : parseKeyset (.str raw) ':' '=' = .ok keys) : syncMessage (.str raw) = syncKeys keys := by
  unfold syncMessage
  rw [h]

/-- A dictionary has no method `split`. -/
theorem not_reconciles_dict (items : List (String × PyValue)) (keys : Keyset)
    (current : KeyMapping) : ¬ Reconciles keys current (syncMessage (.dict items) current) :=
  fun h => h

/-- The announcement of a message is reconciled exactly if the message is the text itself,
which the client never yields, and announces the kids that are known already. -/
theorem syncMessage_reconciles_iff {message : PyValue} {keys : Keyset}
    (h : Announces message keys) (current : KeyMapping) :
    Reconciles keys current (syncMessage message current) ↔
      (∃ raw, message = .str raw) ∧ ∀ keyId, keyId ∈ keys ↔ keyId ∈ current := by
  obtain ⟨raw, hraw, hkeys⟩ := h
  cases message with
  | str text =>
      cases hraw
      rw [syncMessage_str hkeys, syncKeys_reconciles_iff]
      exact (and_iff_right ⟨raw, rfl⟩).symm
  | dict items =>
      constructor
      · intro hreconciled
        exact absurd hreconciled (not_reconciles_dict items keys current)
      · rintro ⟨⟨text, htext⟩, _⟩
        cases htext
  | _ => cases hraw

/-- A message as the client yields it. -/
def listened (data : String) : PyValue :=
  .dict [("type", .str "message"), ("pattern", .none), ("channel", .bytes "keys"),
    ("data", .bytes data)]

/-- The announcement of a rotation: the old key and the new one. -/
def announcedRotation : Keyset := AList.insert "new" "pem-new" (AList.singleton "old" "pem-old")

theorem parseKeyset_rotation :
    parseKeyset (.str "old=pem-old:new=pem-new") ':' '=' = .ok announcedRotation := by
  have hentries : pySplit ':' "old=pem-old:new=pem-new" = ["old=pem-old", "new=pem-new"] := by
    decide
  have hold : pySplit '=' "old=pem-old" = ["old", "pem-old"] := by decide
  have hnew : pySplit '=' "new=pem-new" = ["new", "pem-new"] := by decide
  simp only [parseKeyset, splitValue, hentries, bind, Except.bind, List.foldlM_cons,
    List.foldlM_nil, hold, hnew, AList.insert_empty]
  rfl

theorem announces_rotation :
    Announces (.str "old=pem-old:new=pem-new") announcedRotation ∧
      Announces (listened "old=pem-old:new=pem-new") announcedRotation :=
  ⟨⟨"old=pem-old:new=pem-new", rfl, parseKeyset_rotation⟩,
    ⟨"old=pem-old:new=pem-new", rfl, parseKeyset_rotation⟩⟩

/-- A worker that knows both keys would reconcile the text. -/
theorem syncMessage_knownRotation :
    Reconciles announcedRotation announcedRotation.toFinmap
      (syncMessage (.str "old=pem-old:new=pem-new") announcedRotation.toFinmap) := by
  rw [syncMessage_reconciles_iff announces_rotation.1]
  exact ⟨⟨_, rfl⟩, fun _ => Finmap.mem_toFinmap.symm⟩

/-- A worker that knows the old key reconciles neither the message of the client nor its
text. -/
theorem syncKeys_announcedRotation :
    Announces (listened "old=pem-old:new=pem-new") announcedRotation ∧
      ¬ Reconciles announcedRotation (Finmap.singleton "old" "pem-old")
        (syncMessage (listened "old=pem-old:new=pem-new") (Finmap.singleton "old" "pem-old")) ∧
      ¬ Reconciles announcedRotation (Finmap.singleton "old" "pem-old")
        (syncMessage (.str "old=pem-old:new=pem-new") (Finmap.singleton "old" "pem-old")) := by
  have hunknown : "new" ∉ (Finmap.singleton "old" "pem-old" : KeyMapping) := by decide
  have hnew : "new" ∈ announcedRotation := by decide
  refine ⟨announces_rotation.2, not_reconciles_dict _ _ _, fun h => ?_⟩
  rw [syncMessage_str parseKeyset_rotation, syncKeys_reconciles_iff] at h
  exact hunknown ((h "new").mp hnew)

end ResourceServer
end Tenjin
