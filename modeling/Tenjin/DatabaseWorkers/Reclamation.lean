import Mathlib.Data.Finset.Sort
import Mathlib.Data.Prod.Lex
import Tenjin.DatabaseWorkers.StreamReader
import Tenjin.Foundation.Extremes
import Tenjin.Python.Separated

/-!
# Reclaiming events that were delivered too often

`reclaim_dead_events` of `coordination.py` with `get_min_max_from_xread` of `helpers.py`,
over one stream with one group and its dead letter queue.

* `ReclaimServer` is what Redis holds.  Entries of the pending list may be gone from the
  stream.
* `generatorJoin` is what the two joins of `get_min_max_from_xread` give: they join the
  characters of a generator's description.  `StreamId.text` is what they were to give, so the
  join is a parameter.
* `ReclaimsExactly` and `ReturnsExtremes` are the purpose.
* `reclaim_exact_iff` — with the joins of the repository nothing is ever moved, and the
  extremes are never returned; `mendedReclaim_exact` — with the others both are right.
-/

namespace Tenjin
namespace ResourceAuxillary

/-- The IDs in the order of the stream. -/
instance : LinearOrder StreamId :=
  LinearOrder.lift' (fun id => toLex (id.ms, id.seq)) fun a b h => by
    have hparts := toLex.injective h
    exact StreamId.ext (congrArg Prod.fst hparts) (congrArg Prod.snd hparts)

end ResourceAuxillary

namespace DatabaseWorkers

open Python Foundation ResourceAuxillary

/-- An entry of the pending list, as far as it is read. -/
structure PendingEvent where
  messageId : StreamId
  timesDelivered : ℕ
  deriving DecidableEq

/-- The stream, the pending list of the group, and the fields of the entries that were added
to the dead letter queue. -/
structure ReclaimServer where
  stream : List RawRecord
  pending : List PendingEvent
  dlq : List (List (String × String))
  streamOrdered : stream.Pairwise fun r r' => r.id < r'.id
  pendingOrdered : pending.Pairwise fun p p' => p.messageId < p'.messageId
  pendingFits : ∀ p ∈ pending, p.messageId.ms < idLimit ∧ p.messageId.seq < idLimit

/-- A part of an ID, as Redis reads it. -/
def readIdPart (s : String) : Option ℕ :=
  if s ≠ "" ∧ s.toList.all Char.isDigit then
    let n := Nat.ofDigitChars 10 s.toList 0
    if n < idLimit then some n else none
  else none

/-- A bound of `XRANGE`, as Redis reads it.  `missingSeq` stands for a missing sequence
number.  No caller writes an exclusive bound. -/
def readRangeBound (missingSeq : ℕ) (s : String) : Option StreamId :=
  if s = "-" then some ⟨0, 0⟩
  else if s = "+" then some ⟨idLimit - 1, idLimit - 1⟩
  else
    match pySplit '-' s with
    | [ms] => (readIdPart ms).map fun ms => ⟨ms, missingSeq⟩
    | [ms, seq] => do
        let ms ← readIdPart ms
        let seq ← readIdPart seq
        return ⟨ms, seq⟩
    | _ => none

/-- `XRANGE`. -/
def ReclaimServer.xrange (server : ReclaimServer) (minVal maxVal : String) :
    Except Exn (List RawRecord) :=
  match readRangeBound 0 minVal, readRangeBound (idLimit - 1) maxVal with
  | some low, some high => .ok (server.stream.filter fun r => low ≤ r.id ∧ r.id ≤ high)
  | _, _ => .error (.redisError false)

/-- The transaction: `XADD` for each event, and `XACKDEL` of the IDs. -/
def ReclaimServer.move (server : ReclaimServer) (events : List RawRecord)
    (ids : Finset StreamId) : ReclaimServer where
  stream := server.stream.filter fun r => r.id ∉ ids
  pending := server.pending.filter fun p => p.messageId ∉ ids
  dlq := server.dlq ++ events.map RawRecord.fields
  streamOrdered := server.streamOrdered.filter _
  pendingOrdered := server.pendingOrdered.filter _
  pendingFits := fun p hp => server.pendingFits p (List.mem_of_mem_filter hp)

/-- How Python iterates over a set of IDs: every item once, in some order. -/
structure IdOrder where
  enumerate : Finset StreamId → List StreamId
  nodup : ∀ ids, (enumerate ids).Nodup
  mem_enumerate : ∀ ids id, id ∈ enumerate ids ↔ id ∈ ids

/-- `tuple(map(int, record.split("-")))`.  An ID as bytes cannot be split at a text. -/
def idTuple (decodeResponses : Bool) (record : StreamId) : Except Exn StreamId :=
  match clientReply decodeResponses record.text with
  | .bytes _ => .error .typeError
  | .str s =>
      match (pySplit '-' s).mapM pyInt with
      | .ok [ms, seq] => .ok ⟨ms.toNat, seq.toNat⟩
      -- Redis writes two parts
      | .ok _ => .error .indexError
      | .error e => .error e

/-- The description of a generator expression at an address. -/
def generatorText (address : String) : String :=
  "<generator object get_min_max_from_xread.<locals>.<genexpr> at 0x" ++ address ++ ">"

/-- `"-".join(str(i for i in id_tuple))`: `str` describes the generator, and the join is over
the characters of the description. -/
def generatorJoin (address : String) : String :=
  pyJoin "-" ((generatorText address).toList.map String.singleton)

/-- The IDs that `reclaim_dead_events` collects. -/
def dlqReclamationIds (readCount : ℕ) (maxDeliveries : Int) (server : ReclaimServer) :
    Finset StreamId :=
  let pendingEventData := server.pending.take readCount
  ((pendingEventData.filter fun p => maxDeliveries ≤ p.timesDelivered).map
    PendingEvent.messageId).toFinset

section
variable (join : Fin 2 → StreamId → String) (decodeResponses : Bool)

/-- `get_min_max_from_xread` of a set that is iterated over in this order. -/
def getMinMaxFromXread (xreadIds : List StreamId) : Except Exn (String × String) :=
  match xreadIds with
  -- `next` raises `StopIteration`
  | [] => .error .runtimeError
  | first :: rest => do
      let firstTuple ← idTuple decodeResponses first
      let normalizedIds ← (first :: rest).mapM (idTuple decodeResponses)
      let (minTuple, maxTuple) := extremes firstTuple normalizedIds
      return (join 0 minTuple, join 1 maxTuple)

/-- `reclaim_dead_events`. -/
def reclaimDeadEvents (order : IdOrder) (readCount : ℕ) (maxDeliveries : Int)
    (server : ReclaimServer) : Except Exn Unit × ReclaimServer :=
  let ids := dlqReclamationIds readCount maxDeliveries server
  if ids = ∅ then (.ok (), server)
  else
    match getMinMaxFromXread join decodeResponses (order.enumerate ids) with
    | .error e => (.error e, server)
    | .ok (minVal, maxVal) =>
        match server.xrange minVal maxVal with
        | .error e => (.error e, server)
        | .ok records =>
            (.ok (), server.move (records.filter fun r => r.id ∈ ids) ids)

end

/-- The ID is that of a scanned pending entry that was delivered too often. -/
def OverDelivered (readCount : ℕ) (maxDeliveries : Int) (server : ReclaimServer)
    (id : StreamId) : Prop :=
  ∃ p ∈ server.pending.take readCount, p.messageId = id ∧ maxDeliveries ≤ p.timesDelivered

/-- Exactly those entries are moved: what is still in the stream is added once with its
record, and what is not added stays in the stream. -/
structure ReclaimsExactly (readCount : ℕ) (maxDeliveries : Int)
    (before after : ReclaimServer) : Prop where
  added : ∃ added : List RawRecord, after.dlq = before.dlq ++ added.map RawRecord.fields ∧
    added.Nodup ∧
    (∀ r, r ∈ added ↔ r ∈ before.stream ∧ OverDelivered readCount maxDeliveries before r.id) ∧
    ∀ r ∈ before.stream, r ∉ after.stream → r ∈ added
  removed : ∀ p, p ∈ after.pending ↔
    p ∈ before.pending ∧ ¬ OverDelivered readCount maxDeliveries before p.messageId

/-- The texts of the least and the greatest ID. -/
def ReturnsExtremes (ids : Finset StreamId) (result : Except Exn (String × String)) : Prop :=
  ∃ low high, IsLeast {id | id ∈ ids} low ∧ IsGreatest {id | id ∈ ids} high ∧
    result = .ok (low.text, high.text)

/-- No scanned entry was delivered too often. -/
def NoneOverDelivered (readCount : ℕ) (maxDeliveries : Int) (server : ReclaimServer) :
    Prop :=
  ∀ p ∈ server.pending.take readCount, p.timesDelivered < maxDeliveries

/-- The two pieces of an ID. -/
theorem pySplit_text (id : StreamId) :
    pySplit '-' id.text = [digitsText id.ms, digitsText id.seq] := by
  have hdigits : ∀ n : ℕ, pySplit '-' (toString n) = [digitsText n] := by
    intro n
    rw [Nat.toString_eq_ofList_toDigits]
    apply pySplit_of_not_mem
    rw [String.toList_ofList]
    exact not_mem_toDigits rfl n
  show pySplit '-' (toString id.ms ++ String.singleton '-' ++ toString id.seq) = _
  rw [pySplit_append, hdigits, hdigits]
  rfl

/-- A text that Redis writes is read as what it stands for. -/
theorem idTuple_str (id : StreamId) : idTuple true id = .ok id := by
  have hint : ∀ n, pyInt (digitsText n) = .ok (n : Int) := by
    intro n
    rw [digitsText, pyInt_of_digitText (digitText_toDigits n) (by simp [Nat.toDigits_ne_nil]),
      Nat.ofDigitChars_ten_toDigits]
  unfold idTuple clientReply
  simp only [if_true, pySplit_text, List.mapM_cons, List.mapM_nil, hint]
  rfl

theorem readIdPart_digitsText {n : ℕ} (h : n < idLimit) : readIdPart (digitsText n) = some n := by
  have hall : (digitsText n).toList.all Char.isDigit = true := by
    rw [digitsText, String.toList_ofList, List.all_eq_true]
    exact fun c hc => Nat.isDigit_of_mem_toDigits (by omega) (by omega) hc
  have hvalue : Nat.ofDigitChars 10 (digitsText n).toList 0 = n := by
    rw [digitsText, String.toList_ofList, Nat.ofDigitChars_ten_toDigits]
  rw [readIdPart, if_pos ⟨digitsText_ne_empty n, hall⟩]
  simp only [hvalue, if_pos h]

/-- A bound that is written as an ID is that ID. -/
theorem readRangeBound_text (missingSeq : ℕ) {id : StreamId} (hms : id.ms < idLimit)
    (hseq : id.seq < idLimit) : readRangeBound missingSeq id.text = some id := by
  have hleast : id.text ≠ "-" := by
    intro h
    have hpieces := pySplit_text id
    rw [h] at hpieces
    have hfirst := (List.cons.inj hpieces).1
    exact digitsText_ne_empty id.ms hfirst.symm
  have hgreatest : id.text ≠ "+" := by
    intro h
    have hpieces := pySplit_text id
    rw [h] at hpieces
    have hone : pySplit '-' "+" = ["+"] := pySplit_of_not_mem (by decide)
    rw [hone] at hpieces
    exact absurd (congrArg List.length hpieces) (by simp)
  rw [readRangeBound, if_neg hleast, if_neg hgreatest, pySplit_text]
  simp [readIdPart_digitsText hms, readIdPart_digitsText hseq]

theorem generatorText_length (address : String) : 2 < (generatorText address).toList.length := by
  have hfront :
      "<generator object get_min_max_from_xread.<locals>.<genexpr> at 0x".toList.length = 65 := by
    rfl
  unfold generatorText
  rw [String.toList_append, String.toList_append, List.length_append, List.length_append, hfront]
  exact Nat.lt_of_lt_of_le (by decide : 2 < 65) (by rw [Nat.add_assoc]; exact Nat.le_add_right _ _)

/-- The joined description has at least a piece for each of its characters. -/
theorem generatorJoin_pieces (address : String) :
    2 < (pySplit '-' (generatorJoin address)).length := by
  have hlong := generatorText_length address
  have hne : (generatorText address).toList.map String.singleton ≠ [] := by
    intro h
    rw [List.map_eq_nil_iff] at h
    rw [h] at hlong
    cases hlong
  have hpieces : ∀ parts : List String,
      parts.length ≤ (parts.flatMap (pySplit '-')).length := by
    intro parts
    induction parts with
    | nil => exact Nat.le_refl 0
    | cons part parts ih =>
        have hpos : 0 < (pySplit '-' part).length :=
          List.length_pos_iff.mpr (pySplit_ne_nil '-' part)
        rw [List.flatMap_cons, List.length_append, List.length_cons]
        omega
  have hsplit := pySplit_pyJoin '-' hne
  have hcount := hpieces ((generatorText address).toList.map String.singleton)
  rw [List.length_map] at hcount
  show 2 < (pySplit '-' (pyJoin (String.singleton '-') _)).length
  rw [hsplit]
  omega

/-- It is no bound of a range. -/
theorem readRangeBound_generatorJoin (missingSeq : ℕ) (address : String) :
    readRangeBound missingSeq (generatorJoin address) = none := by
  have hlong := generatorJoin_pieces address
  unfold readRangeBound
  split
  · rename_i h
    rw [h] at hlong
    exact absurd hlong (by decide)
  split
  · rename_i h
    rw [h] at hlong
    exact absurd hlong (by decide)
  split
  · rename_i h
    simp [h] at hlong
  · rename_i h
    simp [h] at hlong
  · rfl

/-- It is no ID. -/
theorem generatorJoin_ne_text (address : String) (id : StreamId) :
    generatorJoin address ≠ id.text := by
  intro h
  have hlong := generatorJoin_pieces address
  rw [h, pySplit_text] at hlong
  exact absurd hlong (Nat.lt_irrefl 2)

section
variable {join : Fin 2 → StreamId → String} {decodeResponses : Bool}

/-- Whatever is returned was joined. -/
theorem getMinMaxFromXread_ok {xreadIds : List StreamId} {result : String × String}
    (h : getMinMaxFromXread join decodeResponses xreadIds = .ok result) :
    ∃ low high, result = (join 0 low, join 1 high) := by
  cases xreadIds with
  | nil => cases h
  | cons first rest =>
      obtain ⟨firstTuple, _, h⟩ := except_bind_eq_ok h
      obtain ⟨normalizedIds, _, h⟩ := except_bind_eq_ok h
      cases h
      exact ⟨_, _, rfl⟩

/-- In any order of the set, the least and the greatest ID are joined. -/
theorem getMinMaxFromXread_str (join : Fin 2 → StreamId → String) (order : IdOrder)
    {ids : Finset StreamId} (hne : ids.Nonempty) :
    ∃ low high, IsLeast {id | id ∈ ids} low ∧ IsGreatest {id | id ∈ ids} high ∧
      getMinMaxFromXread join true (order.enumerate ids) = .ok (join 0 low, join 1 high) := by
  obtain ⟨id, hid⟩ := hne
  cases hids : order.enumerate ids with
  | nil =>
      have hmem := (order.mem_enumerate ids id).mpr hid
      rw [hids] at hmem
      cases hmem
  | cons first rest =>
      have hread : (first :: rest).mapM (idTuple true) = .ok (first :: rest) := by
        rw [mapM_eq_ok_iff, List.forall₂_same]
        exact fun id _ => idTuple_str id
      have hset : {id | id ∈ first :: first :: rest} = {id | id ∈ ids} := by
        ext other
        show other ∈ first :: first :: rest ↔ other ∈ ids
        rw [← order.mem_enumerate, hids]
        simp
      obtain ⟨hleast, hgreatest⟩ := extremes_spec first (first :: rest)
      rw [hset] at hleast hgreatest
      refine ⟨_, _, hleast, hgreatest, ?_⟩
      simp only [getMinMaxFromXread, idTuple_str, hread, bind, Except.bind, pure, Except.pure]

end

section
variable (address : Fin 2 → String) (decodeResponses : Bool) (order : IdOrder) (readCount : ℕ)
  (maxDeliveries : Int) (server : ReclaimServer)

/-- The collected IDs are those of the entries delivered too often. -/
theorem mem_dlqReclamationIds (id : StreamId) :
    id ∈ dlqReclamationIds readCount maxDeliveries server ↔
      OverDelivered readCount maxDeliveries server id := by
  simp only [dlqReclamationIds, List.mem_toFinset, List.mem_map, List.mem_filter,
    decide_eq_true_eq, OverDelivered, and_assoc]
  constructor
  · intro h
    obtain ⟨p, hp, hcount, hid⟩ := h
    exact ⟨p, hp, hid, hcount⟩
  · intro h
    obtain ⟨p, hp, hid, hcount⟩ := h
    exact ⟨p, hp, hcount, hid⟩

/-- Moving what is in the stream of them is right. -/
theorem moved_exact :
    ReclaimsExactly readCount maxDeliveries server
      (server.move
        (server.stream.filter fun r => r.id ∈ dlqReclamationIds readCount maxDeliveries server)
        (dlqReclamationIds readCount maxDeliveries server)) := by
  have hover := mem_dlqReclamationIds readCount maxDeliveries server
  constructor
  · refine ⟨_, rfl, ?_, ?_, ?_⟩
    · apply List.Nodup.filter
      exact server.streamOrdered.imp fun hlt heq => absurd (congrArg RawRecord.id heq) hlt.ne
    · intro r
      rw [List.mem_filter, decide_eq_true_eq, hover]
    · intro r hr hgone
      rw [List.mem_filter, decide_eq_true_eq]
      refine ⟨hr, ?_⟩
      by_contra hstays
      exact hgone (List.mem_filter.mpr ⟨hr, decide_eq_true hstays⟩)
  · intro p
    show p ∈ server.pending.filter _ ↔ _
    rw [List.mem_filter, decide_eq_true_eq, hover]

/-- Nothing to move. -/
theorem unchanged_exact (hnone : NoneOverDelivered readCount maxDeliveries server) :
    ReclaimsExactly readCount maxDeliveries server server := by
  have hover : ∀ id, ¬ OverDelivered readCount maxDeliveries server id := by
    intro id hid
    obtain ⟨p, hp, _, hcount⟩ := hid
    exact absurd (hnone p hp) (not_lt.mpr hcount)
  constructor
  · refine ⟨[], by simp, List.nodup_nil, ?_, ?_⟩
    · intro r
      exact iff_of_false List.not_mem_nil fun h => hover r.id h.2
    · intro r hr hgone
      exact absurd hr hgone
  · intro p
    exact ⟨fun hp => ⟨hp, hover p.messageId⟩, fun h => h.1⟩

/-- A range that covers the IDs gives their records. -/
theorem xrange_records {low high : StreamId} {ids : Finset StreamId}
    (hleast : IsLeast {id | id ∈ ids} low) (hgreatest : IsGreatest {id | id ∈ ids} high)
    (hfits : ∀ id ∈ ids, id.ms < idLimit ∧ id.seq < idLimit) :
    ∃ records, server.xrange low.text high.text = .ok records ∧
      (records.filter fun r => r.id ∈ ids) = server.stream.filter fun r => r.id ∈ ids := by
  obtain ⟨hlowMs, hlowSeq⟩ := hfits low hleast.1
  obtain ⟨hhighMs, hhighSeq⟩ := hfits high hgreatest.1
  refine ⟨server.stream.filter fun r => low ≤ r.id ∧ r.id ≤ high, ?_, ?_⟩
  · rw [ReclaimServer.xrange, readRangeBound_text 0 hlowMs hlowSeq,
      readRangeBound_text (idLimit - 1) hhighMs hhighSeq]
  · rw [List.filter_filter]
    apply List.filter_congr
    intro r _
    by_cases hid : r.id ∈ ids
    · simp [hid, hleast.2 hid, hgreatest.2 hid]
    · simp [hid]

/-- With the joins of the repository nothing is moved, whatever is pending. -/
theorem reclaimDeadEvents_generatorJoin :
    (reclaimDeadEvents (fun n _ => generatorJoin (address n)) decodeResponses order readCount
      maxDeliveries server).2 = server := by
  unfold reclaimDeadEvents
  dsimp only
  split
  · rfl
  split
  · rfl
  · rename_i minVal maxVal hminmax
    obtain ⟨low, high, hresult⟩ := getMinMaxFromXread_ok hminmax
    have hrange : server.xrange minVal maxVal = .error (.redisError false) := by
      rw [(Prod.mk.inj hresult).1, ReclaimServer.xrange, readRangeBound_generatorJoin]
    rw [hrange]

/-- For every pending list and stream: as the repository stands, exactly the over-delivered
entries are moved if and only if there are none; and the extremes of a nonempty set are never
returned. -/
theorem reclaim_exact_iff :
    (ReclaimsExactly readCount maxDeliveries server
        (reclaimDeadEvents (fun n _ => generatorJoin (address n)) decodeResponses order readCount
          maxDeliveries server).2 ↔
      NoneOverDelivered readCount maxDeliveries server) ∧
    ∀ ids : Finset StreamId, ids.Nonempty →
      ¬ ReturnsExtremes ids (getMinMaxFromXread (fun n _ => generatorJoin (address n))
        decodeResponses (order.enumerate ids)) := by
  rw [reclaimDeadEvents_generatorJoin]
  constructor
  · constructor
    · intro h p hp
      by_contra hcount
      have hpending : p ∈ server.pending := List.mem_of_mem_take hp
      exact ((h.removed p).mp hpending).2 ⟨p, hp, rfl, not_lt.mp hcount⟩
    · exact unchanged_exact readCount maxDeliveries server
  · intro ids _ hreturns
    obtain ⟨low, high, _, _, hresult⟩ := hreturns
    obtain ⟨low', high', hjoined⟩ := getMinMaxFromXread_ok hresult
    exact generatorJoin_ne_text (address 0) low (Prod.mk.inj hjoined).1.symm

/-- With the joins as they were meant, and IDs that are texts, exactly the over-delivered
entries are moved. -/
theorem mendedReclaim_exact :
    ReclaimsExactly readCount maxDeliveries server
        (reclaimDeadEvents (fun _ id => id.text) true order readCount maxDeliveries server).2 ∧
    ∀ ids : Finset StreamId, ids.Nonempty →
      ReturnsExtremes ids (getMinMaxFromXread (fun _ id => id.text) true
        (order.enumerate ids)) := by
  constructor
  · have hids := mem_dlqReclamationIds readCount maxDeliveries server
    unfold reclaimDeadEvents
    dsimp only
    split
    · rename_i hempty
      apply unchanged_exact
      intro p hp
      by_contra hcount
      have hmem := (hids p.messageId).mpr ⟨p, hp, rfl, not_lt.mp hcount⟩
      rw [hempty] at hmem
      cases hmem
    · rename_i hne
      obtain ⟨low, high, hleast, hgreatest, hresult⟩ := getMinMaxFromXread_str
        (fun _ id => id.text) order (Finset.nonempty_iff_ne_empty.mpr hne)
      have hfits : ∀ id ∈ dlqReclamationIds readCount maxDeliveries server,
          id.ms < idLimit ∧ id.seq < idLimit := by
        intro id hid
        obtain ⟨p, hp, hpid, _⟩ := (hids id).mp hid
        rw [← hpid]
        exact server.pendingFits p (List.mem_of_mem_take hp)
      obtain ⟨records, hrange, hrecords⟩ := xrange_records server hleast hgreatest hfits
      have hmoved := moved_exact readCount maxDeliveries server
      rw [← hrecords] at hmoved
      rw [hresult]
      dsimp only
      rw [hrange]
      exact hmoved
  · intro ids hne
    obtain ⟨low, high, hleast, hgreatest, hresult⟩ :=
      getMinMaxFromXread_str (fun _ id => id.text) order hne
    exact ⟨low, high, hleast, hgreatest, hresult⟩

end

/-- One order in which a set may be iterated over. -/
def ascendingOrder : IdOrder where
  enumerate ids := ids.sort (· ≤ ·)
  nodup ids := Finset.sort_nodup ids _
  mem_enumerate _ _ := Finset.mem_sort _

/-- One entry that was delivered three times. -/
def deliveredThrice : ReclaimServer where
  stream := [⟨⟨1700000000000, 0⟩, [("name", "POST_SAVE")]⟩]
  pending := [⟨⟨1700000000000, 0⟩, 3⟩]
  dlq := []
  streamOrdered := List.pairwise_singleton ..
  pendingOrdered := List.pairwise_singleton ..
  pendingFits := by decide

/-- It stays where it is. -/
theorem deliveredThrice_not_reclaimed :
    ¬ ReclaimsExactly 100 3 deliveredThrice
      (reclaimDeadEvents (fun _ _ => generatorJoin "7f0000000000") true ascendingOrder 100 3
        deliveredThrice).2 := by
  rw [reclaimDeadEvents_generatorJoin]
  intro h
  have hpending : (⟨⟨1700000000000, 0⟩, 3⟩ : PendingEvent) ∈ deliveredThrice.pending :=
    List.mem_cons_self ..
  exact ((h.removed _).mp hpending).2 ⟨_, List.mem_cons_self .., rfl, by decide⟩

end DatabaseWorkers
end Tenjin
