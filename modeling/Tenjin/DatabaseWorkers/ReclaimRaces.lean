import Tenjin.DatabaseWorkers.Reclamation
import Tenjin.Foundation.GuardedRun

/-!
# Reclaiming pending events from several sides

`reclaim_pending_events` of `coordination.py` run by any number of workers on one consumer
group, whose consumers read, read again and acknowledge in the meantime.

* `GroupServer` is the stream and the group with its pending list.  `reads` and `claims` are
  logs: what was delivered, and which entries were reclaimed.
* A call is split at its two commands: `scan` is the `XPENDING`, `claim` the `XCLAIM`.
* `always_claimsSound` — an entry is reclaimed only after it has been idle for the threshold
  of the one who reclaims it, so two workers never reclaim it from one another at once; it was
  below the limit of deliveries when the call looked at it, and one that no longer is gets
  reclaimed only by a call that has slept over the whole threshold; and reclaiming never
  counts as a delivery.
-/

namespace Tenjin
namespace DatabaseWorkers

open Foundation ResourceAuxillary

/-- An entry of the pending list, with its consumer and the time of its last delivery. -/
structure PendingEntry where
  messageId : StreamId
  consumer : String
  timesDelivered : ℕ
  deliveredAt : ℕ
  deriving DecidableEq

/-- The arguments of `reclaim_pending_events`, apart from the stream and the group. -/
structure ReclaimSettings where
  readCount : ℕ
  reclaimConsumerName : String
  idleTimeThreshold : ℕ
  maxDeliveries : Int

/-- What a call has collected so far, with what it has seen of it, and when. -/
structure Scan where
  scannedAt : ℕ
  collected : List PendingEntry

/-- `reclaimation_ids`. -/
def Scan.reclaimationIds (scan : Scan) : List StreamId :=
  scan.collected.map PendingEntry.messageId

/-- The entry as the call has seen it. -/
def Scan.seen (scan : Scan) (id : StreamId) : Option PendingEntry :=
  scan.collected.find? fun p => p.messageId = id

/-- A change of the consumer of an entry: by whom and when it was reclaimed, when the call
had looked at it and what it had seen then, and what the entry was like before the change. -/
structure Claim where
  worker : ℕ
  claimedAt : ℕ
  scannedAt : ℕ
  seen : Option PendingEntry
  before : PendingEntry

/-- The stream and one group of it.  `lastDelivered` is the last ID that was delivered to any
consumer of the group. -/
structure GroupServer where
  now : ℕ
  stream : Finset StreamId
  lastDelivered : StreamId
  pending : List PendingEntry
  reads : List StreamId
  claims : List Claim
  scans : ℕ → Option Scan

/-- What the consumers and the workers do. -/
inductive GroupLabel
  | elapse (milliseconds : ℕ)
  | add (id : StreamId)
  | remove (id : StreamId)
  | readNew (consumer : String) (count : ℕ)
  | readHistory (consumer : String) (count : ℕ)
  | ack (id : StreamId)
  | scan (worker : ℕ)
  | claim (worker : ℕ)

/-- The entries whose IDs `reclaim_pending_events` collects. -/
def collectReclaimable (settings : ReclaimSettings) (now : ℕ) (pending : List PendingEntry) :
    List PendingEntry :=
  let pendingEventData := pending.take settings.readCount
  pendingEventData.filter fun p =>
    p.timesDelivered < settings.maxDeliveries ∧
      settings.idleTimeThreshold < now - p.deliveredAt

/-- `XCLAIM` of an entry with `JUSTID`: the idle time starts again and the deliveries stay as
they are.  An entry that the stream no longer has leaves the pending list. -/
def xclaimEntry (settings : ReclaimSettings) (server : GroupServer) (ids : List StreamId)
    (p : PendingEntry) : Option PendingEntry :=
  if p.messageId ∉ ids then some p
  else if p.messageId ∉ server.stream then none
  else if settings.idleTimeThreshold ≤ server.now - p.deliveredAt then
    some { p with consumer := settings.reclaimConsumerName, deliveredAt := server.now }
  else some p

/-- `XCLAIM` hands the entry over. -/
def Claimable (settings : ReclaimSettings) (server : GroupServer) (ids : List StreamId)
    (p : PendingEntry) : Prop :=
  p.messageId ∈ ids ∧ p.messageId ∈ server.stream ∧
    settings.idleTimeThreshold ≤ server.now - p.deliveredAt

instance (settings : ReclaimSettings) (server : GroupServer) (ids : List StreamId)
    (p : PendingEntry) : Decidable (Claimable settings server ids p) :=
  inferInstanceAs (Decidable (_ ∧ _ ∧ _))

/-- The delivery of an entry that a consumer asks for again.  An entry that the stream no
longer has is listed without its fields and stays as it is. -/
def redeliver (server : GroupServer) (ids : List StreamId) (p : PendingEntry) : PendingEntry :=
  if p.messageId ∈ ids then
    { p with timesDelivered := p.timesDelivered + 1, deliveredAt := server.now }
  else p

/-- The entries of a consumer that a read of its history returns. -/
def historyIds (server : GroupServer) (consumer : String) (count : ℕ) : List StreamId :=
  (((server.pending.filter fun p => p.consumer = consumer).take count).map
    PendingEntry.messageId).filter fun id => id ∈ server.stream

/-- The entries that a read for new ones returns. -/
def freshIds (server : GroupServer) (count : ℕ) : List StreamId :=
  (ascendingOrder.enumerate (server.stream.filter (server.lastDelivered < ·))).take count

/-- One command, of any party. -/
def groupStep (settings : ℕ → ReclaimSettings) (server : GroupServer) :
    GroupLabel → Option GroupServer
  | .elapse milliseconds => some { server with now := server.now + milliseconds }
  | .add id =>
      -- `XADD` takes an ID that is greater than all earlier ones
      if server.lastDelivered < id ∧ ∀ other ∈ server.stream, other < id then
        some { server with stream := insert id server.stream }
      else none
  | .remove id => some { server with stream := server.stream.erase id }
  | .readNew consumer count =>
      let fresh := freshIds server count
      some { server with
        lastDelivered := fresh.getLastD server.lastDelivered
        pending := server.pending ++ fresh.map fun id => ⟨id, consumer, 1, server.now⟩
        reads := fresh ++ server.reads }
  | .readHistory consumer count =>
      let ids := historyIds server consumer count
      some { server with
        pending := server.pending.map (redeliver server ids)
        reads := ids ++ server.reads }
  | .ack id => some { server with pending := server.pending.filter (·.messageId ≠ id) }
  | .scan worker =>
      let collected := collectReclaimable (settings worker) server.now server.pending
      if collected = [] then
        some { server with scans := Function.update server.scans worker none }
      else
        some { server with
          scans := Function.update server.scans worker (some ⟨server.now, collected⟩) }
  | .claim worker =>
      match server.scans worker with
      | none => none
      | some scan =>
          let claimed := server.pending.filter fun p =>
            Claimable (settings worker) server scan.reclaimationIds p
          some { server with
            pending := server.pending.filterMap
              (xclaimEntry (settings worker) server scan.reclaimationIds)
            claims := claimed.map
              (fun p => ⟨worker, server.now, scan.scannedAt, scan.seen p.messageId, p⟩) ++
              server.claims
            scans := Function.update server.scans worker none }

/-- A group that has just been created at the end of a stream. -/
def GroupServer.created (now : ℕ) (stream : Finset StreamId) : GroupServer where
  now := now
  stream := stream
  lastDelivered := (ascendingOrder.enumerate stream).getLastD ⟨0, 0⟩
  pending := []
  reads := []
  claims := []
  scans := fun _ => none

/-- What is promised of the entries that were reclaimed, and of the deliveries. -/
structure ClaimsSound (settings : ℕ → ReclaimSettings) (server : GroupServer) : Prop where
  /-- The entry was idle for the threshold of the one who reclaimed it. -/
  idle : ∀ c ∈ server.claims,
    c.before.deliveredAt + (settings c.worker).idleTimeThreshold ≤ c.claimedAt
  /-- Between two claims of one entry lies the threshold of the later one. -/
  spaced : server.claims.Pairwise fun later earlier =>
    later.before.messageId = earlier.before.messageId →
      earlier.claimedAt + (settings later.worker).idleTimeThreshold ≤ later.claimedAt
  /-- The entry was below the limit of deliveries, and idle for longer than the threshold, when
  the call looked at it. -/
  alive : ∀ c ∈ server.claims, ∃ seen, c.seen = some seen ∧
    seen.messageId = c.before.messageId ∧
    seen.timesDelivered < (settings c.worker).maxDeliveries ∧
    seen.deliveredAt + (settings c.worker).idleTimeThreshold < c.scannedAt
  /-- If it was delivered too often by the time of its claim, the call had looked at it the
  whole threshold ago. -/
  late : ∀ c ∈ server.claims,
    c.before.timesDelivered < (settings c.worker).maxDeliveries ∨
      c.scannedAt + (settings c.worker).idleTimeThreshold ≤ c.claimedAt
  /-- An entry was delivered as often as it was read. -/
  counted : ∀ p ∈ server.pending, p.timesDelivered = server.reads.count p.messageId

/-- What holds besides, whatever the parties do. -/
structure GroupInv (settings : ℕ → ReclaimSettings) (server : GroupServer) : Prop
    extends ClaimsSound settings server where
  nodup : (server.pending.map PendingEntry.messageId).Nodup
  below : ∀ p ∈ server.pending, p.messageId ≤ server.lastDelivered
  readsBelow : ∀ id ∈ server.reads, id ≤ server.lastDelivered
  past : ∀ p ∈ server.pending, p.deliveredAt ≤ server.now
  scanPast : ∀ worker scan, server.scans worker = some scan → scan.scannedAt ≤ server.now
  claimPast : ∀ c ∈ server.claims, c.claimedAt ≤ server.now
  /-- An entry is as it was when a call looked at it, or it was delivered since. -/
  scanned : ∀ worker scan, server.scans worker = some scan →
    ∀ p ∈ server.pending, p.messageId ∈ scan.reclaimationIds →
      p.timesDelivered < (settings worker).maxDeliveries ∨ scan.scannedAt ≤ p.deliveredAt
  /-- What a call has collected was reclaimable when it looked. -/
  collected : ∀ worker scan, server.scans worker = some scan → ∀ seen ∈ scan.collected,
    seen.timesDelivered < (settings worker).maxDeliveries ∧
      seen.deliveredAt + (settings worker).idleTimeThreshold < scan.scannedAt
  /-- A pending entry was delivered to its consumer after its last claim, or by it. -/
  claimed : ∀ c ∈ server.claims, ∀ p ∈ server.pending,
    p.messageId = c.before.messageId → c.claimedAt ≤ p.deliveredAt

section
variable {settings : ℕ → ReclaimSettings} {server : GroupServer}

/-- The last item of an ordered list is the greatest. -/
theorem le_getLastD {ids : List StreamId} (h : ids.Pairwise (· ≤ ·)) (last : StreamId) :
    ∀ id ∈ ids, id ≤ ids.getLastD last := by
  intro id hid
  rw [List.getLastD_eq_getLast?, List.getLast?_eq_some_getLast (List.ne_nil_of_mem hid)]
  exact h.rel_getLast hid

/-- The fresh entries come after the last one that was delivered, each once, and not after
the last one that will then have been. -/
theorem freshIds_spec (server : GroupServer) (count : ℕ) :
    (freshIds server count).Nodup ∧
      (∀ id ∈ freshIds server count, server.lastDelivered < id) ∧
      (∀ id ∈ freshIds server count, id ≤ (freshIds server count).getLastD server.lastDelivered) ∧
      server.lastDelivered ≤ (freshIds server count).getLastD server.lastDelivered := by
  have hsub := List.take_sublist count
    (ascendingOrder.enumerate (server.stream.filter (server.lastDelivered < ·)))
  have hordered : (freshIds server count).Pairwise (· ≤ ·) :=
    (Finset.pairwise_sort _ _).sublist hsub
  have hlater : ∀ id ∈ freshIds server count, server.lastDelivered < id := by
    intro id hid
    have hmem := (Finset.mem_sort _).mp (hsub.subset hid)
    exact (Finset.mem_filter.mp hmem).2
  refine ⟨(Finset.sort_nodup _ _).sublist hsub, hlater, le_getLastD hordered _, ?_⟩
  cases hfresh : freshIds server count with
  | nil => exact le_refl _
  | cons first rest =>
      have hfirst : first ∈ freshIds server count := by simp [hfresh]
      have hle := le_getLastD hordered server.lastDelivered first hfirst
      rw [hfresh] at hle
      exact (hlater first hfirst).le.trans hle

theorem GroupInv.created (settings : ℕ → ReclaimSettings) (now : ℕ) (stream : Finset StreamId) :
    GroupInv settings (GroupServer.created now stream) where
  idle := nofun
  spaced := List.Pairwise.nil
  alive := nofun
  late := nofun
  counted := nofun
  nodup := List.nodup_nil
  below := nofun
  readsBelow := nofun
  past := nofun
  scanPast := nofun
  claimPast := nofun
  scanned := nofun
  collected := nofun
  claimed := nofun

/-- Time that passes, and changes of the stream. -/
theorem GroupInv.environment (h : GroupInv settings server) {now : ℕ} (hnow : server.now ≤ now)
    (stream : Finset StreamId) :
    GroupInv settings { server with now := now, stream := stream } where
  idle := h.idle
  spaced := h.spaced
  alive := h.alive
  late := h.late
  counted := h.counted
  nodup := h.nodup
  below := h.below
  readsBelow := h.readsBelow
  past := fun p hp => (h.past p hp).trans hnow
  scanPast := fun worker scan hscan => (h.scanPast worker scan hscan).trans hnow
  claimPast := fun c hc => (h.claimPast c hc).trans hnow
  scanned := h.scanned
  collected := h.collected
  claimed := h.claimed

/-- Fewer pending entries. -/
theorem GroupInv.fewer (h : GroupInv settings server) {pending : List PendingEntry}
    (hsub : pending.Sublist server.pending) :
    GroupInv settings { server with pending := pending } where
  idle := h.idle
  spaced := h.spaced
  alive := h.alive
  late := h.late
  counted := fun p hp => h.counted p (hsub.subset hp)
  nodup := h.nodup.sublist (hsub.map _)
  below := fun p hp => h.below p (hsub.subset hp)
  readsBelow := h.readsBelow
  past := fun p hp => h.past p (hsub.subset hp)
  scanPast := h.scanPast
  claimPast := h.claimPast
  scanned := fun worker scan hs p hp => h.scanned worker scan hs p (hsub.subset hp)
  collected := h.collected
  claimed := fun c hc p hp => h.claimed c hc p (hsub.subset hp)

/-- What a worker remembers of its scan. -/
theorem GroupInv.remember (h : GroupInv settings server) (worker : ℕ) (scan : Option Scan)
    (hpast : ∀ sc, scan = some sc → sc.scannedAt ≤ server.now)
    (hscan : ∀ sc, scan = some sc → ∀ p ∈ server.pending, p.messageId ∈ sc.reclaimationIds →
      p.timesDelivered < (settings worker).maxDeliveries ∨ sc.scannedAt ≤ p.deliveredAt)
    (hcollected : ∀ sc, scan = some sc → ∀ seen ∈ sc.collected,
      seen.timesDelivered < (settings worker).maxDeliveries ∧
        seen.deliveredAt + (settings worker).idleTimeThreshold < sc.scannedAt) :
    GroupInv settings { server with scans := Function.update server.scans worker scan } where
  idle := h.idle
  spaced := h.spaced
  alive := h.alive
  late := h.late
  counted := h.counted
  nodup := h.nodup
  below := h.below
  readsBelow := h.readsBelow
  past := h.past
  scanPast := by
    intro other sc hsc
    change Function.update server.scans worker scan other = some sc at hsc
    by_cases hother : other = worker
    · subst hother
      rw [Function.update_self] at hsc
      exact hpast sc hsc
    · rw [Function.update_of_ne hother] at hsc
      exact h.scanPast other sc hsc
  claimPast := h.claimPast
  scanned := by
    intro other sc hsc p hp hid
    change Function.update server.scans worker scan other = some sc at hsc
    by_cases hother : other = worker
    · subst hother
      rw [Function.update_self] at hsc
      exact hscan sc hsc p hp hid
    · rw [Function.update_of_ne hother] at hsc
      exact h.scanned other sc hsc p hp hid
  collected := by
    intro other sc hsc
    change Function.update server.scans worker scan other = some sc at hsc
    by_cases hother : other = worker
    · subst hother
      rw [Function.update_self] at hsc
      exact hcollected sc hsc
    · rw [Function.update_of_ne hother] at hsc
      exact h.collected other sc hsc
  claimed := h.claimed

/-- The entries that are collected are pending, below the limit and idle. -/
theorem mem_collectReclaimable {own : ReclaimSettings} {seen : PendingEntry}
    (h : seen ∈ collectReclaimable own server.now server.pending) :
    seen ∈ server.pending ∧ seen.timesDelivered < own.maxDeliveries ∧
      seen.deliveredAt + own.idleTimeThreshold < server.now := by
  obtain ⟨hmem, hcond⟩ := List.mem_filter.mp h
  obtain ⟨hfew, hidle⟩ := of_decide_eq_true hcond
  exact ⟨List.mem_of_mem_take hmem, hfew, by omega⟩

/-- An entry whose ID was collected has been seen. -/
theorem Scan.seen_of_mem {scan : Scan} {id : StreamId} (h : id ∈ scan.reclaimationIds) :
    ∃ seen ∈ scan.collected, scan.seen id = some seen ∧ seen.messageId = id := by
  obtain ⟨q, hq, hqid⟩ := List.mem_map.mp h
  cases hseen : scan.seen id with
  | none =>
      have hnone := List.find?_eq_none.mp hseen q hq
      simp [hqid] at hnone
  | some seen =>
      have hid := List.find?_some hseen
      exact ⟨seen, List.mem_of_find?_eq_some hseen, rfl, of_decide_eq_true hid⟩

/-- A read for new entries. -/
theorem GroupInv.readNew (h : GroupInv settings server) (consumer : String) (count : ℕ) :
    GroupInv settings { server with
      lastDelivered := (freshIds server count).getLastD server.lastDelivered
      pending := server.pending ++
        (freshIds server count).map fun id => ⟨id, consumer, 1, server.now⟩
      reads := freshIds server count ++ server.reads } := by
  obtain ⟨hnodup, hlater, hlast, hle⟩ := freshIds_spec server count
  -- a pending entry is an old one, or a fresh one that is delivered now
  have hcases : ∀ p ∈ server.pending ++ (freshIds server count).map
      (fun id => (⟨id, consumer, 1, server.now⟩ : PendingEntry)),
      p ∈ server.pending ∨ p.messageId ∈ freshIds server count ∧ p.timesDelivered = 1 ∧
        p.deliveredAt = server.now := by
    intro p hp
    rcases List.mem_append.mp hp with hp | hp
    · exact .inl hp
    · obtain ⟨id, hid, rfl⟩ := List.mem_map.mp hp
      exact .inr ⟨hid, rfl, rfl⟩
  have hfresh : ∀ id ∈ freshIds server count, ¬ id ≤ server.lastDelivered :=
    fun id hid => not_le.mpr (hlater id hid)
  exact {
    idle := h.idle
    spaced := h.spaced
    alive := h.alive
    late := h.late
    counted := by
      intro p hp
      show p.timesDelivered = (freshIds server count ++ server.reads).count p.messageId
      rw [List.count_append]
      rcases hcases p hp with hp | ⟨hid, hone, _⟩
      · have habsent : p.messageId ∉ freshIds server count :=
          fun hid => hfresh _ hid (h.below p hp)
        rw [List.count_eq_zero_of_not_mem habsent, Nat.zero_add]
        exact h.counted p hp
      · have habsent : p.messageId ∉ server.reads :=
          fun hread => hfresh _ hid (h.readsBelow _ hread)
        rw [List.count_eq_zero_of_not_mem habsent, List.count_eq_one_of_mem hnodup hid, hone]
    nodup := by
      show ((server.pending ++ _).map PendingEntry.messageId).Nodup
      rw [List.map_append, List.map_map]
      have hids : (freshIds server count).map
          (PendingEntry.messageId ∘ fun id => ⟨id, consumer, 1, server.now⟩) =
          freshIds server count := List.map_id _
      rw [hids]
      refine List.Nodup.append h.nodup hnodup fun id hold hid => ?_
      obtain ⟨p, hp, rfl⟩ := List.mem_map.mp hold
      exact hfresh _ hid (h.below p hp)
    below := by
      intro p hp
      rcases hcases p hp with hp | ⟨hid, _⟩
      · exact (h.below p hp).trans hle
      · exact hlast _ hid
    readsBelow := by
      intro id hid
      rcases List.mem_append.mp hid with hid | hid
      · exact hlast id hid
      · exact (h.readsBelow id hid).trans hle
    past := by
      intro p hp
      rcases hcases p hp with hp | ⟨_, _, hnow⟩
      · exact h.past p hp
      · exact hnow.le
    scanPast := h.scanPast
    claimPast := h.claimPast
    scanned := by
      intro worker scan hscan p hp hid
      rcases hcases p hp with hp | ⟨_, _, hnow⟩
      · exact h.scanned worker scan hscan p hp hid
      · exact .inr ((h.scanPast worker scan hscan).trans hnow.ge)
    collected := h.collected
    claimed := by
      intro c hc p hp hid
      rcases hcases p hp with hp | ⟨_, _, hnow⟩
      · exact h.claimed c hc p hp hid
      · exact (h.claimPast c hc).trans hnow.ge }

/-- A read of a consumer's history. -/
theorem GroupInv.readHistory (h : GroupInv settings server) (consumer : String) (count : ℕ) :
    GroupInv settings { server with
      pending := server.pending.map (redeliver server (historyIds server consumer count))
      reads := historyIds server consumer count ++ server.reads } := by
  have hnodup : (historyIds server consumer count).Nodup := by
    have hsub : (((server.pending.filter fun p => p.consumer = consumer).take count).map
        PendingEntry.messageId).Sublist (server.pending.map PendingEntry.messageId) :=
      ((List.take_sublist _ _).trans List.filter_sublist).map _
    exact (h.nodup.sublist hsub).filter _
  have hold : ∀ id ∈ historyIds server consumer count, id ≤ server.lastDelivered := by
    intro id hid
    obtain ⟨p, hp, rfl⟩ := List.mem_map.mp (List.mem_of_mem_filter hid)
    exact h.below p (List.mem_of_mem_filter (List.mem_of_mem_take hp))
  have hid : ∀ p, (redeliver server (historyIds server consumer count) p).messageId =
      p.messageId := by
    intro p
    unfold redeliver
    split <;> rfl
  -- an entry stays as it is, or it is delivered now
  have hcases : ∀ p ∈ server.pending.map (redeliver server (historyIds server consumer count)),
      ∃ q ∈ server.pending, q.messageId = p.messageId ∧
        (p = q ∨ p.deliveredAt = server.now) ∧
        p.timesDelivered = (historyIds server consumer count).count p.messageId +
          q.timesDelivered := by
    intro p hp
    obtain ⟨q, hq, rfl⟩ := List.mem_map.mp hp
    refine ⟨q, hq, (hid q).symm, ?_⟩
    rw [hid]
    unfold redeliver
    split
    · rename_i hmem
      exact ⟨.inr rfl, by rw [List.count_eq_one_of_mem hnodup hmem, Nat.add_comm]⟩
    · rename_i hmem
      exact ⟨.inl rfl, by rw [List.count_eq_zero_of_not_mem hmem, Nat.zero_add]⟩
  exact {
    idle := h.idle
    spaced := h.spaced
    alive := h.alive
    late := h.late
    counted := by
      intro p hp
      obtain ⟨q, hq, hqid, _, htimes⟩ := hcases p hp
      show p.timesDelivered = (historyIds server consumer count ++ server.reads).count p.messageId
      rw [List.count_append, htimes, h.counted q hq, hqid]
    nodup := by
      show ((server.pending.map _).map PendingEntry.messageId).Nodup
      have hids : PendingEntry.messageId ∘ redeliver server (historyIds server consumer count) =
          PendingEntry.messageId := funext hid
      rw [List.map_map, hids]
      exact h.nodup
    below := by
      intro p hp
      obtain ⟨q, hq, hqid, _⟩ := hcases p hp
      exact hqid ▸ h.below q hq
    readsBelow := by
      intro id hmem
      rcases List.mem_append.mp hmem with hmem | hmem
      · exact hold id hmem
      · exact h.readsBelow id hmem
    past := by
      intro p hp
      obtain ⟨q, hq, _, rfl | hnow, _⟩ := hcases p hp
      · exact h.past p hq
      · exact hnow.le
    scanPast := h.scanPast
    claimPast := h.claimPast
    scanned := by
      intro worker scan hscan p hp hpid
      obtain ⟨q, hq, _, rfl | hnow, _⟩ := hcases p hp
      · exact h.scanned worker scan hscan p hq hpid
      · exact .inr ((h.scanPast worker scan hscan).trans hnow.ge)
    collected := h.collected
    claimed := by
      intro c hc p hp hpid
      obtain ⟨q, hq, _, rfl | hnow, _⟩ := hcases p hp
      · exact h.claimed c hc p hq hpid
      · exact (h.claimPast c hc).trans hnow.ge }

/-- The IDs of the entries that an operation leaves, where it changes no ID. -/
theorem sublist_ids {f : PendingEntry → Option PendingEntry}
    (hf : ∀ p q, f p = some q → q.messageId = p.messageId) (pending : List PendingEntry) :
    ((pending.filterMap f).map PendingEntry.messageId).Sublist
      (pending.map PendingEntry.messageId) := by
  induction pending with
  | nil => exact List.Sublist.slnil
  | cons p pending ih =>
      cases hp : f p with
      | none =>
          rw [List.filterMap_cons_none hp, List.map_cons]
          exact ih.cons _
      | some q =>
          rw [List.filterMap_cons_some hp, List.map_cons, List.map_cons, hf p q hp]
          exact ih.cons_cons _

/-- An entry that an `XCLAIM` leaves in the list stays as it is, or it is handed over now. -/
theorem xclaimEntry_spec {own : ReclaimSettings} {ids : List StreamId} {q p : PendingEntry}
    (h : xclaimEntry own server ids q = some p) :
    p.messageId = q.messageId ∧ p.timesDelivered = q.timesDelivered ∧
      (p = q ∧ ¬ Claimable own server ids q ∨ p.deliveredAt = server.now) := by
  unfold xclaimEntry at h
  split at h
  · rename_i hids
    cases h
    exact ⟨rfl, rfl, .inl ⟨rfl, fun hclaim => hids hclaim.1⟩⟩
  split at h
  · cases h
  split at h
  · cases h
    exact ⟨rfl, rfl, .inr rfl⟩
  · rename_i hidle
    cases h
    exact ⟨rfl, rfl, .inl ⟨rfl, fun hclaim => hidle hclaim.2.2⟩⟩

/-- The `XCLAIM` of a call. -/
theorem GroupInv.claim (h : GroupInv settings server) {worker : ℕ} {scan : Scan}
    (hscan : server.scans worker = some scan) :
    GroupInv settings { server with
      pending := server.pending.filterMap
        (xclaimEntry (settings worker) server scan.reclaimationIds)
      claims := (server.pending.filter fun p =>
        Claimable (settings worker) server scan.reclaimationIds p).map
          (fun p => ⟨worker, server.now, scan.scannedAt, scan.seen p.messageId, p⟩) ++
            server.claims } := by
  -- an entry stays as it is, or it is handed over now
  have hcases : ∀ p ∈ server.pending.filterMap
      (xclaimEntry (settings worker) server scan.reclaimationIds),
      ∃ q ∈ server.pending, q.messageId = p.messageId ∧ q.timesDelivered = p.timesDelivered ∧
        (p = q ∧ ¬ Claimable (settings worker) server scan.reclaimationIds q ∨
          p.deliveredAt = server.now) := by
    intro p hp
    obtain ⟨q, hq, hqp⟩ := List.mem_filterMap.mp hp
    obtain ⟨hid, htimes, hkept⟩ := xclaimEntry_spec hqp
    exact ⟨q, hq, hid.symm, htimes.symm, hkept⟩
  have hclaims : ∀ c ∈ (server.pending.filter fun p =>
      Claimable (settings worker) server scan.reclaimationIds p).map
        (fun p => (⟨worker, server.now, scan.scannedAt, scan.seen p.messageId, p⟩ : Claim)),
      c.worker = worker ∧ c.claimedAt = server.now ∧ c.scannedAt = scan.scannedAt ∧
        c.seen = scan.seen c.before.messageId ∧ c.before ∈ server.pending ∧
        Claimable (settings worker) server scan.reclaimationIds c.before := by
    intro c hc
    obtain ⟨p, hp, rfl⟩ := List.mem_map.mp hc
    obtain ⟨hmem, hclaim⟩ := List.mem_filter.mp hp
    exact ⟨rfl, rfl, rfl, rfl, hmem, of_decide_eq_true hclaim⟩
  -- what is handed over has been idle long enough, and was fine when the call looked at it
  have hidle : ∀ q ∈ server.pending,
      Claimable (settings worker) server scan.reclaimationIds q →
      q.deliveredAt + (settings worker).idleTimeThreshold ≤ server.now := by
    intro q hq hclaim
    have hpast := h.past q hq
    have hthreshold := hclaim.2.2
    omega
  exact {
    idle := by
      intro c hc
      rcases List.mem_append.mp hc with hc | hc
      · obtain ⟨hworker, hat, _, _, hmem, hclaim⟩ := hclaims c hc
        rw [hworker, hat]
        exact hidle _ hmem hclaim
      · exact h.idle c hc
    spaced := by
      refine List.pairwise_append.mpr ⟨?_, h.spaced, ?_⟩
      · -- one `XCLAIM` hands an entry over once
        rw [List.pairwise_map]
        have hnodup := (List.pairwise_map.mp h.nodup).filter fun p =>
          decide (Claimable (settings worker) server scan.reclaimationIds p)
        exact hnodup.imp fun hne heq => absurd heq hne
      · intro later hlater earlier hearlier heq
        obtain ⟨hworker, hat, _, _, hmem, hclaim⟩ := hclaims later hlater
        have hbefore := h.claimed earlier hearlier later.before hmem heq
        have hlong := hidle _ hmem hclaim
        rw [hworker, hat]
        omega
    alive := by
      intro c hc
      rcases List.mem_append.mp hc with hc | hc
      · obtain ⟨hworker, _, hscannedAt, hseenAt, _, hclaim⟩ := hclaims c hc
        obtain ⟨seen, hcollected, hseen, hid⟩ := Scan.seen_of_mem hclaim.1
        rw [hworker, hscannedAt, hseenAt]
        exact ⟨seen, hseen, hid, h.collected worker scan hscan seen hcollected⟩
      · exact h.alive c hc
    late := by
      intro c hc
      rcases List.mem_append.mp hc with hc | hc
      · obtain ⟨hworker, hat, hscannedAt, _, hmem, hclaim⟩ := hclaims c hc
        rw [hworker, hat, hscannedAt]
        rcases h.scanned worker scan hscan c.before hmem hclaim.1 with hfew | hsince
        · exact .inl hfew
        · have hlong := hidle _ hmem hclaim
          exact .inr (by omega)
      · exact h.late c hc
    counted := by
      intro p hp
      obtain ⟨q, hq, hqid, htimes, _⟩ := hcases p hp
      rw [← htimes, ← hqid]
      exact h.counted q hq
    nodup := h.nodup.sublist
      (sublist_ids (fun _ _ hqp => (xclaimEntry_spec hqp).1) server.pending)
    below := by
      intro p hp
      obtain ⟨q, hq, hqid, _⟩ := hcases p hp
      exact hqid ▸ h.below q hq
    readsBelow := h.readsBelow
    past := by
      intro p hp
      obtain ⟨q, hq, _, _, ⟨rfl, _⟩ | hnow⟩ := hcases p hp
      · exact h.past p hq
      · exact hnow.le
    scanPast := h.scanPast
    claimPast := by
      intro c hc
      rcases List.mem_append.mp hc with hc | hc
      · exact (hclaims c hc).2.1.le
      · exact h.claimPast c hc
    scanned := by
      intro other sc hsc p hp hpid
      obtain ⟨q, hq, _, _, ⟨rfl, _⟩ | hnow⟩ := hcases p hp
      · exact h.scanned other sc hsc p hq hpid
      · exact .inr ((h.scanPast other sc hsc).trans hnow.ge)
    collected := h.collected
    claimed := by
      intro c hc p hp hpid
      obtain ⟨q, hq, hqid, _, ⟨rfl, hkept⟩ | hnow⟩ := hcases p hp
      · rcases List.mem_append.mp hc with hc | hc
        · obtain ⟨_, _, _, _, hmem, hclaim⟩ := hclaims c hc
          have heq : p = c.before := List.inj_on_of_nodup_map h.nodup hq hmem hpid
          rw [heq] at hkept
          exact absurd hclaim hkept
        · exact h.claimed c hc p hq hpid
      · rw [hnow]
        rcases List.mem_append.mp hc with hc | hc
        · exact (hclaims c hc).2.1.le
        · exact h.claimPast c hc }

/-- Every step keeps the invariant. -/
theorem GroupInv.step {server' : GroupServer} {label : GroupLabel} (h : GroupInv settings server)
    (hstep : groupStep settings server label = some server') : GroupInv settings server' := by
  cases label with
  | elapse milliseconds =>
      simp only [groupStep, Option.some.injEq] at hstep
      exact hstep ▸ h.environment (Nat.le_add_right _ _) server.stream
  | add id =>
      simp only [groupStep] at hstep
      split at hstep
      · simp only [Option.some.injEq] at hstep
        exact hstep ▸ h.environment (le_refl _) (insert id server.stream)
      · cases hstep
  | remove id =>
      simp only [groupStep, Option.some.injEq] at hstep
      exact hstep ▸ h.environment (le_refl _) (server.stream.erase id)
  | readNew consumer count =>
      simp only [groupStep, Option.some.injEq] at hstep
      exact hstep ▸ h.readNew consumer count
  | readHistory consumer count =>
      simp only [groupStep, Option.some.injEq] at hstep
      exact hstep ▸ h.readHistory consumer count
  | ack id =>
      simp only [groupStep, Option.some.injEq] at hstep
      exact hstep ▸ h.fewer List.filter_sublist
  | scan worker =>
      simp only [groupStep] at hstep
      split at hstep
      · simp only [Option.some.injEq] at hstep
        exact hstep ▸ h.remember worker none nofun nofun nofun
      · simp only [Option.some.injEq] at hstep
        refine hstep ▸ h.remember worker (some _) ?_ ?_ ?_
        · rintro sc ⟨⟩
          exact le_refl _
        · rintro sc ⟨⟩ p hp hid
          obtain ⟨seen, hseen, hseenId⟩ := List.mem_map.mp hid
          obtain ⟨hmem, hfew, _⟩ := mem_collectReclaimable hseen
          -- an ID has one entry
          have heq : seen = p := List.inj_on_of_nodup_map h.nodup hmem hp hseenId
          exact .inl (heq ▸ hfew)
        · rintro sc ⟨⟩ seen hseen
          exact (mem_collectReclaimable hseen).2
  | claim worker =>
      simp only [groupStep] at hstep
      split at hstep
      · cases hstep
      · rename_i scan hscan
        simp only [Option.some.injEq] at hstep
        exact hstep ▸ (h.claim hscan).remember worker none nofun nofun nofun

end

/-- In every run of any number of workers with any settings, from the creation of the group,
entries are reclaimed soundly. -/
theorem always_claimsSound (settings : ℕ → ReclaimSettings) (now : ℕ) (stream : Finset StreamId)
    (labels : List GroupLabel) :
    Always (groupStep settings) (ClaimsSound settings) (GroupServer.created now stream) labels :=
  Always.imp (fun _ h => h.toClaimsSound)
    (always_of_preserved (fun _ _ _ h hstep => h.step hstep) labels _
      (GroupInv.created settings now stream))

end DatabaseWorkers
end Tenjin
