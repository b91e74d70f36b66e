import Mathlib.Data.List.Chain
import Mathlib.Data.List.Dedup
import Tenjin.Foundation.Cycle
import Tenjin.Foundation.GuardedRun
import Tenjin.Python.BytesText

/-!
# The order in which the counter groups are flushed

`batch_update_counters` of `counters.py`, one iteration after the other, with any registry
and any clock.  The loop goes over `itertools.cycle(counter_groups)`, an iterator that is
made once; a refresh assigns the variable, and the iterator goes on with the groups of the
start.

* `scheduleStep` is one iteration.
* `HonoursRefreshes` is the purpose: each group that is flushed is in the set retrieved last,
  and as many iterations in a row as this set has groups flush each of them once.
* `reachable_schedulerInv` — what is flushed goes round the groups of the start, in every run.
* `always_honoursRefreshes` — the purpose is met in every run whose refreshes retrieve the
  groups of the start.
* `mem_cycle_of_honoursRefreshes` — a refresh that retrieves other groups is not honoured
  once there have been as many iterations as both sets have groups.
-/

namespace Tenjin
namespace DatabaseWorkers

open Python Foundation

/-- `retrieve_counter_group_names`: the set of the names, in some order. -/
def retrieveCounterGroupNames (decodeResponses : Bool) (members : List String) : List String :=
  (members.map fun member => if decodeResponses then member else pyStrOfBytes member).dedup

/-- The interval between two refreshes, and what the client makes of replies. -/
structure SchedulerConfig where
  counterRegistryRefreshInterval : ℕ
  decodeResponses : Bool

/-- A call of `batch_update_counter_group`, with the variable `counter_groups` at this time;
`refreshed` says that it has been assigned in this iteration. -/
structure GroupFlush where
  counterGroup : String
  counterGroups : List String
  refreshed : Bool

/-- What the iterator goes round, the variables, the calls so far, and whether the task is
alive. -/
structure SchedulerState where
  cycle : List String
  counterGroups : List String
  refreshTime : Int
  flushes : List GroupFlush
  alive : Bool

/-- What an iteration meets: the seconds of the clock at the test and after a refresh, the
registry, and what the rest of the body returns or raises. -/
structure SchedulerIteration where
  now : Int
  registry : List String
  refreshedAt : Int
  answer : Except Exn Unit

section
variable (config : SchedulerConfig)

/-- In front of the loop. -/
def SchedulerState.start (members : List String) (refreshTime : Int) : SchedulerState :=
  let counterGroups := retrieveCounterGroupNames config.decodeResponses members
  ⟨counterGroups, counterGroups, refreshTime, [], true⟩

/-- It is time for a refresh. -/
def RefreshDue (s : SchedulerState) (iteration : SchedulerIteration) : Prop :=
  config.counterRegistryRefreshInterval ≤ iteration.now - s.refreshTime

instance (s : SchedulerState) (iteration : SchedulerIteration) :
    Decidable (RefreshDue config s iteration) :=
  inferInstanceAs (Decidable (_ ≤ _))

/-- One iteration.  Over an empty set there is none; an exception ends the task. -/
def scheduleStep (s : SchedulerState) (iteration : SchedulerIteration) :
    Option SchedulerState :=
  if s.alive then
    -- the iterator has been asked once in each iteration
    match s.cycle[s.flushes.length % s.cycle.length]? with
    | none => none
    | some counterGroup =>
        let refreshed : Bool := RefreshDue config s iteration
        let counterGroups :=
          if refreshed then retrieveCounterGroupNames config.decodeResponses iteration.registry
          else s.counterGroups
        some { s with
          counterGroups
          refreshTime := if refreshed then iteration.refreshedAt else s.refreshTime
          flushes := s.flushes ++ [⟨counterGroup, counterGroups, refreshed⟩]
          alive := iteration.answer.isOk }
  else none

/-- A refresh retrieves the groups that the iterator goes round. -/
def RetrievesCycle (s : SchedulerState) (iteration : SchedulerIteration) : Prop :=
  RefreshDue config s iteration → ∀ group,
    group ∈ retrieveCounterGroupNames config.decodeResponses iteration.registry ↔
      group ∈ s.cycle

end

/-- Iterations in a row without a refresh after the first one. -/
def BetweenRefreshes (window : List GroupFlush) : Prop :=
  ∀ flush ∈ window.tail, flush.refreshed = false

/-- Each group that is flushed is in the set that was retrieved last, and any iterations
between two refreshes, as many as this set has groups, flush each of its groups once. -/
structure HonoursRefreshes (flushes : List GroupFlush) : Prop where
  current : ∀ flush ∈ flushes, flush.counterGroup ∈ flush.counterGroups
  round : ∀ front first rest back, flushes = front ++ (first :: rest) ++ back →
    BetweenRefreshes (first :: rest) →
    (first :: rest).length = first.counterGroups.length →
    ∀ group ∈ first.counterGroups,
      ((first :: rest).map GroupFlush.counterGroup).count group = 1

/-- All sets that were retrieved have the groups that the iterator goes round. -/
structure SetsOfCycle (s : SchedulerState) : Prop where
  current : ∀ group, group ∈ s.counterGroups ↔ group ∈ s.cycle
  flushed : ∀ flush ∈ s.flushes, ∀ group, group ∈ flush.counterGroups ↔ group ∈ s.cycle

/-- What holds in every run: the groups that are flushed go round the cycle, sets have no
repetitions, and the variable changes with a refresh only. -/
structure SchedulerInv (s : SchedulerState) : Prop where
  cycle_nodup : s.cycle.Nodup
  groups_nodup : s.counterGroups.Nodup
  flushed_nodup : ∀ flush ∈ s.flushes, flush.counterGroups.Nodup
  follows : FollowsCycle s.cycle 0 (s.flushes.map GroupFlush.counterGroup)
  chain : s.flushes.IsChain fun flush next =>
    next.refreshed = false → next.counterGroups = flush.counterGroups
  last : ∀ flush ∈ s.flushes.getLast?, flush.counterGroups = s.counterGroups

section
variable {config : SchedulerConfig} {s s' : SchedulerState} {iteration : SchedulerIteration}

theorem retrieveCounterGroupNames_nodup (decodeResponses : Bool) (members : List String) :
    (retrieveCounterGroupNames decodeResponses members).Nodup :=
  List.nodup_dedup _

theorem SchedulerInv.start (config : SchedulerConfig) (members : List String)
    (refreshTime : Int) : SchedulerInv (.start config members refreshTime) where
  cycle_nodup := retrieveCounterGroupNames_nodup _ _
  groups_nodup := retrieveCounterGroupNames_nodup _ _
  flushed_nodup := fun _ h => (by cases h)
  follows := followsCycle_nil _ _
  chain := .nil
  last := fun _ h => (by cases h)

/-- An iteration flushes the next group of the cycle. -/
theorem scheduleStep_cases (hstep : scheduleStep config s iteration = some s') :
    ∃ flush, s.cycle[s.flushes.length % s.cycle.length]? = some flush.counterGroup ∧
      s'.cycle = s.cycle ∧ s'.flushes = s.flushes ++ [flush] ∧
      s'.counterGroups = flush.counterGroups ∧
      (RefreshDue config s iteration ∧ flush.counterGroups =
          retrieveCounterGroupNames config.decodeResponses iteration.registry ∧
          flush.refreshed = true ∨
        flush.counterGroups = s.counterGroups ∧ flush.refreshed = false) := by
  unfold scheduleStep at hstep
  split at hstep
  · split at hstep
    · cases hstep
    · rename_i counterGroup hgroup
      cases hstep
      refine ⟨_, hgroup, rfl, rfl, rfl, ?_⟩
      by_cases hdue : RefreshDue config s iteration
      · simp [hdue]
      · simp [hdue]
  · cases hstep

theorem SchedulerInv.step (h : SchedulerInv s)
    (hstep : scheduleStep config s iteration = some s') : SchedulerInv s' := by
  obtain ⟨flush, hgroup, hcycle, hflushes, hgroups, hrefreshed⟩ := scheduleStep_cases hstep
  have hnodup : flush.counterGroups.Nodup := by
    rcases hrefreshed with ⟨_, heq, _⟩ | ⟨heq, _⟩
    · rw [heq]
      exact retrieveCounterGroupNames_nodup _ _
    · rw [heq]
      exact h.groups_nodup
  constructor
  · rw [hcycle]
    exact h.cycle_nodup
  · rw [hgroups]
    exact hnodup
  · intro other hother
    rw [hflushes] at hother
    rcases List.mem_append.mp hother with hold | hnew
    · exact h.flushed_nodup other hold
    · rw [List.mem_singleton.mp hnew]
      exact hnodup
  · rw [hflushes, hcycle, List.map_append]
    refine h.follows.snoc ?_
    rw [Nat.zero_add, List.length_map]
    exact hgroup
  · rw [hflushes, List.isChain_append]
    refine ⟨h.chain, .singleton _, fun before hbefore next hnext hkept => ?_⟩
    obtain rfl : flush = next := by simpa using hnext
    rcases hrefreshed with ⟨_, _, hrefresh⟩ | ⟨heq, _⟩
    · rw [hrefresh] at hkept
      cases hkept
    · rw [heq]
      exact (h.last before hbefore).symm
  · intro other hother
    rw [hflushes, List.getLast?_append] at hother
    obtain rfl : flush = other := by simpa using hother
    exact hgroups.symm

/-- Without refreshes the variable keeps its value. -/
theorem counterGroups_kept {first : GroupFlush} {rest : List GroupFlush}
    (hchain : (first :: rest).IsChain fun flush next =>
      next.refreshed = false → next.counterGroups = flush.counterGroups)
    (hbetween : BetweenRefreshes (first :: rest)) :
    ∀ flush ∈ first :: rest, flush.counterGroups = first.counterGroups := by
  induction rest generalizing first with
  | nil =>
      intro flush hflush
      rw [List.mem_singleton.mp hflush]
  | cons next rest ih =>
      obtain ⟨hnext, hrest⟩ := List.isChain_cons_cons.mp hchain
      have hkept := hnext (hbetween next (List.mem_cons_self ..))
      intro flush hflush
      rcases List.mem_cons.mp hflush with rfl | hlater
      · rfl
      · have heq := ih hrest (fun later h => hbetween later (List.mem_cons_of_mem _ h))
          flush hlater
        exact heq.trans hkept

theorem SetsOfCycle.step (h : SetsOfCycle s)
    (hstep : scheduleStep config s iteration = some s')
    (hretrieves : RetrievesCycle config s iteration) : SetsOfCycle s' := by
  obtain ⟨flush, _, hcycle, hflushes, hgroups, hrefreshed⟩ := scheduleStep_cases hstep
  have hsame : ∀ group, group ∈ flush.counterGroups ↔ group ∈ s.cycle := by
    rcases hrefreshed with ⟨hdue, heq, _⟩ | ⟨heq, _⟩
    · rw [heq]
      exact hretrieves hdue
    · rw [heq]
      exact h.current
  constructor
  · rw [hgroups, hcycle]
    exact hsame
  · rw [hflushes, hcycle]
    intro other hother
    rcases List.mem_append.mp hother with hold | hnew
    · exact h.flushed other hold
    · rw [List.mem_singleton.mp hnew]
      exact hsame

/-- As long as all sets have the groups of the cycle, refreshes are honoured: going round the
cycle is going round the set. -/
theorem SetsOfCycle.honoursRefreshes (hsets : SetsOfCycle s) (h : SchedulerInv s) :
    HonoursRefreshes s.flushes := by
  constructor
  · intro flush hflush
    refine (hsets.flushed flush hflush _).mpr (h.follows.mem ?_)
    exact List.mem_map_of_mem hflush
  · intro front first rest back hsplit _ hlength group hgroup
    have hfirst : first ∈ s.flushes := by
      rw [hsplit]
      simp
    have hsame := hsets.flushed first hfirst
    have hnodup := h.flushed_nodup first hfirst
    have hperm : first.counterGroups.Perm s.cycle :=
      (List.perm_ext_iff_of_nodup hnodup h.cycle_nodup).mpr hsame
    have hfollows := h.follows
    rw [hsplit, List.map_append, List.map_append] at hfollows
    have hround := hfollows.middle.perm (by rw [List.length_map, hlength, hperm.length_eq])
    rw [hround.count_eq]
    exact List.count_eq_one_of_mem h.cycle_nodup ((hsame group).mp hgroup)

/-- In every run. -/
theorem reachable_schedulerInv {members : List String} {refreshTime : Int}
    {iterations : List SchedulerIteration}
    (hrun : runActions (scheduleStep config) (.start config members refreshTime) iterations =
      some s) : SchedulerInv s :=
  runActions_preserves (fun _ _ _ h hstep => h.step hstep) iterations _ _ (.start ..) hrun

/-- Where a set is kept for as many iterations as it and the cycle have groups, refreshes are
honoured only if the two have the same groups. -/
theorem mem_cycle_of_honoursRefreshes {members : List String} {refreshTime : Int}
    {iterations : List SchedulerIteration}
    (hrun : runActions (scheduleStep config) (.start config members refreshTime) iterations =
      some s) {front rest back : List GroupFlush} {first : GroupFlush}
    (hsplit : s.flushes = front ++ (first :: rest) ++ back)
    (hbetween : BetweenRefreshes (first :: rest))
    (hcycle : s.cycle.length ≤ (first :: rest).length)
    (hgroups : first.counterGroups.length ≤ (first :: rest).length)
    (hhonours : HonoursRefreshes s.flushes) (group : String) :
    group ∈ first.counterGroups ↔ group ∈ s.cycle := by
  have hinv := reachable_schedulerInv hrun
  have hfollows := hinv.follows
  rw [hsplit, List.map_append, List.map_append] at hfollows
  have hwindow := hfollows.middle
  constructor
  · intro hgroup
    -- the iterations that flush each group of the set once
    obtain ⟨n, hn⟩ : ∃ n, first.counterGroups.length = n + 1 :=
      Nat.exists_eq_succ_of_ne_zero (List.length_pos_of_mem hgroup).ne'
    rw [hn, List.length_cons, Nat.add_le_add_iff_right] at hgroups
    have hround : s.flushes = front ++ (first :: rest.take n) ++ (rest.drop n ++ back) := by
      rw [hsplit, List.append_assoc, List.append_assoc, List.cons_append, List.cons_append,
        ← List.append_assoc (rest.take n), List.take_append_drop]
    have hcount := hhonours.round front first (rest.take n) (rest.drop n ++ back) hround
      (fun flush hflush => hbetween flush (List.mem_of_mem_take hflush))
      (by rw [hn, List.length_cons, List.length_take_of_le hgroups]) group hgroup
    have hmem : group ∈ (first :: rest.take n).map GroupFlush.counterGroup :=
      List.count_pos_iff.mp (by omega)
    refine hwindow.mem ?_
    obtain ⟨flush, hflush, rfl⟩ := List.mem_map.mp hmem
    refine List.mem_map_of_mem ?_
    rcases List.mem_cons.mp hflush with rfl | hlater
    · exact List.mem_cons_self ..
    · exact List.mem_cons_of_mem _ (List.mem_of_mem_take hlater)
  · intro hgroup
    have hmem := hwindow.mem_of_le (by rwa [List.length_map]) hgroup
    obtain ⟨flush, hflush, rfl⟩ := List.mem_map.mp hmem
    have hchain := hinv.chain
    rw [hsplit] at hchain
    have hkept := counterGroups_kept hchain.left_of_append.right_of_append hbetween flush hflush
    rw [← hkept]
    refine hhonours.current flush ?_
    rw [hsplit]
    exact List.mem_append_left _ (List.mem_append_right _ hflush)

end

/-- For every registry and every clock, over any number of iterations: where all refreshes
retrieve the groups of the start, each group that is flushed is in the set retrieved last,
and a round between two refreshes flushes each of its groups once. -/
theorem always_honoursRefreshes (config : SchedulerConfig) (members : List String)
    (refreshTime : Int) (iterations : List SchedulerIteration)
    (hretrieves : EachStep (scheduleStep config) (RetrievesCycle config)
      (.start config members refreshTime) iterations) :
    Always (scheduleStep config) (fun s => HonoursRefreshes s.flushes)
      (.start config members refreshTime) iterations := by
  have hall : Always (scheduleStep config) (fun s => SchedulerInv s ∧ SetsOfCycle s)
      (.start config members refreshTime) iterations :=
    always_of_eachStep (I := fun _ => True) (fun _ _ _ _ _ _ => trivial)
      (fun _ _ _ _ h hstep hmeets => ⟨h.1.step hstep, h.2.step hstep hmeets⟩)
      iterations _ trivial
      ⟨.start .., ⟨fun _ => Iff.rfl, fun _ h => (by cases h)⟩⟩ hretrieves
  exact hall.imp fun _ h => h.2.honoursRefreshes h.1

/-- A refresh that retrieves the two groups of the start in the other order. -/
theorem always_honoursRefreshes_pair :
    Always (scheduleStep ⟨10, true⟩) (fun s => HonoursRefreshes s.flushes)
      (.start ⟨10, true⟩ ["votes", "saves"] 0)
      [⟨3, [], 0, .ok ()⟩, ⟨12, ["saves", "votes"], 12, .ok ()⟩, ⟨15, [], 0, .ok ()⟩] := by
  apply always_honoursRefreshes
  refine .cons rfl (fun hdue => absurd hdue (by decide)) ?_
  refine .cons rfl (fun _ group => ?_) ?_
  · exact List.Perm.mem_iff (.swap ..)
  · exact .cons rfl (fun hdue => absurd hdue (by decide)) trivial

/-- The registry has changed at the first refresh: the group of the start is flushed again,
and the one that was retrieved is not. -/
theorem changedRegistry_not_honoured :
    ¬ Always (scheduleStep ⟨10, true⟩) (fun s => HonoursRefreshes s.flushes)
      (.start ⟨10, true⟩ ["votes"] 0)
      [⟨3, [], 0, .ok ()⟩, ⟨12, ["saves"], 12, .ok ()⟩] := by
  intro hall
  have hlast : HonoursRefreshes
      [⟨"votes", ["votes"], false⟩, ⟨"votes", ["saves"], true⟩] := hall.last rfl
  have hcurrent := hlast.current ⟨"votes", ["saves"], true⟩ (by simp)
  simp at hcurrent

end DatabaseWorkers
end Tenjin
