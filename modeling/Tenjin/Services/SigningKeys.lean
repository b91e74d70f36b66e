import Tenjin.AuthServer.KeyClusterRuns
import Tenjin.Foundation.Projection
import Tenjin.ResourceServer.KeyServers

/-!
# Signing keys across the services

The workers of the authentication server, which sign (`KeyCluster`), and those of the resource
server, which verify (`KeyServers`).  All that passes between them is the JWKS file, which the
endpoint `jwks` of `routers/auth.py` gives to `get_jwks`.

* `systemStep` is a step of a worker of either server.
* `Verifiable` are the keys with which some worker of the resource server verifies.
* `always_activeKey_rejected` — after a rotation no key that is in use is verifiable, in any
  run and whichever workers boot: what the resource servers accept is signed with keys that
  are rotated out.
-/

namespace Tenjin
namespace Services

open Python
open Foundation
open AuthServer
open ResourceServer (KeyServers ServerLabel serverStep serverStep_spec JWKSEntry JwksResponse)

/-- The workers of the two servers. -/
structure KeySystem (Issuer Verifier : Type) where
  cluster : KeyCluster Issuer
  servers : KeyServers Verifier

/-- The steps.  A verifier fetches what the file holds, unless the call fails. -/
inductive SystemLabel (Issuer Verifier : Type)
  | auth (label : ClusterLabel Issuer)
  | resource (label : ServerLabel Verifier)
  | fetch (worker : Verifier) (failure : Option Exn)

/-- An entry of the file, as the resource server reads it. -/
def jwksEntry (jwk : Jwk) : JWKSEntry := ⟨some jwk.kid, some jwk.x, some jwk.y⟩

/-- The reply of the endpoint `jwks`: a file that does not parse is sent as well. -/
def jwksReply (files : KeyFiles) : JwksResponse where
  statusCode := 200
  keys :=
    match files.jwks with
    | none => .error .valueError
    | some jwks => .ok (some (jwks.map jwksEntry))

section Steps

variable {Issuer Verifier : Type} [DecidableEq Issuer] [DecidableEq Verifier]

/-- The response that a verifier gets. -/
def KeySystem.response (s : KeySystem Issuer Verifier) (failure : Option Exn) :
    Except Exn JwksResponse :=
  match failure with
  | some exn => .error exn
  | none => .ok (jwksReply s.cluster.files)

/-- One step. -/
def systemStep (server : KeyServer) (order : IterationOrder)
    (publicPem : Int → Int → Except Exn String) (maxPolls : ℕ)
    (s : KeySystem Issuer Verifier) :
    SystemLabel Issuer Verifier → Option (KeySystem Issuer Verifier)
  | .auth label =>
      (clusterStep server order s.cluster label).map fun c => { s with cluster := c }
  -- what is fetched is the file
  | .resource (.fetch _ _) => none
  | .resource label =>
      (serverStep publicPem maxPolls s.servers label).map fun c => { s with servers := c }
  | .fetch worker failure =>
      (serverStep publicPem maxPolls s.servers (.fetch worker (s.response failure))).map
        fun c => { s with servers := c }

end Steps

/-- The part of a step that is in the cluster. -/
def SystemLabel.ofCluster {Issuer Verifier : Type} :
    SystemLabel Issuer Verifier → Option (ClusterLabel Issuer)
  | .auth label => some label
  | _ => none

/-- A verifier has the key. -/
def Verifiable {Issuer Verifier : Type} (s : KeySystem Issuer Verifier) (kid : String) : Prop :=
  ∃ worker current, s.servers.phases worker = .serving current ∧ kid ∈ current

/-- The id of the key that the step generates. -/
def drawnKid {Issuer : Type} : ClusterLabel Issuer → Option String
  | .request _ (.rotate request _) => some request.pair.kid
  | .bootMaster _ drawn _ => some drawn.pair.kid
  | .masterAborts _ drawn _ _ => some drawn.pair.kid
  | _ => none

/-- The id of a generated key, `str(secrets.randbelow(10_000_000))`, is not one that a verifier
has. -/
def FreshKid {Issuer Verifier : Type} (s : KeySystem Issuer Verifier)
    (label : SystemLabel Issuer Verifier) : Prop :=
  ∀ clusterLabel, label.ofCluster = some clusterLabel →
    ∀ kid, drawnKid clusterLabel = some kid → ¬ Verifiable s kid

/-- No key that is in use is verifiable, and no verifier is going to learn one: a keyset is
published and no start is under way. -/
structure ActiveRejected {Issuer Verifier : Type} (s : KeySystem Issuer Verifier) : Prop where
  published : s.servers.jwksMapping ≠ ∅
  settled : ∀ worker, (s.servers.phases worker).inFlight = false
  rejected : ∀ row ∈ s.cluster.rows, row.rotatedOutAt = none → ¬ Verifiable s row.kid

/-- Where the keys after a step come from: a row that is not rotated out was there before and
was not, or it is the generated one. -/
def ActiveFrom (rows rows' : List KeyRow) (drawn : Option String) : Prop :=
  ∀ row ∈ rows', row.rotatedOutAt = none →
    (∃ before ∈ rows, before.kid = row.kid ∧ before.rotatedOutAt = none) ∨ drawn = some row.kid

theorem ActiveFrom.refl (rows : List KeyRow) (drawn : Option String) :
    ActiveFrom rows rows drawn :=
  fun row hrow hnone => .inl ⟨row, hrow, rfl, hnone⟩

theorem activeFrom_setExpired (rows : List KeyRow) (expired : List String) (now : Int)
    (drawn : Option String) : ActiveFrom rows (setExpired expired now rows) drawn := by
  intro row hrow hnone
  obtain ⟨before, hbefore, rfl⟩ := List.mem_map.mp hrow
  refine .inl ⟨before, hbefore, ?_⟩
  split at hnone
  · rename_i hexpired
    rw [if_pos hexpired]
    exact ⟨rfl, hnone⟩
  · rename_i hexpired
    rw [if_neg hexpired]
    exact ⟨rfl, hnone⟩

/-- A bootup of the master inserts the generated key at most. -/
theorem activeFrom_masterBootup {limit : KeyLimit} {drawn : KeyRow} {rows : List KeyRow}
    {booted : BootedServer} (h : masterBootupServer limit drawn rows = .ok booted) :
    ActiveFrom rows booted.rows (some drawn.kid) := by
  have hinsert : ∀ inserted, insertKey drawn rows = .ok inserted →
      ActiveFrom rows inserted (some drawn.kid) := by
    intro inserted hinserted row hrow hnone
    rw [(insertKey_eq_ok hinserted).1] at hrow
    rcases List.mem_append.mp hrow with hold | hnew
    · exact .inl ⟨row, hold, rfl, hnone⟩
    · rw [List.mem_singleton.mp hnew]
      exact .inr rfl
  unfold masterBootupServer at h
  cases hkeys : relevantRows rows with
  | nil =>
      rw [hkeys] at h
      obtain ⟨inserted, hinserted, hbooted⟩ := except_bind_eq_ok h
      cases hbooted
      exact hinsert inserted hinserted
  | cons first rest =>
      rw [hkeys] at h
      dsimp only at h
      split at h
      · obtain ⟨inserted, hinserted, hbooted⟩ := except_bind_eq_ok h
        cases hbooted
        exact hinsert inserted hinserted
      · cases h
        exact .refl rows _

/-- What a request does to the keys that are in use. -/
theorem activeFrom_request (server : KeyServer) (request : KeyRequest) (w : KeyWorld)
    {Issuer : Type} (worker : Issuer) :
    ActiveFrom w.rows (stateAfter (handleKeyRequest server request) w).rows
      (drawnKid (.request worker request)) := by
  cases request with
  | rotate request faults =>
      show ActiveFrom w.rows
        (stateAfter (rotateKeysEndpoint server.limit faults request) w).rows _
      rcases rotateKeysEndpoint_cases server.limit faults request w with
        hsame | ⟨rotation, files, hrotation, hafter⟩
      · rw [hsame]
        exact .refl w.rows _
      · rw [hafter]
        exact fun row hrow hnone =>
          .inr (congrArg some (active_of_rotation hrotation hrow hnone).symm)
  | invalidate kid now faults =>
      rcases invalidateKeyEndpoint_spec server.session faults kid now w with
        hsame | ⟨_, _, _, _, _, _, hrows, _⟩
      · exact hsame.symm ▸ .refl w.rows _
      · exact hrows.symm ▸ activeFrom_setExpired w.rows [kid] now _
  | clean now faults pipelineFails =>
      rcases cleanKeystoreEndpoint_spec server.ecdsa faults now pipelineFails w with
        hsame | ⟨_, _, _, _, _, hrows, _⟩
      · exact hsame.symm ▸ .refl w.rows _
      · exact hrows.symm ▸ activeFrom_setExpired w.rows _ now _

section Runs

variable {Issuer Verifier : Type} [DecidableEq Issuer] [DecidableEq Verifier]
  {server : KeyServer} {order : IterationOrder} {publicPem : Int → Int → Except Exn String}
  {maxPolls : ℕ}

/-- What a step of the cluster does to the keys that are in use. -/
theorem activeFrom_step {c c' : KeyCluster Issuer} {label : ClusterLabel Issuer}
    (h : clusterStep server order c label = some c') :
    ActiveFrom c.rows c'.rows (drawnKid label) := by
  cases label with
  | request worker request =>
      simp only [clusterStep] at h
      split at h
      · cases h
      · rename_i task _
        split at h
        · cases h
        · cases h
          exact activeFrom_request server request (c.worldOf task) worker
  | poll worker step =>
      simp only [clusterStep] at h
      split at h
      · cases h
      · split at h
        · cases h
        · split at h
          · cases h
          · cases h
            exact .refl c.rows _
  | bootMaster worker drawn files =>
      simp only [clusterStep] at h
      split at h
      · cases h
      · rename_i booted hboot
        split at h
        · cases h
          exact activeFrom_masterBootup hboot
        · cases h
  | masterAborts worker drawn files published =>
      simp only [clusterStep] at h
      split at h
      · cases h
      · rename_i booted hboot
        cases h
        exact activeFrom_masterBootup hboot
  | bootSlave worker =>
      simp only [clusterStep] at h
      split at h
      · cases h
      · cases h
        exact .refl c.rows _
  | stop worker =>
      cases h
      exact .refl c.rows _

/-- A step is one of the cluster, or one of the verifiers. -/
theorem systemStep_cases {s s' : KeySystem Issuer Verifier} {label : SystemLabel Issuer Verifier}
    (h : systemStep server order publicPem maxPolls s label = some s') :
    (∃ clusterLabel, label = .auth clusterLabel ∧
      clusterStep server order s.cluster clusterLabel = some s'.cluster ∧
      s'.servers = s.servers) ∨
    (label.ofCluster = none ∧ s'.cluster = s.cluster ∧ ∃ serverLabel,
      serverStep publicPem maxPolls s.servers serverLabel = some s'.servers) := by
  have hserver : ∀ serverLabel : ServerLabel Verifier,
      (serverStep publicPem maxPolls s.servers serverLabel).map
        (fun c => { s with servers := c }) = some s' →
      s'.cluster = s.cluster ∧
        serverStep publicPem maxPolls s.servers serverLabel = some s'.servers := by
    intro serverLabel hmap
    obtain ⟨c, hc, rfl⟩ := Option.map_eq_some_iff.mp hmap
    exact ⟨rfl, hc⟩
  cases label with
  | auth clusterLabel =>
      obtain ⟨c, hc, rfl⟩ := Option.map_eq_some_iff.mp h
      exact .inl ⟨clusterLabel, rfl, hc, rfl⟩
  | resource serverLabel =>
      have hmap : (serverStep publicPem maxPolls s.servers serverLabel).map
          (fun c => { s with servers := c }) = some s' := by
        cases serverLabel <;> first | exact h | cases h
      obtain ⟨hcluster, hstep⟩ := hserver serverLabel hmap
      exact .inr ⟨rfl, hcluster, serverLabel, hstep⟩
  | fetch worker failure =>
      obtain ⟨hcluster, hstep⟩ := hserver _ h
      exact .inr ⟨rfl, hcluster, _, hstep⟩

/-- The cluster is a part of the system. -/
theorem projects_cluster :
    Projects (systemStep server order publicPem maxPolls) (clusterStep server order)
      (KeySystem.cluster : KeySystem Issuer Verifier → KeyCluster Issuer)
      SystemLabel.ofCluster := by
  intro s label s' h
  rcases systemStep_cases h with ⟨clusterLabel, rfl, hstep, _⟩ | ⟨hlabel, hsame, _⟩
  · exact hstep
  · rw [hlabel]
    exact hsame

/-- The verifiers have settled: their steps add no key, while something is published. -/
theorem servers_settled {c c' : KeyServers Verifier} {label : ServerLabel Verifier}
    (hpublished : c.jwksMapping ≠ ∅) (hsettled : ∀ worker, (c.phases worker).inFlight = false)
    (h : serverStep publicPem maxPolls c label = some c') :
    c'.jwksMapping ≠ ∅ ∧ ∀ worker, (c'.phases worker).inFlight = false ∧
      ∀ current, c'.phases worker = .serving current → c.phases worker = .serving current := by
  obtain ⟨hmapping, hmoves⟩ := serverStep_spec h
  refine ⟨?_, fun worker => ?_⟩
  · rcases hmapping with hsame | hne
    · exact hsame.symm ▸ hpublished
    · exact hne
  · have hmove := hmoves worker
    have hflight := hsettled worker
    generalize c.phases worker = before at hmove hflight
    generalize c'.phases worker = after at hmove
    cases hmove with
    | same => exact ⟨hflight, fun current h => h⟩
    | stopped => exact ⟨rfl, fun current h => nomatch h⟩
    | begun hempty => exact absurd hempty hpublished
    | updated hbefore _ =>
        rw [hflight] at hbefore
        cases hbefore
    | waited hno hserves =>
        refine ⟨hno, fun current h => ?_⟩
        rw [h] at hserves
        cases hserves
    | served current => cases hflight
    | wiped hwipes => exact absurd hwipes.1 hpublished

/-- Where the generated keys are fresh, a step keeps the keys that are in use rejected. -/
theorem activeRejected_step {s s' : KeySystem Issuer Verifier}
    {label : SystemLabel Issuer Verifier} (hrejected : ActiveRejected s)
    (hfresh : FreshKid s label)
    (h : systemStep server order publicPem maxPolls s label = some s') : ActiveRejected s' := by
  obtain ⟨hpublished, hsettled, hactive⟩ := hrejected
  rcases systemStep_cases h with
    ⟨clusterLabel, rfl, hstep, hservers⟩ | ⟨_, hcluster, serverLabel, hstep⟩
  · refine ⟨hservers ▸ hpublished, hservers ▸ hsettled, fun row hrow hnone hverifiable => ?_⟩
    have hbefore : Verifiable s row.kid := by
      unfold Verifiable at hverifiable ⊢
      rwa [hservers] at hverifiable
    rcases activeFrom_step hstep row hrow hnone with ⟨old, hold, hkid, holdNone⟩ | hdrawn
    · exact hactive old hold holdNone (hkid.symm ▸ hbefore)
    · exact hfresh clusterLabel rfl row.kid hdrawn hbefore
  · obtain ⟨hpublished', hsettled'⟩ := servers_settled hpublished hsettled hstep
    refine ⟨hpublished', fun worker => (hsettled' worker).1, fun row hrow hnone => ?_⟩
    rintro ⟨worker, current, hserving, hmem⟩
    rw [hcluster] at hrow
    exact hactive row hrow hnone ⟨worker, current, (hsettled' worker).2 current hserving, hmem⟩

/-- A rotation that commits leaves the generated key alone in use. -/
theorem active_of_committed {c c' : KeyCluster Issuer} {worker : Issuer}
    {request : RotateRequest} {faults : Faults RotatePoint}
    (h : clusterStep server order c (.request worker (.rotate request faults)) = some c')
    (hcommits : c'.rows ≠ c.rows) {row : KeyRow} (hrow : row ∈ c'.rows)
    (hnone : row.rotatedOutAt = none) : row.kid = request.pair.kid := by
  simp only [clusterStep] at h
  split at h
  · cases h
  · rename_i task _
    split at h
    · cases h
    · cases h
      rcases rotateKeysEndpoint_cases server.limit faults request (c.worldOf task) with
        hsame | ⟨rotation, files, hrotation, hafter⟩
      · exact absurd (congrArg KeyWorld.rows hsame) hcommits
      · have hrows : (stateAfter (handleKeyRequest server (.rotate request faults))
            (c.worldOf task)).rows = rotation.rows := congrArg KeyWorld.rows hafter
        have hrow' : row ∈ rotation.rows := hrows ▸ hrow
        exact active_of_rotation hrotation hrow' hnone

/-- Of the keys of the services: at a moment when a keyset is published and no worker of the
resource server is starting, a rotation commits.  After that, in every run with fresh ids, no
worker of the resource server has a key that is in use.  So what a worker of the
authentication server signs with is rejected by all of them, or it is rotated out. -/
theorem always_activeKey_rejected (server : KeyServer) (order : IterationOrder)
    (publicPem : Int → Int → Except Exn String) (maxPolls : ℕ) (table : KeyRows)
    (files : KeyFiles) (validKeys : List String) (servers : KeyServers Verifier)
    {actions later : List (SystemLabel Issuer Verifier)} {s s' : KeySystem Issuer Verifier}
    {worker : Issuer} {request : RotateRequest} {faults : Faults RotatePoint}
    (hrun : runActions (systemStep server order publicPem maxPolls)
      ⟨idleCluster Issuer table files validKeys, servers⟩ actions = some s)
    (hpublished : s.servers.jwksMapping ≠ ∅)
    (hsettled : ∀ verifier, (s.servers.phases verifier).inFlight = false)
    (hrotates : systemStep server order publicPem maxPolls s
      (.auth (.request worker (.rotate request faults))) = some s')
    (hcommits : s'.cluster.rows ≠ s.cluster.rows)
    (hfresh : EachStep (systemStep server order publicPem maxPolls) FreshKid s
      (.auth (.request worker (.rotate request faults)) :: later)) :
    Always (systemStep server order publicPem maxPolls) (fun d =>
        (∀ row ∈ d.cluster.rows, row.rotatedOutAt = none → ¬ Verifiable d row.kid) ∧
        ∀ issuer task, d.cluster.tasks issuer = some task →
          Verifiable d task.manager.activeKey →
            RotatedOut d.cluster.rows task.manager.activeKey) s' later := by
  obtain ⟨hdrawn, hfresh'⟩ := hfresh s' hrotates
  -- the cluster is sound in every state, as it is by itself
  have hsound : ClusterSound s'.cluster := by
    have hbefore : ClusterSound s.cluster := clusterSound_of_run
      (runActions_project projects_cluster actions _ s hrun)
    exact clusterSound_step hbefore (projects_cluster.moves hrotates rfl)
  have hstart : ActiveRejected s' := by
    rcases systemStep_cases hrotates with
      ⟨clusterLabel, hlabel, hstep, hservers⟩ | ⟨hlabel, _⟩
    · cases hlabel
      refine ⟨hservers ▸ hpublished, hservers ▸ hsettled, fun row hrow hnone hverifiable => ?_⟩
      apply hdrawn _ rfl row.kid
        (congrArg some (active_of_committed hstep hcommits hrow hnone).symm)
      unfold Verifiable at hverifiable ⊢
      rwa [hservers] at hverifiable
    · cases hlabel
  have hkept : Always (systemStep server order publicPem maxPolls)
      (fun d => ClusterSound d.cluster ∧ ActiveRejected d) s' later := by
    refine always_of_eachStep (I := fun _ => True) (fun _ _ _ _ _ _ => trivial) ?_ later s' trivial
      ⟨hsound, hstart⟩ hfresh'
    rintro d label d' _ ⟨hd, hrejected⟩ hstep hlabel
    refine ⟨?_, activeRejected_step hrejected hlabel hstep⟩
    rcases systemStep_cases hstep with ⟨_, _, hcluster, _⟩ | ⟨_, hsame, _⟩
    · exact clusterSound_step hd hcluster
    · exact hsame.symm ▸ hd
  refine hkept.imp fun d ⟨hd, hrejected⟩ => ⟨hrejected.rejected, fun issuer task htask hkid => ?_⟩
  have htaskSound := hd.sound issuer task htask
  rcases rotatedOut_or_active (htaskSound.known _ htaskSound.held) with
    hout | ⟨row, hrow, hrowKid, hnone⟩
  · exact hout
  · exact absurd (hrowKid.symm ▸ hkid) (hrejected.rejected row hrow hnone)

end Runs

/-- Two workers of each server: one of the resource server serves with the published key. -/
def twoOfEach : KeySystem Bool Bool where
  cluster := idleCluster Bool twoKeyTable twoKeyFiles ["2", "1"]
  servers := { ResourceServer.unpublished with jwksMapping := ResourceServer.oneServedKey }

/-- A step of these. -/
abbrev twoOfEachStep : KeySystem Bool Bool → SystemLabel Bool Bool → Option (KeySystem Bool Bool) :=
  systemStep twoWorkerServer sortedOrder (fun _ _ => .ok "p") 3

theorem thirdKey_not_verifiable {s : KeySystem Bool Bool} (h : s.servers = twoOfEach.servers) :
    ¬ Verifiable s "3" := by
  rintro ⟨worker, current, hserving, hmem⟩
  rw [h] at hserving
  cases worker with
  | false => cases hserving
  | true =>
      cases hserving
      exact absurd hmem (by decide)

/-- A worker that boots after a rotation signs with a key that no resource server has. -/
theorem activeKey_rejected_afterBoot :
    ∃ d, runActions twoOfEachStep twoOfEach
        [.auth (.bootSlave true), .auth firstRotates, .auth (.bootSlave false)] = some d ∧
      ∀ row ∈ d.cluster.rows, row.rotatedOutAt = none → ¬ Verifiable d row.kid := by
  refine ⟨_, rfl, ?_⟩
  have hall := @always_activeKey_rejected Bool Bool _ _ twoWorkerServer sortedOrder
    (fun _ _ => .ok "p") 3 twoKeyTable twoKeyFiles ["2", "1"] twoOfEach.servers
    [.auth (.bootSlave true)] [.auth (.bootSlave false)] _ _ true thirdKey noFaults rfl
    ResourceServer.oneServedKey_ne (fun verifier => by cases verifier <;> rfl) rfl (by decide) ?_
  · exact (hall.last rfl).1
  · intro s' hs'
    refine ⟨fun label hlabel kid hkid => ?_,
      fun s'' hs'' => ⟨fun label hlabel kid hkid => ?_, trivial⟩⟩
    · cases hlabel
      cases hkid
      exact thirdKey_not_verifiable rfl
    · cases hlabel
      cases hkid

end Services
end Tenjin
