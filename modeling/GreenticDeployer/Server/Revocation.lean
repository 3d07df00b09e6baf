import GreenticDeployer.Server.TrustRootRaces

/-!
# Policies and the trust root they were signed under

A request signs against the trust root it has read; its commit compares that
reading with the row. Between the two any other request may add or remove keys,
or write the row for the first time.
-/

set_option maxHeartbeats 200000

namespace GreenticDeployer.Server

open Spec Engine Store Trust Lib

variable {V : Type} {cfg : Config V}

theorem trustRootOf_some {loaded : Loaded TrustRootDocument} {root : TrustRoot}
    (trusted : trustRootOf (some loaded) = .ok root) : root = ⟨loaded.value.keys⟩ := by
  have converted := mapError_ok trusted
  unfold intoTrustRoot at converted
  split at converted
  · cases converted
  · exact (Except.ok.inj converted).symm

theorem SignedBy.stored {db : Db V (ResponseBody V)} {envId : EnvId}
    {current : Option (Loaded TrustRootDocument)} {root : TrustRoot}
    {artifact : RevenuePolicyArtifact} (signed : SignedBy cfg root artifact)
    (held : ∀ loaded, current = some loaded → RootCurrent cfg db envId loaded)
    (trusted : trustRootOf current = .ok root)
    (pinned : (db.trustRoots.lookup envId).map DocRow.revision = current.map (·.revision)) :
    SignedBy cfg ⟨storedKeys cfg db envId⟩ artifact := by
  cases current with
  | none =>
      cases trusted
      obtain ⟨key, member, _⟩ := signed.listed
      exact absurd member List.not_mem_nil
  | some loaded =>
      obtain ⟨row, present, _, same⟩ := held loaded rfl
      rw [present] at pinned
      have fresh : row.generation = loaded.revision.generation :=
        congrArg EnvRevision.generation (Option.some.inj pinned)
      have keys : storedKeys cfg db envId = loaded.value.keys := by
        rw [storedKeys, present]
        dsimp only
        rw [same fresh]
      rw [keys, ← trustRootOf_some trusted]
      exact signed

theorem callPolicy_signed {request : Request V} {k : RootKnown V} {now : Timestamp}
    {state : ServerState V} {call : Call V} {envId : EnvId} {artifact : RevenuePolicyArtifact}
    (permitted : rootPermits cfg request k call) (remembers : RootRemembers cfg k state.db)
    (committed : callPolicy cfg state (request, now, call) = some (envId, artifact)) :
    SignedBy cfg ⟨storedKeys cfg state.db envId⟩ artifact := by
  cases call with
  | updateEnvWithRevenuePolicy env precondition built pin journal =>
      simp only [callPolicy] at committed
      split at committed
      · rename_i accepted
        cases committed
        obtain ⟨_, id, loaded, current, root, known, named, read, rfl, trusted, signed⟩ := permitted
        rcases execute_cases cfg.json cfg.ext ⟨state.auditCap, now⟩ state.db
          (.updateEnvWithRevenuePolicy env precondition artifact (current.map (·.revision))
            journal) with ⟨result, done, _⟩ | ⟨e, failed, _⟩
        · obtain ⟨mid, written, writes, _⟩ := transaction_writes done
          cases writes with
          | policy pinned encoded present matching valid =>
              refine signed.stored ?_ trusted pinned
              rintro reading rfl
              rw [named, remembers.loaded id loaded known]
              exact remembers.root id reading read
        · have refused := congrArg Except.isOk failed
          exact (Bool.false_ne_true (refused.symm.trans accepted)).elim
      · cases committed
  | _ => cases committed

theorem policies_call {request : Request V} {now : Timestamp} {state : ServerState V}
    {call : Call V} {key : PolicyKey} {artifact : RevenuePolicyArtifact}
    (present : ((rootServer cfg).exec now state call).2.db.revenuePolicies.lookup key =
      some artifact) :
    state.db.revenuePolicies.lookup key = some artifact ∨
      callPolicy cfg state (request, now, call) = some (key.envId, artifact) := by
  change (execute cfg.json cfg.ext ⟨state.auditCap, now⟩ state.db call).2.revenuePolicies.lookup
    key = some artifact at present
  rcases execute_cases cfg.json cfg.ext ⟨state.auditCap, now⟩ state.db call with
    ⟨result, done, replied⟩ | ⟨e, _, same⟩
  · obtain ⟨mid, journal, writes, wrote⟩ := transaction_writes done
    rw [(journal?_sameTables wrote).revenuePolicies] at present
    cases writes with
    | @policy env precondition built pin _ data row pinned encoded current matching valid =>
        by_cases written : key = built.key env.environmentId
        · subst written
          have stored : built = artifact := by
            simpa [Db.putEnv, Db.putPolicy] using present
          subst stored
          have accepted := congrArg Except.isOk replied
          exact .inr (if_pos accepted)
        · refine .inl ?_
          simpa [Db.putEnv, Db.putPolicy, AList.lookup_insert_ne written] using present
    | _ => exact .inl present
  · rw [same] at present
    exact .inl present

theorem policies_step {pool : RootPool V} {action : ServerAction V} {key : PolicyKey}
    {artifact : RevenuePolicyArtifact}
    (present : ((rootRuns cfg).step pool action).shared.db.revenuePolicies.lookup key =
      some artifact) :
    pool.shared.db.revenuePolicies.lookup key = some artifact ∨
      (pool.acting action).bind (callPolicy cfg pool.shared) = some (key.envId, artifact) := by
  cases action with
  | arrive request => exact .inl present
  | restart event =>
      have same := (reconcileAuditRetention_sameTables pool.shared.db (auditCapOf event.1)
        event.2).revenuePolicies
      change (reconcileAuditRetention pool.shared.db (auditCapOf event.1)
        event.2).revenuePolicies.lookup key = some artifact at present
      rw [same] at present
      exact .inl present
  | advance index now =>
      change ((rootServer cfg).step pool (.advance index now)).shared.db.revenuePolicies.lookup
        key = some artifact at present
      rcases (rootServer cfg).step_advance pool index now with
        ⟨same, _⟩ | ⟨task, call, next, found, program, stepped⟩
      · rw [same] at present
        exact .inl present
      · rw [stepped] at present
        rw [acting_call found program]
        exact policies_call present

/-- Revocation is respected at commit. In every run of the server, whatever its
interleaving, each policy that a call commits is signed by a key that the stored
trust root of the environment lists at that moment, and verifies against that
root; and no policy is ever stored in another way. -/
theorem revocation_respected (cfg : Config V) (maxRows : Option UInt32)
    (actions : List (ServerAction V)) (action : ServerAction V) :
    (∀ envId artifact,
      (((rootRuns cfg).run (rootBoot maxRows) actions).acting action).bind
        (callPolicy cfg ((rootRuns cfg).run (rootBoot maxRows) actions).shared) =
        some (envId, artifact) →
      SignedBy cfg
        ⟨storedKeys cfg ((rootRuns cfg).run (rootBoot maxRows) actions).shared.db envId⟩
        artifact) ∧
    ∀ key artifact,
      ((rootRuns cfg).run (rootBoot maxRows) (actions ++ [action])).shared.db.revenuePolicies.lookup
        key = some artifact →
      ((rootRuns cfg).run (rootBoot maxRows) actions).shared.db.revenuePolicies.lookup key =
        some artifact ∨
      (((rootRuns cfg).run (rootBoot maxRows) actions).acting action).bind
        (callPolicy cfg ((rootRuns cfg).run (rootBoot maxRows) actions).shared) =
        some (key.envId, artifact) := by
  have sound := rootSound_run cfg maxRows actions
  constructor
  · intro envId artifact committed
    obtain ⟨⟨request, now, call⟩, acting, policy⟩ := Option.bind_eq_some_iff.mp committed
    cases action with
    | arrive => cases acting
    | restart => cases acting
    | advance index now =>
        rcases (rootServer cfg).step_advance _ index now with
          ⟨_, ended⟩ | ⟨task, call, next, found, program, _⟩
        · rw [acting_idle ended] at acting
          cases acting
        · rw [acting_call found program] at acting
          cases acting
          obtain ⟨⟨_, permitted⟩, remembers⟩ := sound.acting found program
          exact callPolicy_signed permitted remembers policy
  · intro key artifact present
    rw [run_snoc] at present
    exact policies_step present

/-- A bundle is added under a trust root, up to its commit. -/
def pricedUnderRoot : List (ServerAction PlainValue) :=
  served 0 (demoRequest none "a" demoCreate) ++
    served 1 (demoRequest none "b" (.bootstrapTrustRoot (.ok ⟨"local"⟩))) ++
    .arrive (demoRequest none "c" (.addBundle (.ok ⟨"local"⟩) demoBundle)) :: turns 2 3

example : ((((rootRuns (demoConfig .openDev)).run (rootBoot none) pricedUnderRoot).acting
    (.advance 2 "")).bind (callPolicy (demoConfig .openDev) ((rootRuns (demoConfig .openDev)).run
    (rootBoot none) pricedUnderRoot).shared)).map (·.2.keyId) = some "op" := by
  decide

end GreenticDeployer.Server
