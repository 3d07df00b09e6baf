import GreenticDeployer.Lib.Matching
import GreenticDeployer.Lib.Results
import GreenticDeployer.Bundle.Contents
import GreenticDeployer.Engine.Routing
import Mathlib.Data.Prod.Lex

/-!
# Which revisions a split re-uses

An apply that declares several revisions of a deployment routes to the ones its
live split already serves unchanged and stages the rest. The pass over the wanted
revisions, with its set of claimed ids, is a greedy matching by what a revision
serves; the convergence test beside it compares fewer of these properties.
-/

set_option maxHeartbeats 200000

namespace GreenticDeployer.Apply

open Spec Lib GreenticDeployer.Bundle Engine

/-- What one desired split entry must match to re-use an existing revision. -/
@[ext]
structure WantedRevision where
  digest : String
  sourceUri : Option String
  drainSeconds : UInt32
  runtime : Option String
  deriving DecidableEq, Repr

/-- The manifest's entry, its artifact hashed or pinned. -/
structure ResolvedRevision where
  bundleSourceUri : Option String
  drainSeconds : Option UInt32
  digest : String
  runtimeImageDigest : Option String
  weightBps : UInt32
  deriving DecidableEq, Repr

/-- What the environment's directory shows: the locks that can be read, by their
reference, and the extracted bundles that can be listed. -/
structure EnvDir where
  lock : PathBuf → Option PackListLock
  bundle : RevisionId → Option Tree

def defaultDrainSeconds : UInt32 := 30

/-- A pin wins over the deployer binding's answer. -/
def effectiveRuntime (pinned answer : Option String) : Option String := pinned.or answer

/-- Real digest material, not the placeholder of a revision without one. -/
def digestIsReal (digest : String) : Bool :=
  "sha256:".toList.isPrefixOf digest.toList ∧ "sha256:".length < digest.length ∧
    digest ≠ "sha256:00"

/-- Whether a revision's lock pins every runtime pack of its staged bundle, as far
as that can be told. -/
def packListIsComplete (dir : EnvDir) (id : RevisionId) (lockRef : PathBuf) : Bool :=
  if lockRef = "" then true
  else match dir.lock lockRef with
    | none => true
    | some lock =>
      if lock.revisionId ≠ id then false
      else match dir.bundle id with
        | none => true
        | some tree => (runtimePacks tree).all fun pack =>
            revDirRel id ++ "bundle" :: pack.1 ∈ lock.packs.map (·.path)

def liveEntries (env : Environment) (deploymentId : DeploymentId) : List TrafficSplitEntry :=
  ((env.trafficSplits.find? fun s => s.deploymentId = deploymentId).map (·.entries)).getD []

/-- `None` is a revision outside the current split. -/
def splitWeight (entries : List TrafficSplitEntry) (id : RevisionId) : Option UInt32 :=
  (entries.find? fun e => e.revisionId = id).map (·.weightBps)

section Reuse

variable (env : Environment) (deploymentId : DeploymentId) (dir : Option EnvDir)
  (answer : Option String)

/-- The one that carries traffic wins, then the newest. -/
def preference (revision : Revision) : Bool ×ₗ Nat :=
  toLex (decide (0 < (splitWeight (liveEntries env deploymentId) revision.revisionId).getD 0),
    revision.sequence.toNat)

def isCandidate (claimed : List RevisionId) (wanted : WantedRevision) (revision : Revision) :
    Bool :=
  revision.deploymentId = deploymentId ∧
    (splitWeight (liveEntries env deploymentId) revision.revisionId).isSome ∧
    revision.lifecycle = .ready ∧
    digestIsReal revision.bundleDigest ∧
    revision.bundleDigest = wanted.digest ∧
    revision.bundleSourceUri = wanted.sourceUri ∧
    revision.drainSeconds = wanted.drainSeconds ∧
    effectiveRuntime revision.runtimeImageDigest answer = wanted.runtime ∧
    revision.revisionId ∉ claimed ∧
    dir.all fun known => packListIsComplete known revision.revisionId revision.packListLockRef

def reuseFrom (claimed : List RevisionId) : List WantedRevision → List (Option RevisionId)
  | [] => []
  | wanted :: rest =>
    match maxByKey (preference env deploymentId)
        (env.revisions.filter (isCandidate env deploymentId dir answer claimed wanted)) with
    | none => none :: reuseFrom claimed rest
    | some best => some best.revisionId :: reuseFrom (best.revisionId :: claimed) rest

def reusableRevisionsWithAnswer (wanted : List WantedRevision) : List (Option RevisionId) :=
  reuseFrom env deploymentId dir answer [] wanted

/-- A Ready member of the deployment's live split with a real digest and a complete
pack list. -/
def eligible (revision : Revision) : Bool :=
  revision.deploymentId = deploymentId ∧
    (splitWeight (liveEntries env deploymentId) revision.revisionId).isSome ∧
    revision.lifecycle = .ready ∧
    digestIsReal revision.bundleDigest ∧
    dir.all fun known => packListIsComplete known revision.revisionId revision.packListLockRef

def served (revision : Revision) : WantedRevision where
  digest := revision.bundleDigest
  sourceUri := revision.bundleSourceUri
  drainSeconds := revision.drainSeconds
  runtime := effectiveRuntime revision.runtimeImageDigest answer

def serves (wanted : WantedRevision) (revision : Revision) : Bool :=
  eligible env deploymentId dir revision ∧ served answer revision = wanted

/-- An assignment of ids to the wanted revisions: none twice, each of an eligible
revision that serves what it is assigned to. -/
structure Assignment (wanted : List WantedRevision) (given : List (Option RevisionId)) : Prop where
  once : given.reduceOption.Nodup
  serving : List.Forall₂ (fun want gift => ∀ id, gift = some id →
    ∃ revision ∈ env.revisions, revision.revisionId = id ∧
      serves env deploymentId dir answer want revision = true) wanted given

def offers (claimed : List RevisionId) : List Revision :=
  (env.revisions.filter (eligible env deploymentId dir)).filter
    fun revision => revision.revisionId ∉ claimed

theorem filter_isCandidate (claimed : List RevisionId) (wanted : WantedRevision) :
    env.revisions.filter (isCandidate env deploymentId dir answer claimed wanted) =
      (offers env deploymentId dir claimed).filter fun revision =>
        served answer revision = wanted := by
  rw [offers, List.filter_filter, List.filter_filter]
  apply List.filter_congr
  intro revision _
  rw [Bool.eq_iff_iff]
  simp only [isCandidate, eligible, served, WantedRevision.ext_iff, decide_eq_true_eq,
    Bool.and_eq_true]
  tauto

variable {env}

theorem mem_offers {claimed : List RevisionId} {revision : Revision} :
    revision ∈ offers env deploymentId dir claimed ↔
      (revision ∈ env.revisions ∧ eligible env deploymentId dir revision = true) ∧
        revision.revisionId ∉ claimed := by
  simp only [offers, List.mem_filter, decide_eq_true_eq]

theorem sameRevision (distinct : (env.revisions.map (·.revisionId)).Nodup)
    {left right : Revision} (l : left ∈ env.revisions) (r : right ∈ env.revisions)
    (same : left.revisionId = right.revisionId) : left = right :=
  List.inj_on_of_nodup_map distinct l r same

theorem offers_nodup (distinct : (env.revisions.map (·.revisionId)).Nodup)
    (claimed : List RevisionId) : (offers env deploymentId dir claimed).Nodup :=
  ((distinct.of_map _).filter _).filter _

theorem offers_claim (distinct : (env.revisions.map (·.revisionId)).Nodup)
    {claimed : List RevisionId} {best : Revision}
    (member : best ∈ offers env deploymentId dir claimed) :
    offers env deploymentId dir (best.revisionId :: claimed) =
      (offers env deploymentId dir claimed).erase best := by
  have stored := ((mem_offers deploymentId dir).mp member).1.1
  have other : ∀ revision ∈ env.revisions,
      (revision.revisionId = best.revisionId ↔ revision = best) := fun revision inside =>
    ⟨sameRevision distinct inside stored, congrArg _⟩
  rw [(offers_nodup deploymentId dir distinct claimed).erase_eq_filter, offers, offers]
  refine (List.filter_congr ?_).trans List.filter_filter.symm
  intro revision inside
  simp only [List.mem_cons, not_or, other revision (List.mem_of_mem_filter inside)]
  by_cases first : revision = best <;> simp [first]

/-- The claimed set plays the part of the offers that are left. -/
theorem reuseFrom_eq_greedy (distinct : (env.revisions.map (·.revisionId)).Nodup)
    (claimed : List RevisionId) (wanted : List WantedRevision) :
    reuseFrom env deploymentId dir answer claimed wanted =
      (greedy (chooseRanked (served answer) (preference env deploymentId)) wanted
        (offers env deploymentId dir claimed)).map (Option.map (·.revisionId)) := by
  induction wanted generalizing claimed with
  | nil => rfl
  | cons want rest ih =>
      have same : maxByKey (preference env deploymentId)
          (env.revisions.filter (isCandidate env deploymentId dir answer claimed want)) =
          chooseRanked (served answer) (preference env deploymentId) want
            (offers env deploymentId dir claimed) := by
        rw [filter_isCandidate]
        rfl
      rw [reuseFrom, same, greedy]
      cases taken : chooseRanked (served answer) (preference env deploymentId) want
          (offers env deploymentId dir claimed) with
      | none => simp [ih]
      | some best =>
          have member := ((chooseRanked_chooses _ _).sound taken).1
          simp [ih, offers_claim deploymentId dir distinct member]

variable {deploymentId dir answer} {wanted : List WantedRevision}

theorem serves_iff {want : WantedRevision} {revision : Revision} :
    revision ∈ env.revisions ∧ serves env deploymentId dir answer want revision = true ↔
      revision ∈ offers env deploymentId dir [] ∧ served answer revision = want := by
  simp [mem_offers, serves, and_assoc]

theorem Assignment.rows {given : List (Option RevisionId)}
    (assigned : Assignment env deploymentId dir answer wanted given) :
    ∃ rows, given = rows.map (Option.map (·.revisionId)) ∧
      Matches (served answer) wanted (offers env deploymentId dir []) rows := by
  have chosen : ∃ rows, given = rows.map (Option.map (·.revisionId)) ∧
      List.Forall₂ (Gives (served answer) (offers env deploymentId dir [])) wanted rows := by
    have serving := assigned.serving
    clear assigned
    induction serving with
    | nil => exact ⟨[], rfl, .nil⟩
    | @cons want gift _ _ hit _ ih =>
        obtain ⟨rows, rfl, matched⟩ := ih
        cases gift with
        | none => exact ⟨none :: rows, rfl, .cons Gives.nothing matched⟩
        | some id =>
            obtain ⟨revision, member, same, serving⟩ := hit id rfl
            refine ⟨some revision :: rows, by simp [same], .cons ?_ matched⟩
            intro other found
            cases found
            exact serves_iff.mp ⟨member, serving⟩
  obtain ⟨rows, rfl, matched⟩ := chosen
  have once := assigned.once
  rw [List.reduceOption_map] at once
  exact ⟨rows, rfl, .of_nodup matched (once.of_map _)⟩

theorem offers_ids (distinct : (env.revisions.map (·.revisionId)).Nodup) :
    ((offers env deploymentId dir []).map (·.revisionId)).Nodup :=
  distinct.sublist ((List.filter_sublist.trans List.filter_sublist).map _)

theorem Assignment.of_rows (distinct : (env.revisions.map (·.revisionId)).Nodup)
    {rows : List (Option Revision)}
    (matched : Matches (served answer) wanted (offers env deploymentId dir []) rows) :
    Assignment env deploymentId dir answer wanted (rows.map (Option.map (·.revisionId))) := by
  constructor
  · rw [List.reduceOption_map]
    exact Multiset.nodup_of_le (matched.map_le (·.revisionId)) (offers_ids distinct)
  · rw [List.forall₂_map_right_iff]
    refine matched.served.imp fun want gift gives id same => ?_
    obtain ⟨revision, found, rfl⟩ := Option.map_eq_some_iff.mp same
    obtain ⟨member, serving⟩ := serves_iff.mpr (gives revision found)
    exact ⟨revision, member, rfl, serving⟩

theorem offered_count (want : WantedRevision) :
    ((offers env deploymentId dir []).map (served answer)).count want =
      env.revisions.countP (serves env deploymentId dir answer want) := by
  rw [List.count, List.countP_map, offers, List.countP_filter, List.countP_filter]
  apply List.countP_congr
  intro revision _
  simp [serves, and_comm]

/-- Which ids the pass returns, as counts. -/
theorem some_mem_reuse (distinct : (env.revisions.map (·.revisionId)).Nodup)
    (id : RevisionId) :
    some id ∈ reusableRevisionsWithAnswer env deploymentId dir answer wanted ↔
      ∃ revision, revision.revisionId = id ∧
        some revision ∈ greedy (chooseRanked (served answer) (preference env deploymentId)) wanted
          (offers env deploymentId dir []) := by
  rw [reusableRevisionsWithAnswer, reuseFrom_eq_greedy deploymentId dir answer distinct]
  simp [and_comm]

theorem offers_ranked
    (sequences : ((env.revisions.filter fun r => r.deploymentId = deploymentId).map
      (·.sequence)).Nodup) :
    ∀ left ∈ offers env deploymentId dir [], ∀ right ∈ offers env deploymentId dir [],
      preference env deploymentId left = preference env deploymentId right → left = right := by
  intro left l right r tie
  have own : ∀ revision ∈ offers env deploymentId dir [],
      revision ∈ env.revisions.filter fun r => r.deploymentId = deploymentId := by
    intro revision member
    obtain ⟨⟨stored, fit⟩, -⟩ := (mem_offers deploymentId dir).mp member
    exact List.mem_filter.mpr ⟨stored, by simpa using (of_decide_eq_true fit).1⟩
  have second : left.sequence.toNat = right.sequence.toNat := congrArg (·.2) (toLex_inj.mp tie)
  exact List.inj_on_of_nodup_map sequences (own left l) (own right r) (UInt64.toNat_inj.mp second)

/-- Re-use is a maximum matching: the returned ids are an assignment, no assignment
serves more, and with distinct sequences which ids are returned depends neither on
the order of the wanted revisions nor on that of the stored ones. -/
theorem reuse_is_maximum_matching (env : Environment) (deploymentId : DeploymentId)
    (dir : Option EnvDir) (answer : Option String) (wanted : List WantedRevision)
    (distinct : (env.revisions.map (·.revisionId)).Nodup) :
    let ids := reusableRevisionsWithAnswer env deploymentId dir answer wanted
    Assignment env deploymentId dir answer wanted ids ∧
      (∀ given, Assignment env deploymentId dir answer wanted given →
        given.reduceOption.length ≤ ids.reduceOption.length) ∧
      ids.reduceOption.length = ∑ want ∈ wanted.toFinset, min (wanted.count want)
        (env.revisions.countP (serves env deploymentId dir answer want)) ∧
      (((env.revisions.filter fun r => r.deploymentId = deploymentId).map (·.sequence)).Nodup →
        ∀ reordered revisions, wanted.Perm reordered → env.revisions.Perm revisions →
          ∀ id, some id ∈ ids ↔ some id ∈ reusableRevisionsWithAnswer
            { env with revisions := revisions } deploymentId dir answer reordered) := by
  have pass := chooseRanked_chooses (served answer) (preference env deploymentId)
  have same := reuseFrom_eq_greedy deploymentId dir answer distinct [] wanted
  refine ⟨?_, ?_, ?_, ?_⟩
  · rw [reusableRevisionsWithAnswer, same]
    exact .of_rows distinct (greedy_matches pass wanted _)
  · intro given assigned
    obtain ⟨rows, rfl, matched⟩ := assigned.rows
    rw [reusableRevisionsWithAnswer, same, List.reduceOption_map, List.reduceOption_map,
      List.length_map, List.length_map]
    exact greedy_maximum pass matched
  · rw [reusableRevisionsWithAnswer, same, List.reduceOption_map, List.length_map,
      greedy_count pass]
    simp only [offered_count]
  · intro sequences reordered revisions asked stored id
    have moved : (({ env with revisions := revisions } : Environment).revisions.map
        (·.revisionId)).Nodup := (stored.map _).nodup_iff.mp distinct
    rw [some_mem_reuse distinct, some_mem_reuse moved]
    refine exists_congr fun revision => and_congr_right fun _ => ?_
    exact greedy_ranked_perm _ _ (offers_nodup deploymentId dir distinct [])
      (offers_ranked sequences) ((stored.filter _).filter _) asked revision

end Reuse

def liveRevision (id : RevisionId) (sequence : UInt64) (digest : String) : Revision where
  schema := ⟨SchemaVersion.revisionV1⟩
  revisionId := id
  envId := ⟨"local"⟩
  bundleId := ⟨"demo"⟩
  deploymentId := ⟨1⟩
  sequence := sequence
  createdAt := 0
  bundleDigest := digest
  bundleSourceUri := none
  packList := []
  packListLockRef := ""
  packConfigRefs := []
  configDigest := "sha256:00"
  signatureSidecarRef := "rev.sig"
  lifecycle := .ready
  stagedAt := some 0
  warmedAt := some 0
  drainSeconds := defaultDrainSeconds
  runtimeImageDigest := none
  abortMetrics := []

def liveEnvironment (revisions : List Revision) (entries : List TrafficSplitEntry) : Environment :=
  { deployedOnly with
    revisions := revisions
    trafficSplits := [⟨⟨SchemaVersion.trafficSplitV1⟩, ⟨"local"⟩, ⟨1⟩, ⟨"demo"⟩, 1, entries, 0, "op",
      "key", "auth", none⟩] }

def unpinned (digest : String) : WantedRevision := ⟨digest, none, defaultDrainSeconds, none⟩

/-- Two copies of one artifact and one of another. -/
def threeLive : Environment :=
  liveEnvironment [liveRevision ⟨7⟩ 1 "sha256:aa", liveRevision ⟨8⟩ 2 "sha256:aa",
    liveRevision ⟨9⟩ 3 "sha256:bb"] [⟨⟨7⟩, 10000⟩, ⟨⟨8⟩, 0⟩, ⟨⟨9⟩, 0⟩]

theorem three_live_serve_three_of_four :
    let wanted := [unpinned "sha256:aa", unpinned "sha256:bb", unpinned "sha256:aa",
      unpinned "sha256:bb"]
    (reusableRevisionsWithAnswer threeLive ⟨1⟩ none none wanted =
        [some ⟨7⟩, some ⟨9⟩, some ⟨8⟩, none]) ∧
      (∀ given, Assignment threeLive ⟨1⟩ none none wanted given →
        given.reduceOption.length ≤ 3) ∧
      ∀ id, some id ∈ reusableRevisionsWithAnswer threeLive ⟨1⟩ none none wanted ↔
        some id ∈ reusableRevisionsWithAnswer
          { threeLive with revisions := threeLive.revisions.reverse } ⟨1⟩ none none
          wanted.reverse := by
  intro wanted
  have result : reusableRevisionsWithAnswer threeLive ⟨1⟩ none none wanted =
      [some ⟨7⟩, some ⟨9⟩, some ⟨8⟩, none] := by decide
  obtain ⟨-, most, -, order⟩ :=
    reuse_is_maximum_matching threeLive ⟨1⟩ none none wanted (by decide)
  refine ⟨result, fun given assigned => ?_, order (by decide) _ _
    (List.reverse_perm _).symm (List.reverse_perm _).symm⟩
  have bound := most given assigned
  rw [result] at bound
  exact bound

/-- One id on two revisions, which validation admits. -/
def doubled : Environment :=
  liveEnvironment [liveRevision ⟨7⟩ 2 "sha256:aa", liveRevision ⟨7⟩ 2 "sha256:bb",
    liveRevision ⟨8⟩ 1 "sha256:aa"] [⟨⟨7⟩, 5000⟩, ⟨⟨8⟩, 5000⟩]

def placeholder : Environment :=
  liveEnvironment [liveRevision ⟨7⟩ 1 "sha256:00"] [⟨⟨7⟩, 10000⟩]

/-- Where an id stands for two revisions the pass may strand a wanted revision, and it
never serves a placeholder digest. -/
theorem reuse_strands_doubled_and_placeholder :
    (doubled.validate noExternals = .ok () ∧
      reusableRevisionsWithAnswer doubled ⟨1⟩ none none
          [unpinned "sha256:aa", unpinned "sha256:bb"] = [some ⟨7⟩, none] ∧
      Assignment doubled ⟨1⟩ none none [unpinned "sha256:aa", unpinned "sha256:bb"]
        [some ⟨8⟩, some ⟨7⟩]) ∧
      placeholder.validate noExternals = .ok () ∧
      reusableRevisionsWithAnswer placeholder ⟨1⟩ none none [unpinned "sha256:00"] = [none] ∧
      ∃ revision ∈ placeholder.revisions, revision.deploymentId = ⟨1⟩ ∧
        (splitWeight (liveEntries placeholder ⟨1⟩) revision.revisionId).isSome = true ∧
        revision.lifecycle = .ready ∧ served none revision = unpinned "sha256:00" := by
  refine ⟨⟨by decide, by decide, by decide, .cons ?_ (.cons ?_ .nil)⟩,
    by decide, by decide, liveRevision ⟨7⟩ 1 "sha256:00", by decide, rfl,
    by decide, rfl, rfl⟩
  · intro id same
    exact ⟨liveRevision ⟨8⟩ 1 "sha256:aa", by decide, Option.some.inj same, by decide⟩
  · intro id same
    exact ⟨liveRevision ⟨7⟩ 2 "sha256:bb", by decide, Option.some.inj same, by decide⟩

structure ConvergenceKey where
  digest : String
  weightBps : UInt32
  sourceUri : Option String
  runtime : Option String
  deriving DecidableEq, Repr

def entryRevision (env : Environment) (entry : TrafficSplitEntry) : Option Revision :=
  env.revisions.find? fun r => r.revisionId = entry.revisionId

/-- A missing or placeholder-digest revision fails convergence outright. -/
def liveKey (env : Environment) (answer : Option String) (entry : TrafficSplitEntry) :
    Option ConvergenceKey :=
  match entryRevision env entry with
  | none => none
  | some revision =>
    if digestIsReal revision.bundleDigest then
      some ⟨revision.bundleDigest, entry.weightBps, revision.bundleSourceUri,
        effectiveRuntime revision.runtimeImageDigest answer⟩
    else none

def expectedKey (answer : Option String) (revision : ResolvedRevision) : ConvergenceKey :=
  ⟨revision.digest, revision.weightBps, revision.bundleSourceUri,
    effectiveRuntime revision.runtimeImageDigest answer⟩

/-- The source sorts both bags before it compares them. -/
def splitConverged (env : Environment) (deploymentId : DeploymentId)
    (expected : List ResolvedRevision) (answer : Option String) : Bool :=
  match env.trafficSplits.find? fun s => s.deploymentId = deploymentId with
  | none => false
  | some split =>
    if split.entries.length ≠ expected.length then false
    else match split.entries.mapM (liveKey env answer) with
      | none => false
      | some liveBag => liveBag.isPerm (expected.map (expectedKey answer))

def livePackListsAreComplete (dir : Option EnvDir) (env : Environment)
    (deploymentId : DeploymentId) : Bool :=
  match dir with
  | none => true
  | some known => (liveEntries env deploymentId).all fun entry =>
      (entryRevision env entry).all fun revision =>
        packListIsComplete known revision.revisionId revision.packListLockRef

def liveRevisions (env : Environment) (deploymentId : DeploymentId) : List Revision :=
  (liveEntries env deploymentId).filterMap (entryRevision env)

/-- The live split names pairwise distinct Ready revisions of the deployment, and what
they serve, drain windows included, is what is wanted. -/
structure Settled (env : Environment) (deploymentId : DeploymentId) (answer : Option String)
    (wanted : List WantedRevision) : Prop where
  members : ∀ revision ∈ liveRevisions env deploymentId,
    revision.deploymentId = deploymentId ∧ revision.lifecycle = .ready
  once : ((liveEntries env deploymentId).map (·.revisionId)).Nodup
  same : wanted.Perm ((liveRevisions env deploymentId).map (served answer))

/-- Where a stored revision could be re-used for a wanted entry, so could the live
revision of its id. -/
def Unambiguous (env : Environment) (deploymentId : DeploymentId) (dir : Option EnvDir)
    (answer : Option String) (wanted : List WantedRevision) : Prop :=
  ∀ revision ∈ env.revisions, eligible env deploymentId dir revision = true →
    served answer revision ∈ wanted → ∃ live ∈ liveRevisions env deploymentId,
      live.revisionId = revision.revisionId ∧ eligible env deploymentId dir live = true ∧
        served answer live = served answer revision

/-- Every wanted entry gets a live revision of the deployment that is Ready and already
serves what the entry declares. -/
def ServesAll (env : Environment) (deploymentId : DeploymentId) (answer : Option String) :
    List WantedRevision → List (Option RevisionId) → Prop :=
  List.Forall₂ fun want gift => ∃ live ∈ liveRevisions env deploymentId,
    gift = some live.revisionId ∧ live.deploymentId = deploymentId ∧ live.lifecycle = .ready ∧
      served answer live = want

section Converged

variable {env : Environment} {deploymentId : DeploymentId} {dir : Option EnvDir}
  {answer : Option String}

theorem digestIsReal_of_keyed {entry : TrafficSplitEntry}
    (keyed : (liveKey env answer entry).isSome = true) :
    ∃ revision, entryRevision env entry = some revision ∧
      digestIsReal revision.bundleDigest = true := by
  unfold liveKey at keyed
  cases found : entryRevision env entry with
  | none => simp [found] at keyed
  | some revision =>
      refine ⟨revision, rfl, ?_⟩
      by_contra placeholder
      simp [found, placeholder] at keyed

theorem splitConverged_ok {expected : List ResolvedRevision}
    (converged : splitConverged env deploymentId expected answer = true) :
    (liveEntries env deploymentId).length = expected.length ∧
      ∀ entry ∈ liveEntries env deploymentId, ∃ revision, entryRevision env entry = some revision ∧
        digestIsReal revision.bundleDigest = true := by
  unfold splitConverged at converged
  cases split : env.trafficSplits.find? fun s => s.deploymentId = deploymentId with
  | none => simp [split] at converged
  | some live =>
      have entries : liveEntries env deploymentId = live.entries := by
        rw [liveEntries, split]
        rfl
      rw [entries]
      simp only [split] at converged
      by_cases sized : live.entries.length = expected.length
      · cases bag : live.entries.mapM (liveKey env answer) with
        | none => simp [sized, bag] at converged
        | some keys =>
            exact ⟨sized, fun entry member => digestIsReal_of_keyed (isSome_of_mapM bag entry member)⟩
      · simp [sized] at converged

theorem entryRevision_some {entry : TrafficSplitEntry} {revision : Revision}
    (found : entryRevision env entry = some revision) :
    revision ∈ env.revisions ∧ revision.revisionId = entry.revisionId :=
  ⟨List.mem_of_find?_eq_some found, by simpa using List.find?_some found⟩

theorem splitWeight_isSome {entries : List TrafficSplitEntry} {id : RevisionId} :
    (splitWeight entries id).isSome = true ↔ id ∈ entries.map (·.revisionId) := by
  rw [splitWeight, Option.isSome_map, List.find?_isSome]
  simp

theorem livePackListsAreComplete_iff :
    livePackListsAreComplete dir env deploymentId = true ↔
      ∀ revision ∈ liveRevisions env deploymentId,
        (dir.all fun known =>
          packListIsComplete known revision.revisionId revision.packListLockRef) = true := by
  cases dir with
  | none => simp [livePackListsAreComplete]
  | some known =>
      simp only [livePackListsAreComplete, liveRevisions, List.all_eq_true, List.mem_filterMap,
        Option.all_some, forall_exists_index, and_imp, Option.all_eq_true]
      constructor
      · intro complete revision entry member found
        exact complete entry member revision found
      · intro complete entry member revision found
        exact complete revision entry member found

theorem Settled.offered {wanted : List WantedRevision} {expected : List ResolvedRevision}
    (settled : Settled env deploymentId answer wanted)
    (converged : splitConverged env deploymentId expected answer = true)
    (complete : livePackListsAreComplete dir env deploymentId = true) :
    liveRevisions env deploymentId ⊆ offers env deploymentId dir [] := by
  intro revision member
  obtain ⟨entry, inside, found⟩ := List.mem_filterMap.mp member
  obtain ⟨stored, same⟩ := entryRevision_some found
  obtain ⟨own, ready⟩ := settled.members revision member
  obtain ⟨again, refound, real⟩ := (splitConverged_ok converged).2 entry inside
  rw [found] at refound
  cases refound
  have live : (splitWeight (liveEntries env deploymentId) revision.revisionId).isSome = true :=
    splitWeight_isSome.mpr (List.mem_map.mpr ⟨entry, inside, same.symm⟩)
  refine (mem_offers deploymentId dir).mpr ⟨⟨stored, ?_⟩, List.not_mem_nil⟩
  exact decide_eq_true
    ⟨own, live, ready, real, livePackListsAreComplete_iff.mp complete revision member⟩

variable {wanted : List WantedRevision} {expected : List ResolvedRevision}

/-- What the entries get, as revisions of the live split. -/
theorem ServesAll.rows {given : List (Option RevisionId)}
    (serves : ServesAll env deploymentId answer wanted given) :
    ∃ rows : List Revision, rows ⊆ liveRevisions env deploymentId ∧
      given.reduceOption = rows.map (·.revisionId) ∧ wanted = rows.map (served answer) ∧
      ∀ revision ∈ rows, revision.deploymentId = deploymentId ∧ revision.lifecycle = .ready := by
  induction serves with
  | nil => exact ⟨[], List.nil_subset _, rfl, rfl, fun _ member => absurd member List.not_mem_nil⟩
  | @cons want gift _ _ hit _ ih =>
      obtain ⟨live, member, rfl, own, ready, rfl⟩ := hit
      obtain ⟨rows, inside, ids, keys, fit⟩ := ih
      refine ⟨live :: rows, List.cons_subset.mpr ⟨member, inside⟩, ?_, ?_, ?_⟩
      · rw [List.reduceOption_cons_of_some, ids, List.map_cons]
      · rw [keys, List.map_cons]
      · exact List.forall_mem_cons.mpr ⟨⟨own, ready⟩, fit⟩

end Converged

def declared (drainSeconds : Option UInt32) (digest : String) : ResolvedRevision :=
  ⟨none, drainSeconds, digest, none, 10000⟩

end GreenticDeployer.Apply
