import GreenticDeployer.Updates.Receipts

/-!
# Two views of one staging

The verbs of a channel see the records of the kept plans, an import their bytes and blobs
too. What both change, they change alike.
-/

set_option maxHeartbeats 200000

namespace GreenticDeployer.Updates

open Lib

/-- The staging has the records of the root's plans, in an order of its own. -/
structure Views (staging : Staging) (root : UpdatesRoot) : Prop where
  records : staging.kept.Perm (root.kept.map KeptPlan.record)
  ids : (root.kept.map KeptPlan.planId).Nodup

variable {crate : UpdateCrate} {staging : Staging} {root : UpdatesRoot}

theorem Views.find (views : Views staging root) (planId : PlanId) :
    staging.find planId = (root.find planId).map KeptPlan.record := by
  have from_root : ∀ record ∈ staging.kept, record.plan.planId = planId →
      ∃ kept, root.find planId = some kept ∧ kept.record = record := by
    intro record member named
    obtain ⟨kept, inside, rfl⟩ := List.mem_map.mp (views.records.mem_iff.mp member)
    exact ⟨kept, named ▸ find_of_mem views.ids inside, rfl⟩
  cases found : root.find planId with
  | none =>
      refine List.find?_eq_none.mpr fun record member => ?_
      simp only [decide_eq_true_eq]
      intro named
      obtain ⟨kept, there, -⟩ := from_root record member named
      rw [found] at there
      cases there
  | some kept =>
      obtain ⟨inside, named⟩ := mem_of_find found
      have member : kept.record ∈ staging.kept :=
        views.records.mem_iff.mpr (List.mem_map_of_mem inside)
      cases seen : staging.find planId with
      | none =>
          have absent := List.find?_eq_none.mp seen kept.record member
          simp only [decide_eq_true_eq] at absent
          exact absurd named absent
      | some record =>
          obtain ⟨other, there, same⟩ := from_root record (List.mem_of_find?_eq_some seen)
            (by simpa using List.find?_some seen)
          rw [found] at there
          cases there
          rw [← same]
          rfl

theorem highest_perm {xs ys : List Nat} (perm : xs.Perm ys) : highest xs = highest ys := by
  induction perm with
  | nil => rfl
  | cons n _ ih => rw [highest, highest, ih]
  | swap a b rest => cases below : highest rest <;> simp [highest, below, max_comm, max_left_comm]
  | trans _ _ ih ih' => exact ih.trans ih'

section Unordered

variable (unordered : ∀ plan ids ids', List.Perm ids ids' →
  crate.checkCompat plan ids = crate.checkCompat plan ids')

include unordered

theorem admitPlan_perm {left right : List StateRecord} (perm : left.Perm right)
    (verified : UpdatePlan) (channel : String) :
    admitPlan crate verified (admissionFacts left channel) =
      admitPlan crate verified (admissionFacts right channel) := by
  unfold admitPlan admissionFacts appliedOn
  simp only
  rw [highest_perm ((perm.filter _).map _), unordered _ _ _ ((perm.filter _).map _)]

theorem Views.beginChecked (views : Views staging root) (turn : Turn)
    (verified : VerifiedUpdatePlan) (planBytes sigBytes : Bytes) :
    Views (beginChecked crate turn staging verified.plan).2
        (root.beginChecked crate turn verified planBytes sigBytes).2 ∧
      (beginChecked crate turn staging verified.plan).1.map StagedPlan.planId =
        (root.beginChecked crate turn verified planBytes sigBytes).1.map KeptPlan.planId := by
  unfold Updates.beginChecked UpdatesRoot.beginChecked
  rw [views.find]
  cases found : root.find verified.plan.planId with
  | some kept => exact ⟨views, rfl⟩
  | none =>
      dsimp only [Option.map_none]
      rw [admitPlan_perm unordered views.records]
      cases admitPlan crate verified.plan
          (admissionFacts (root.kept.map KeptPlan.record) verified.plan.envId) with
      | error e => exact ⟨views, rfl⟩
      | ok _ =>
          have fresh : ∀ kept ∈ root.kept, kept.planId ≠ verified.plan.planId := by
            simpa using List.find?_eq_none.mp found
          have others : (staging.kept.filter fun other =>
              other.plan.planId ≠ verified.plan.planId) = staging.kept := by
            refine List.filter_eq_self.mpr fun record member => ?_
            obtain ⟨kept, inside, rfl⟩ := List.mem_map.mp (views.records.mem_iff.mp member)
            exact decide_eq_true (fresh kept inside)
          have added : Views (staging.renew ⟨verified.plan, .downloading⟩)
              { root with kept := ⟨verified, planBytes, sigBytes, .downloading, [], []⟩ :: root.kept } := by
            refine ⟨?_, List.nodup_cons.mpr ⟨?_, views.ids⟩⟩
            · unfold Staging.renew
              dsimp only
              rw [others]
              exact views.records.cons _
            · intro member
              obtain ⟨kept, inside, same⟩ := List.mem_map.mp member
              exact fresh kept inside same
          unfold commits
          cases turn with
          | done => exact ⟨added, rfl⟩
          | failed effective =>
              cases effective with
              | true => exact ⟨added, rfl⟩
              | false => exact ⟨views, rfl⟩

end Unordered

theorem Views.setStage (views : Views staging root) {planId : PlanId} {kept : KeptPlan}
    (found : root.find planId = some kept) (stage : UpdateStage) :
    Views (staging.renew ⟨kept.verified.plan, stage⟩) (root.setStage planId stage) := by
  obtain ⟨located, there, rfl⟩ := find_locate found
  have revised : root.setStage planId stage =
      { root with kept := located.replace { located.hit with stage := stage } } := by
    rw [UpdatesRoot.setStage, UpdatesRoot.revise, there]
  have others : ((root.kept.map KeptPlan.record).filter fun other =>
      other.plan.planId ≠ located.hit.planId) = located.remove.map KeptPlan.record := by
    have apart : ∀ record ∈ located.remove.map KeptPlan.record,
        decide (record.plan.planId ≠ located.hit.planId) = true := by
      intro record member
      obtain ⟨other, inside, rfl⟩ := List.mem_map.mp member
      exact decide_eq_true fun same =>
        Located.key_not_mem_remove there views.ids (List.mem_map.mpr ⟨other, inside, same⟩)
    rw [Located.remove, List.map_append, List.forall_mem_append] at apart
    rw [(locate_eq_some there).1, List.map_append, List.map_cons, List.filter_append,
      List.filter_cons_of_neg (by simp [KeptPlan.record, KeptPlan.planId]),
      List.filter_eq_self.mpr apart.1, List.filter_eq_self.mpr apart.2, Located.remove,
      List.map_append]
  have front := ((views.records.filter _).trans (.of_eq others)).cons
    (⟨located.hit.verified.plan, stage⟩ : StateRecord)
  rw [revised]
  refine ⟨front.trans ?_, nodup_map_replace there rfl views.ids⟩
  rw [Located.remove, Located.replace, List.map_append, List.map_append, List.map_cons]
  exact List.perm_middle.symm

theorem Views.transition (views : Views staging root) (sha256 : Bytes → String) (turn : Turn)
    (planId : PlanId) (target : UpdateStage) :
    Views (transition crate turn staging planId target).2
        (root.call crate sha256 turn (.transition planId target)).2 ∧
      (transition crate turn staging planId target).1 =
        (root.call crate sha256 turn (.transition planId target)).1 := by
  unfold Updates.transition
  rw [views.find]
  simp only [UpdatesRoot.call]
  cases found : root.find planId with
  | none => exact ⟨views, rfl⟩
  | some kept =>
      dsimp only [Option.map_some, KeptPlan.record]
      split
      · have moved := views.setStage found target
        cases turn with
        | done => exact ⟨moved, rfl⟩
        | failed effective =>
            cases effective with
            | true => exact ⟨moved, rfl⟩
            | false => exact ⟨views, rfl⟩
      · exact ⟨views, rfl⟩

end GreenticDeployer.Updates
