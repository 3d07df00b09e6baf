import GreenticDeployer.Lib.Results
import GreenticDeployer.Sor.Reconcile
import Mathlib.Data.List.Dedup

/-!
# The applied ledger

Which entries a widened ledger has, what is retired of it, and which store paths
it lets a run delete.
-/

set_option maxHeartbeats 200000

namespace GreenticDeployer.Sor

open Spec Lib

theorem devStoreKey_injective {envId : EnvId} {rel other : String}
    (same : devStoreKey envId rel = devStoreKey envId other) : rel = other := by
  have paths := congrArg SecretUri.relPath same
  unfold devStoreKey at paths
  split at paths <;> split at paths <;> exact paths

theorem toList_routeRelPath (sor : String) :
    (routeRelPath sor).toList = "default/_/sorla/".toList ++ sor.toList := String.toList_append

theorem routeRelPath_injective {sor other : String}
    (same : routeRelPath sor = routeRelPath other) : sor = other := by
  have lists := congrArg String.toList same
  rw [toList_routeRelPath, toList_routeRelPath] at lists
  exact String.toList_inj.mp (List.append_cancel_left lists)

theorem segments_routeRelPath (sor : String) :
    segments (routeRelPath sor) = ["default", "_", "sorla"] ++ segments sor := by
  have prefixed : "default/_/sorla/".toList = "default/_/sorla".toList ++ ['/'] := by
    decide
  have whole : (routeRelPath sor).toList = "default/_/sorla".toList ++ '/' :: sor.toList := by
    rw [toList_routeRelPath, prefixed, List.append_assoc, List.singleton_append]
  unfold segments
  rw [whole, List.splitOn_append_cons_self, List.map_append]
  rfl

def NotRoute (rel : String) : Prop := ∀ sor, rel ≠ routeRelPath sor

theorem notRoute_of_category {rel : String} (other : (segments rel)[2]? ≠ some "sorla") :
    NotRoute rel := by
  intro sor same
  rw [same, segments_routeRelPath] at other
  exact other rfl

theorem isOwnedBy_category {unitId rel : String} (owned : isOwnedBy unitId rel = true) :
    (segments rel)[2]? = some (String.ofList ("sor-".toList ++ unitId.toList)) := by
  unfold isOwnedBy at owned
  split at owned
  · next tenant unitSegment name parts =>
      have under := (Bool.and_eq_true_iff.mp owned).2
      rw [parts, ← of_decide_eq_true under, String.ofList_toList]
      rfl
  · cases owned

theorem notRoute_of_owned {unitId rel : String} (owned : isOwnedBy unitId rel = true) :
    NotRoute rel := by
  apply notRoute_of_category
  rw [isOwnedBy_category owned]
  intro same
  have lists := congrArg String.toList (Option.some.inj same)
  rw [String.toList_ofList] at lists
  have fourth := congrArg (fun chars => chars[3]?) lists
  cases fourth

theorem validateRef_notRoute {formats : Formats} {rel expectedName : String}
    (valid : validateRef formats rel expectedName = .ok ()) : NotRoute rel := by
  obtain ⟨_, -, rest⟩ := bind_ok valid
  split at rest
  · cases rest
  · next free =>
      apply notRoute_of_category
      intro sorla
      rw [sorla] at free
      exact free (by decide)

theorem SorUnit.validate_notRoute {formats : Formats} {unit : SorUnit}
    (valid : unit.validate formats = .ok ()) : ∀ rel ∈ unit.inputRefs, NotRoute rel := by
  obtain ⟨_, -, valid⟩ := bind_ok valid
  obtain ⟨_, -, valid⟩ := bind_ok valid
  obtain ⟨_, -, valid⟩ := bind_ok valid
  obtain ⟨_, -, valid⟩ := bind_ok valid
  obtain ⟨_, answers, valid⟩ := bind_ok valid
  obtain ⟨_, postgresUrl, valid⟩ := bind_ok valid
  obtain ⟨_, postgresCa, sharedSecret⟩ := bind_ok valid
  intro rel member
  simp only [SorUnit.inputRefs, List.mem_append, List.mem_cons, List.not_mem_nil, or_false,
    Option.mem_toList] at member
  rcases member with (same | ca) | same
  · rcases same with rfl | rfl
    · exact validateRef_notRoute answers
    · exact validateRef_notRoute postgresUrl
  · rw [ca] at postgresCa
    exact validateRef_notRoute postgresCa
  · rw [same]
    exact validateRef_notRoute sharedSecret

theorem validateSorUnits_notRoute {formats : Formats} {units : List SorUnit}
    (valid : validateSorUnits formats units = .ok ()) :
    ∀ unit ∈ units, ∀ rel ∈ unit.inputRefs, NotRoute rel := by
  have everywhere : ∀ ids sors, validateSorUnitsFrom formats ids sors units = .ok () →
      ∀ unit ∈ units, ∀ rel ∈ unit.inputRefs, NotRoute rel := by
    clear valid
    induction units with
    | nil => exact fun _ _ _ => nofun
    | cons unit rest ih =>
        intro ids sors valid
        obtain ⟨_, -, valid⟩ := bind_ok valid
        obtain ⟨_, -, valid⟩ := bind_ok valid
        obtain ⟨_, -, valid⟩ := bind_ok valid
        obtain ⟨_, first, others⟩ := bind_ok valid
        intro other member
        rcases List.mem_cons.mp member with rfl | later
        · exact SorUnit.validate_notRoute first
        · exact ih _ _ others other later
  exact everywhere [] [] valid

theorem AppliedSorUnit.samePlace_iff {entry other : AppliedSorUnit} :
    entry.samePlace other = true ↔ entry.unitId = other.unitId ∧
      entry.namespaceName = other.namespaceName ∧ entry.cloudRun = other.cloudRun := by
  simp [samePlace, and_assoc]

theorem AppliedSorUnit.sameUnit_iff {entry other : AppliedSorUnit} :
    entry.sameUnit other = true ↔ entry.sor = other.sor ∧ entry.samePlace other = true := by
  simp [sameUnit]

theorem AppliedSorUnit.sameUnit_refl (entry : AppliedSorUnit) : entry.sameUnit entry = true := by
  simp [sameUnit, samePlace]

theorem AppliedSorUnit.lane_k8s {entry : AppliedSorUnit} (k8s : entry.lane = .ok .k8s) :
    entry.cloudRun = none := by
  unfold lane at k8s
  split at k8s
  · assumption
  · cases k8s
  · cases k8s
  · cases k8s

theorem refuseForeignLane_ok {ledger : List AppliedSorUnit}
    (native : refuseForeignLane .k8s ledger = .ok ()) : ∀ entry ∈ ledger, entry.cloudRun = none := by
  induction ledger with
  | nil => nofun
  | cons entry rest ih =>
      obtain ⟨recorded, lane, others⟩ := bind_ok native
      split at others
      · cases others
      · next same =>
          have k8s : recorded = .k8s := Classical.not_not.mp same
          rw [k8s] at lane
          exact List.forall_mem_cons.mpr ⟨AppliedSorUnit.lane_k8s lane, ih others⟩

theorem mem_ordered {texts : List String} {text : String} : text ∈ ordered texts ↔ text ∈ texts := by
  rw [ordered, List.mem_insertionSort, List.mem_dedup]

theorem mem_retiredUnits {ledger desired : List AppliedSorUnit} {entry : AppliedSorUnit} :
    entry ∈ retiredUnits ledger desired ↔
      entry ∈ ledger ∧ ∀ d ∈ desired, d.samePlace entry = false := by
  simp [retiredUnits]

theorem mem_retiredSors {units : List SorUnit} {ledger : List AppliedSorUnit} {sor : String} :
    sor ∈ retiredSors units ledger ↔
      (∃ entry ∈ ledger, entry.sor = sor) ∧ ∀ unit ∈ units, unit.sor ≠ sor := by
  simp [retiredSors, mem_ordered]

/-- The recorded inputs a run may delete. -/
def Deletable (units : List SorUnit) (ledger : List AppliedSorUnit) (rel : String) : Prop :=
  ∃ entry ∈ ledger, rel ∈ entry.inputRefs ∧ isOwnedBy entry.unitId rel = true ∧
    ∀ unit ∈ units, rel ∉ unit.inputRefs

theorem mem_staleInputRefs {units : List SorUnit} {ledger : List AppliedSorUnit} {rel : String} :
    rel ∈ (staleInputRefs units ledger).1 ↔ Deletable units ledger rel := by
  simp only [staleInputRefs, mem_ordered, undeclaredRefs, List.mem_flatMap, List.mem_filter,
    Deletable, decide_eq_true_eq, not_exists, not_and]
  refine exists_congr fun entry => and_congr_right fun _ => ?_
  rw [and_assoc]
  exact and_congr_right fun _ => and_comm

theorem mem_pushNew {refs : List String} {added rel : String} :
    rel ∈ pushNew refs added ↔ rel ∈ refs ∨ rel = added := by
  unfold pushNew
  split
  · next known =>
      constructor
      · exact .inl
      · rintro (old | rfl)
        · exact old
        · exact known
  · rw [List.mem_append, List.mem_singleton]

theorem mem_foldl_pushNew (added refs : List String) (rel : String) :
    rel ∈ added.foldl pushNew refs ↔ rel ∈ refs ∨ rel ∈ added := by
  induction added generalizing refs with
  | nil => simp
  | cons first rest ih => rw [List.foldl_cons, ih, mem_pushNew, List.mem_cons, or_assoc]

theorem widenWith_mem {d entry : AppliedSorUnit} {ledger : List AppliedSorUnit}
    (member : entry ∈ widenWith d ledger) :
    (∃ source ∈ d :: ledger, entry.sameUnit source = true) ∧
      ∀ rel ∈ entry.inputRefs, ∃ source ∈ d :: ledger, rel ∈ source.inputRefs := by
  induction ledger with
  | nil =>
      rw [List.mem_singleton.mp member]
      exact ⟨⟨d, List.mem_cons_self, d.sameUnit_refl⟩, fun rel known =>
        ⟨d, List.mem_cons_self, known⟩⟩
  | cons first rest ih =>
      have old : ∀ source ∈ first :: rest, source ∈ d :: first :: rest :=
        fun source => List.mem_cons_of_mem _
      unfold widenWith at member
      split at member
      · rcases List.mem_cons.mp member with rfl | later
        · refine ⟨⟨first, old _ List.mem_cons_self, first.sameUnit_refl⟩, fun rel known => ?_⟩
          rcases (mem_foldl_pushNew _ _ rel).mp known with kept | new
          · exact ⟨first, old _ List.mem_cons_self, kept⟩
          · exact ⟨d, List.mem_cons_self, new⟩
        · have same := old entry (List.mem_cons_of_mem _ later)
          exact ⟨⟨entry, same, entry.sameUnit_refl⟩, fun rel known => ⟨entry, same, known⟩⟩
      · rcases List.mem_cons.mp member with rfl | later
        · have same := old entry List.mem_cons_self
          exact ⟨⟨entry, same, entry.sameUnit_refl⟩, fun rel known => ⟨entry, same, known⟩⟩
        · have wider : ∀ source ∈ d :: rest, source ∈ d :: first :: rest := by
            intro source known
            rcases List.mem_cons.mp known with rfl | tail
            · exact List.mem_cons_self
            · exact old source (List.mem_cons_of_mem _ tail)
          obtain ⟨⟨source, known, same⟩, refs⟩ := ih later
          refine ⟨⟨source, wider source known, same⟩, fun rel recorded => ?_⟩
          obtain ⟨origin, present, listed⟩ := refs rel recorded
          exact ⟨origin, wider origin present, listed⟩

/-- The entry stands for the other and records all its inputs. -/
def AppliedSorUnit.Includes (entry source : AppliedSorUnit) : Prop :=
  entry.sameUnit source = true ∧ source.inputRefs ⊆ entry.inputRefs

theorem AppliedSorUnit.Includes.refl (entry : AppliedSorUnit) : entry.Includes entry :=
  ⟨entry.sameUnit_refl, List.Subset.refl _⟩

theorem mem_widenWith {d source : AppliedSorUnit} {ledger : List AppliedSorUnit}
    (member : source ∈ d :: ledger) : ∃ entry ∈ widenWith d ledger, entry.Includes source := by
  induction ledger with
  | nil => exact ⟨source, member, .refl source⟩
  | cons first rest ih =>
      unfold widenWith
      split
      · next same =>
          rcases List.mem_cons.mp member with rfl | old
          · exact ⟨first.keeping source, List.mem_cons_self, same, fun rel new =>
              (mem_foldl_pushNew _ _ rel).mpr (.inr new)⟩
          · rcases List.mem_cons.mp old with rfl | later
            · exact ⟨source.keeping d, List.mem_cons_self, source.sameUnit_refl, fun rel kept =>
                (mem_foldl_pushNew _ _ rel).mpr (.inl kept)⟩
            · exact ⟨source, List.mem_cons_of_mem _ later, .refl source⟩
      · have further : source ∈ d :: rest → ∃ entry ∈ first :: widenWith d rest,
            entry.Includes source := by
          intro known
          obtain ⟨entry, found, includes⟩ := ih known
          exact ⟨entry, List.mem_cons_of_mem _ found, includes⟩
        rcases List.mem_cons.mp member with rfl | old
        · exact further List.mem_cons_self
        · rcases List.mem_cons.mp old with rfl | later
          · exact ⟨source, List.mem_cons_self, .refl source⟩
          · exact further (List.mem_cons_of_mem _ later)

theorem AppliedSorUnit.sameUnit_trans {entry other third : AppliedSorUnit}
    (first : entry.sameUnit other = true) (second : other.sameUnit third = true) :
    entry.sameUnit third = true := by
  simp only [sameUnit_iff, samePlace_iff] at first second ⊢
  exact ⟨first.1.trans second.1, first.2.1.trans second.2.1, first.2.2.1.trans second.2.2.1,
    first.2.2.2.trans second.2.2.2⟩

theorem widen_mem {desired : List AppliedSorUnit} {ledger : List AppliedSorUnit}
    {entry : AppliedSorUnit} (member : entry ∈ widen ledger desired) :
    (∃ source ∈ ledger ++ desired, entry.sameUnit source = true) ∧
      ∀ rel ∈ entry.inputRefs, ∃ source ∈ ledger ++ desired, rel ∈ source.inputRefs := by
  induction desired generalizing ledger with
  | nil =>
      have same : entry ∈ ledger ++ [] := List.mem_append_left _ member
      exact ⟨⟨entry, same, entry.sameUnit_refl⟩, fun rel known => ⟨entry, same, known⟩⟩
  | cons d rest ih =>
      have back : ∀ source ∈ d :: ledger, source ∈ ledger ++ d :: rest := by
        intro source known
        rcases List.mem_cons.mp known with rfl | old
        · exact List.mem_append_right _ List.mem_cons_self
        · exact List.mem_append_left _ old
      have later : ∀ source ∈ rest, source ∈ ledger ++ d :: rest := fun source known =>
        List.mem_append_right _ (List.mem_cons_of_mem _ known)
      obtain ⟨⟨middle, known, same⟩, refs⟩ := ih member
      constructor
      · rcases List.mem_append.mp known with widened | new
        · obtain ⟨⟨source, old, sameOld⟩, -⟩ := widenWith_mem widened
          exact ⟨source, back source old, AppliedSorUnit.sameUnit_trans same sameOld⟩
        · exact ⟨middle, later middle new, same⟩
      · intro rel recorded
        obtain ⟨origin, present, listed⟩ := refs rel recorded
        rcases List.mem_append.mp present with widened | new
        · obtain ⟨source, old, has⟩ := (widenWith_mem widened).2 rel listed
          exact ⟨source, back source old, has⟩
        · exact ⟨origin, later origin new, listed⟩

theorem mem_widen {desired : List AppliedSorUnit} {ledger : List AppliedSorUnit}
    {source : AppliedSorUnit} (member : source ∈ ledger ++ desired) :
    ∃ entry ∈ widen ledger desired, entry.Includes source := by
  induction desired generalizing ledger source with
  | nil =>
      rw [List.append_nil] at member
      exact ⟨source, member, .refl source⟩
  | cons d rest ih =>
      have through : source ∈ d :: ledger → ∃ entry ∈ widen ledger (d :: rest),
          entry.Includes source := by
        intro known
        obtain ⟨middle, found, includes⟩ := mem_widenWith known
        obtain ⟨entry, last, more⟩ := ih (List.mem_append_left rest found)
        exact ⟨entry, last, AppliedSorUnit.sameUnit_trans more.1 includes.1,
          List.Subset.trans includes.2 more.2⟩
      rcases List.mem_append.mp member with old | new
      · exact through (List.mem_cons_of_mem _ old)
      · rcases List.mem_cons.mp new with rfl | later
        · exact through List.mem_cons_self
        · exact ih (List.mem_append_right _ later)

end GreenticDeployer.Sor
