import GreenticDeployer.Lib.MaxBy
import Mathlib.Data.List.ReduceOption
import Mathlib.Data.List.Perm.Subperm
import Mathlib.Algebra.BigOperators.Group.Finset.Basic

/-!
# Greedy matching by key

Wanted keys are served in order, each by some offer of the same key that is
still left. Which offer is taken does not matter for the keys that are served:
they are the multiset intersection of what is wanted and what is offered, which
is as much as any matching serves. When the taken offer is the one of highest
rank, the set of offers taken depends on the counts only.
-/

set_option maxHeartbeats 200000

namespace GreenticDeployer.Lib

variable {κ ι ω : Type*}

/-- A choice takes an offer of the wanted key whenever there is one. -/
structure Chooses (key : ι → κ) (choose : κ → List ι → Option ι) : Prop where
  sound : ∀ {wanted offers offer}, choose wanted offers = some offer →
    offer ∈ offers ∧ key offer = wanted
  complete : ∀ {wanted offers}, choose wanted offers = none → ∀ offer ∈ offers, key offer ≠ wanted

def Gives (key : ι → κ) (offers : List ι) (want : κ) (gift : Option ι) : Prop :=
  ∀ offer, gift = some offer → offer ∈ offers ∧ key offer = want

theorem Gives.nothing {key : ι → κ} {offers : List ι} {want : κ} : Gives key offers want none := by
  intro offer same
  cases same

structure Matches (key : ι → κ) (wanted : List κ) (offers : List ι) (given : List (Option ι)) :
    Prop where
  served : List.Forall₂ (Gives key offers) wanted given
  once : given.reduceOption.Subperm offers

variable {key : ι → κ} {wanted : List κ} {offers : List ι} {given : List (Option ι)}

theorem Matches.keys_le_wanted (valid : Matches key wanted offers given) :
    (given.reduceOption.map key : Multiset κ) ≤ (wanted : Multiset κ) := by
  obtain ⟨served, -⟩ := valid
  induction served with
  | nil => exact le_refl _
  | @cons want gift wanted given hit _ ih =>
      cases gift with
      | none => exact ih.trans (Multiset.le_cons_self _ want)
      | some offer =>
          have same : key offer = want := (hit offer rfl).2
          simp only [List.reduceOption_cons_of_some, List.map_cons, same]
          exact (Multiset.cons_le_cons_iff want).mpr ih

/-- Whatever is read off the gifts is read off the offers. -/
theorem Matches.map_le {α : Type*} (valid : Matches key wanted offers given) (f : ι → α) :
    (given.reduceOption.map f : Multiset α) ≤ (offers.map f : Multiset α) :=
  Multiset.map_le_map (f := f) (Multiset.coe_le.mpr valid.once)

theorem Matches.of_nodup (served : List.Forall₂ (Gives key offers) wanted given)
    (once : given.reduceOption.Nodup) : Matches key wanted offers given := by
  refine ⟨served, List.subperm_of_subset once ?_⟩
  clear once
  induction served with
  | nil => exact List.nil_subset _
  | @cons want gift _ _ hit _ ih =>
      cases gift with
      | none => exact ih
      | some offer => exact List.cons_subset.mpr ⟨(hit offer rfl).1, ih⟩

section Greedy

variable {choose : κ → List ι → Option ι} [DecidableEq ι]

/-- Serves the wanted keys in order, each from the offers the earlier ones left. -/
@[simp] def greedy (choose : κ → List ι → Option ι) : List κ → List ι → List (Option ι)
  | [], _ => []
  | wanted :: rest, offers =>
    match choose wanted offers with
    | none => none :: greedy choose rest offers
    | some offer => some offer :: greedy choose rest (offers.erase offer)

theorem greedy_served (chooses : Chooses key choose) (wanted : List κ) (offers : List ι) :
    List.Forall₂ (Gives key offers) wanted (greedy choose wanted offers) := by
  induction wanted generalizing offers with
  | nil => exact .nil
  | cons want rest ih =>
      rw [greedy]
      cases taken : choose want offers with
      | none => exact .cons Gives.nothing (ih offers)
      | some offer =>
          refine .cons ?_ ((ih _).imp fun _ _ gives other same => ?_)
          · intro other same
            cases same
            exact chooses.sound taken
          · obtain ⟨left, served⟩ := gives other same
            exact ⟨List.mem_of_mem_erase left, served⟩

theorem greedy_subperm (chooses : Chooses key choose) (wanted : List κ) (offers : List ι) :
    (greedy choose wanted offers).reduceOption.Subperm offers := by
  induction wanted generalizing offers with
  | nil => exact List.nil_subperm
  | cons want rest ih =>
      rw [greedy]
      cases taken : choose want offers with
      | none => exact ih offers
      | some offer =>
          have back := List.perm_cons_erase (chooses.sound taken).1
          have left : (offer :: (greedy choose rest (offers.erase offer)).reduceOption).Subperm
              (offer :: offers.erase offer) := List.subperm_cons offer |>.mpr (ih _)
          exact left.trans back.symm.subperm

theorem greedy_matches (chooses : Chooses key choose) (wanted : List κ) (offers : List ι) :
    Matches key wanted offers (greedy choose wanted offers) :=
  ⟨greedy_served chooses wanted offers, greedy_subperm chooses wanted offers⟩

variable [DecidableEq κ]

theorem greedy_keys (chooses : Chooses key choose) (wanted : List κ) (offers : List ι) :
    ((greedy choose wanted offers).reduceOption.map key : Multiset κ) =
      (wanted : Multiset κ) ∩ (offers.map key : Multiset κ) := by
  induction wanted generalizing offers with
  | nil => simp
  | cons want rest ih =>
      rw [greedy, ← Multiset.cons_coe]
      cases taken : choose want offers with
      | none =>
          have absent : want ∉ (offers.map key : Multiset κ) := by
            simpa using chooses.complete taken
          rw [Multiset.cons_inter_of_neg _ absent]
          exact ih offers
      | some offer =>
          obtain ⟨member, same⟩ := chooses.sound taken
          have present : want ∈ (offers.map key : Multiset κ) :=
            List.mem_map.mpr ⟨offer, member, same⟩
          have rest_keys : ((offers.erase offer).map key : Multiset κ) =
              (offers.map key : Multiset κ).erase want := by
            rw [← same, ← Multiset.map_coe, ← Multiset.map_coe, ← Multiset.coe_erase]
            exact Multiset.map_erase_of_mem key _ member
          calc
            _ = want ::ₘ ((greedy choose rest (offers.erase offer)).reduceOption.map key :
                Multiset κ) := by rw [List.reduceOption_cons_of_some, List.map_cons, same]; rfl
            _ = want ::ₘ ((rest : Multiset κ) ∩ (offers.map key : Multiset κ).erase want) := by
              rw [ih, rest_keys]
            _ = _ := (Multiset.cons_inter_of_pos _ present).symm

theorem greedy_count (chooses : Chooses key choose) (wanted : List κ) (offers : List ι) :
    (greedy choose wanted offers).reduceOption.length =
      ∑ want ∈ wanted.toFinset, min (wanted.count want) ((offers.map key).count want) := by
  have within : ∀ want ∈ (wanted : Multiset κ) ∩ (offers.map key : Multiset κ),
      want ∈ wanted.toFinset := by
    intro want member
    exact List.mem_toFinset.mpr (Multiset.mem_inter.mp member).1
  calc
    _ = Multiset.card ((wanted : Multiset κ) ∩ (offers.map key : Multiset κ)) := by
      rw [← greedy_keys chooses]
      simp
    _ = ∑ want ∈ wanted.toFinset,
        ((wanted : Multiset κ) ∩ (offers.map key : Multiset κ)).count want :=
      (Multiset.sum_count_eq_card within).symm
    _ = _ := by simp only [Multiset.count_inter, Multiset.coe_count]

theorem greedy_maximum (chooses : Chooses key choose) (valid : Matches key wanted offers given) :
    given.reduceOption.length ≤ (greedy choose wanted offers).reduceOption.length := by
  have both : (given.reduceOption.map key : Multiset κ) ≤
      (wanted : Multiset κ) ∩ (offers.map key : Multiset κ) :=
    Multiset.le_inter_iff.mpr ⟨valid.keys_le_wanted, valid.map_le key⟩
  rw [← greedy_keys chooses] at both
  simpa using Multiset.card_le_card both

end Greedy

section Ranked

variable [DecidableEq κ] [LinearOrder ω] (key : ι → κ) (rank : ι → ω)

def chooseRanked (wanted : κ) (offers : List ι) : Option ι :=
  maxByKey rank (offers.filter fun offer => key offer = wanted)

theorem chooseRanked_chooses : Chooses key (chooseRanked key rank) where
  sound := by
    intro wanted offers offer taken
    simpa using (maxByKey_greatest taken).1
  complete := by
    intro wanted offers missed
    simpa [chooseRanked, maxByKey_none, List.filter_eq_nil_iff] using missed

theorem chooseRanked_highest {wanted : κ} {offers : List ι} {best other : ι}
    (taken : chooseRanked key rank wanted offers = some best) (member : other ∈ offers)
    (same : key other = wanted) : rank other ≤ rank best :=
  (maxByKey_greatest taken).2 other (by simp [member, same])

/-- The offers that come before this one for its key. -/
def outranking (offers : List ι) (offer : ι) : Nat :=
  offers.countP fun other => key other = key offer ∧ rank offer < rank other

theorem outranking_perm {offers others : List ι} (perm : offers.Perm others) (offer : ι) :
    outranking key rank offers offer = outranking key rank others offer :=
  perm.countP_eq _

variable [DecidableEq ι]

/-- An offer is taken exactly if fewer offers come before it than its key is wanted. -/
theorem mem_greedy_ranked {offers : List ι} (distinct : offers.Nodup)
    (ranked : ∀ left ∈ offers, ∀ right ∈ offers, rank left = rank right → left = right)
    (wanted : List κ) (offer : ι) :
    some offer ∈ greedy (chooseRanked key rank) wanted offers ↔
      offer ∈ offers ∧ outranking key rank offers offer < wanted.count (key offer) := by
  induction wanted generalizing offers with
  | nil => simp
  | cons want rest ih =>
      rw [greedy, List.count_cons]
      cases taken : chooseRanked key rank want offers with
      | none =>
          have absent := (chooseRanked_chooses key rank).complete taken
          rw [List.mem_cons, ih distinct ranked]
          constructor
          · rintro (same | ⟨member, few⟩)
            · cases same
            · exact ⟨member, by omega⟩
          · rintro ⟨member, few⟩
            have other : want ≠ key offer := Ne.symm (absent offer member)
            exact .inr ⟨member, by simpa [other] using few⟩
      | some best =>
          obtain ⟨inside, same⟩ := (chooseRanked_chooses key rank).sound taken
          have fewer : (offers.erase best).Nodup := distinct.erase best
          have smaller : ∀ left ∈ offers.erase best, ∀ right ∈ offers.erase best,
              rank left = rank right → left = right := fun left l right r =>
            ranked left (List.mem_of_mem_erase l) right (List.mem_of_mem_erase r)
          have split : outranking key rank offers offer =
              outranking key rank (offers.erase best) offer +
                if want = key offer ∧ rank offer < rank best then 1 else 0 := by
            rw [outranking_perm key rank (List.perm_cons_erase inside), outranking, outranking,
              List.countP_cons, same]
            simp
          rw [List.mem_cons, ih fewer smaller, split, distinct.mem_erase_iff]
          by_cases first : offer = best
          · subst first
            have none_before : outranking key rank (offers.erase offer) offer = 0 := by
              rw [outranking, List.countP_eq_zero]
              intro other member
              have low : key other = want → rank other ≤ rank offer := fun of_want =>
                chooseRanked_highest key rank taken (List.mem_of_mem_erase member) of_want
              simpa [same] using low
            simp [inside, same, none_before]
          · have beaten : offer ∈ offers → want = key offer → rank offer < rank best := by
              intro member of_want
              have low := chooseRanked_highest key rank taken member of_want.symm
              exact lt_of_le_of_ne low fun tie => first (ranked offer member best inside tie)
            by_cases of_want : want = key offer
            · have lower : offer ∈ offers → rank offer < rank best := (beaten · of_want)
              constructor
              · rintro (taken_first | ⟨⟨_, member⟩, few⟩)
                · exact absurd (Option.some.inj taken_first) first
                · exact ⟨member, by simpa [of_want, lower member] using few⟩
              · rintro ⟨member, few⟩
                exact .inr ⟨⟨first, member⟩, by simpa [of_want, lower member] using few⟩
            · simp [first, of_want]

theorem greedy_ranked_perm {offers others : List ι} {wanted reordered : List κ}
    (distinct : offers.Nodup)
    (ranked : ∀ left ∈ offers, ∀ right ∈ offers, rank left = rank right → left = right)
    (offered : offers.Perm others) (asked : wanted.Perm reordered) (offer : ι) :
    some offer ∈ greedy (chooseRanked key rank) wanted offers ↔
      some offer ∈ greedy (chooseRanked key rank) reordered others := by
  have moved : ∀ left ∈ others, ∀ right ∈ others, rank left = rank right → left = right :=
    fun left l right r => ranked left (offered.mem_iff.mpr l) right (offered.mem_iff.mpr r)
  rw [mem_greedy_ranked key rank distinct ranked,
    mem_greedy_ranked key rank (offered.nodup_iff.mp distinct) moved,
    offered.mem_iff, outranking_perm key rank offered, asked.count_eq]

end Ranked

end GreenticDeployer.Lib
