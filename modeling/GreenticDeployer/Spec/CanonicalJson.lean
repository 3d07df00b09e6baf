import GreenticDeployer.Lib.JsonReader
import GreenticDeployer.Lib.KeySort
import GreenticDeployer.Spec.Remote
import Mathlib.Data.String.Basic
import Mathlib.Data.List.Perm.Basic

/-!
# Canonical JSON

Etags, audit digests and the integrity of backups are hashes of canonical JSON: the
keys of every object in order, no blank between tokens. It is the same text for two
values exactly when they differ in the order of keys alone.
-/

set_option maxHeartbeats 200000

namespace GreenticDeployer.Spec

open Lib

variable {Number : Type}

def sortEntries {α : Type} (entries : List (String × α)) : List (String × α) :=
  entries.insertionSort fun e f => e.1 ≤ f.1

def canonicalForm : JsonTree.Algebra Number (JsonTree Number) where
  null := .null
  bool := .bool
  number := .number
  string := .string
  array := .array
  object entries := .object (sortEntries entries)

def canonicalizeJson : JsonTree Number → JsonTree Number := JsonTree.fold canonicalForm

theorem canonicalize_array (items : List (JsonTree Number)) :
    canonicalizeJson (.array items) = .array (items.map canonicalizeJson) :=
  JsonTree.fold_array _ items

theorem canonicalize_sorted (entries : List (String × JsonTree Number)) :
    canonicalizeJson (.object entries) =
      .object (sortEntries (entries.map fun e => (e.1, canonicalizeJson e.2))) :=
  JsonTree.fold_object _ entries

/-- The entries are sorted, and then each value is brought into form. -/
theorem canonicalize_object (entries : List (String × JsonTree Number)) :
    canonicalizeJson (.object entries) =
      .object ((sortEntries entries).map fun e => (e.1, canonicalizeJson e.2)) := by
  have commutes := List.map_insertionSort (fun e f : String × JsonTree Number => e.1 ≤ f.1)
    (fun e f => e.1 ≤ f.1) (fun e => (e.1, canonicalizeJson e.2)) entries fun _ _ _ _ => .rfl
  rw [canonicalize_sorted, sortEntries, sortEntries, commutes]

theorem sortEntries_perm {α : Type} (entries : List (String × α)) :
    (sortEntries entries).Perm entries := List.perm_insertionSort _ entries

theorem canonicalize_distinct {json : JsonTree Number} (distinct : json.Distinct) :
    (canonicalizeJson json).Distinct := by
  induction json using JsonTree.induct with
  | null => exact .null
  | bool value => exact .bool value
  | number value => exact .number value
  | string text => exact .string text
  | array items ih =>
      rw [canonicalize_array]
      refine .array (List.forall_mem_map.mpr fun item member => ?_)
      exact ih item member (distinct.items item member)
  | object entries ih =>
      rw [canonicalize_object]
      have order := sortEntries_perm entries
      refine .object ?_ (List.forall_mem_map.mpr fun entry member => ?_)
      · rw [List.map_map]
        exact (order.map Prod.fst).nodup_iff.mpr distinct.entries.1
      · have known := order.mem_iff.mp member
        exact ih entry known (distinct.entries.2 entry known)

theorem canonicalize_depth (json : JsonTree Number) :
    (canonicalizeJson json).depth = json.depth := by
  induction json using JsonTree.induct with
  | array items ih =>
      rw [canonicalize_array]
      refine eq_of_forall_ge_iff fun limit => ?_
      cases limit with
      | zero => exact iff_of_false (JsonTree.depth_array_pos _) (JsonTree.depth_array_pos _)
      | succ limit =>
          rw [JsonTree.depth_array_le, JsonTree.depth_array_le, List.forall_mem_map]
          exact forall₂_congr fun item member => by rw [ih item member]
  | object entries ih =>
      rw [canonicalize_object]
      refine eq_of_forall_ge_iff fun limit => ?_
      cases limit with
      | zero => exact iff_of_false (JsonTree.depth_object_pos _) (JsonTree.depth_object_pos _)
      | succ limit =>
          rw [JsonTree.depth_object_le, JsonTree.depth_object_le, List.forall_mem_map]
          have known := fun entry => (sortEntries_perm entries).mem_iff (a := entry)
          constructor
          · intro each entry member
            have bound := each entry ((known entry).mpr member)
            rwa [ih entry member] at bound
          · intro each entry member
            rw [ih entry ((known entry).mp member)]
            exact each entry ((known entry).mp member)
  | _ => rfl

theorem canonicalize_scalar {json : JsonTree Number} (scalar : json.depth ≤ 0) :
    canonicalizeJson json = json := by
  cases json with
  | array items => exact absurd scalar (JsonTree.depth_array_pos items)
  | object entries => exact absurd scalar (JsonTree.depth_object_pos entries)
  | _ => rfl

theorem map_eq_iff_forall₂ {α β : Type} {f : α → β} {R : α → α → Prop} {xs ys : List α}
    (each : ∀ x ∈ xs, ∀ y ∈ ys, (f x = f y ↔ R x y)) :
    xs.map f = ys.map f ↔ List.Forall₂ R xs ys := by
  induction xs generalizing ys with
  | nil => cases ys <;> simp
  | cons x xs ih =>
      cases ys with
      | nil => simp
      | cons y ys =>
          have later : xs.map f = ys.map f ↔ List.Forall₂ R xs ys := ih fun a memberA b memberB =>
            each a (List.mem_cons_of_mem x memberA) b (List.mem_cons_of_mem y memberB)
          rw [List.map_cons, List.map_cons, List.cons.injEq, List.forall₂_cons,
            each x List.mem_cons_self y List.mem_cons_self, later]

/-- What permutes a mapped list is itself mapped, from a permutation. -/
theorem exists_perm_of_map {α β : Type} {f : α → β} {xs : List β} {ys : List α}
    (order : xs.Perm (ys.map f)) : ∃ zs : List α, xs = zs.map f ∧ zs.Perm ys :=
  (congrFun (congrFun (List.eq_map_comp_perm f) xs) ys).mpr order

theorem map_entries_eq_iff {α β : Type} {f : α → β} {es fs : List (String × α)} :
    (es.map fun e => (e.1, f e.2)) = (fs.map fun e => (e.1, f e.2)) ↔
      es.map Prod.fst = fs.map Prod.fst ∧
        (es.map Prod.snd).map f = (fs.map Prod.snd).map f := by
  induction es generalizing fs with
  | nil => cases fs <;> simp
  | cons e es ih =>
      cases fs with
      | nil => simp
      | cons g fs =>
          simp only [List.map_cons, List.cons.injEq, Prod.mk.injEq, ih]
          tauto

theorem canonicalize_scalar_iff {left right : JsonTree Number} (scalar : left.depth ≤ 0) :
    canonicalizeJson left = canonicalizeJson right ↔ left.Reordered right := by
  constructor
  · intro same
    have scalar' : right.depth ≤ 0 := by
      rwa [← canonicalize_depth right, ← same, canonicalize_depth]
    rw [canonicalize_scalar scalar, canonicalize_scalar scalar'] at same
    subst same
    cases left with
    | null => exact .null
    | bool value => exact .bool value
    | number value => exact .number value
    | string text => exact .string text
    | array items => exact absurd scalar (JsonTree.depth_array_pos items)
    | object entries => exact absurd scalar (JsonTree.depth_object_pos entries)
  · intro reordered
    cases reordered with
    | array each => exact absurd scalar (JsonTree.depth_array_pos _)
    | object keys values order => exact absurd scalar (JsonTree.depth_object_pos _)
    | _ => rfl

/-- Canonical form is one for the values that differ in the order of keys. -/
theorem canonicalize_eq_iff {left right : JsonTree Number} (distinct : left.Distinct)
    (distinct' : right.Distinct) :
    canonicalizeJson left = canonicalizeJson right ↔ left.Reordered right := by
  induction left using JsonTree.induct generalizing right with
  | null => exact canonicalize_scalar_iff (Nat.le_refl 0)
  | bool value => exact canonicalize_scalar_iff (Nat.le_refl 0)
  | number value => exact canonicalize_scalar_iff (Nat.le_refl 0)
  | string text => exact canonicalize_scalar_iff (Nat.le_refl 0)
  | array items ih =>
      constructor
      · intro same
        rcases right.scalar_or_container with scalar | ⟨others, rfl⟩ | ⟨entries, rfl⟩
        · rw [← canonicalize_depth right, ← same, canonicalize_depth] at scalar
          exact absurd scalar (JsonTree.depth_array_pos items)
        · rw [canonicalize_array, canonicalize_array, JsonTree.array.injEq] at same
          refine .array ((map_eq_iff_forall₂ fun x member y other => ?_).mp same)
          exact ih x member (distinct.items x member) (distinct'.items y other)
        · rw [canonicalize_array, canonicalize_object] at same
          cases same
      · intro reordered
        cases reordered with
        | array each =>
            rw [canonicalize_array, canonicalize_array, JsonTree.array.injEq]
            refine (map_eq_iff_forall₂ fun x member y other => ?_).mpr each
            exact ih x member (distinct.items x member) (distinct'.items y other)
  | object entries ih =>
      have values_iff : ∀ {others : List (String × JsonTree Number)},
          (∀ entry ∈ others, entry.2.Distinct) →
          ((entries.map Prod.snd).map canonicalizeJson = (others.map Prod.snd).map canonicalizeJson ↔
            List.Forall₂ JsonTree.Reordered (entries.map Prod.snd) (others.map Prod.snd)) := by
        intro others sound
        refine map_eq_iff_forall₂ fun x member y other => ?_
        obtain ⟨entry, here, rfl⟩ := List.mem_map.mp member
        obtain ⟨entry', there, rfl⟩ := List.mem_map.mp other
        exact ih entry here (distinct.entries.2 entry here) (sound entry' there)
      constructor
      · intro same
        rcases right.scalar_or_container with scalar | ⟨items, rfl⟩ | ⟨others, rfl⟩
        · rw [← canonicalize_depth right, ← same, canonicalize_depth] at scalar
          exact absurd scalar (JsonTree.depth_object_pos entries)
        · rw [canonicalize_array, canonicalize_object] at same
          cases same
        · rw [canonicalize_sorted, canonicalize_sorted, JsonTree.object.injEq] at same
          have shuffled : (entries.map fun e => (e.1, canonicalizeJson e.2)).Perm
              (others.map fun e => (e.1, canonicalizeJson e.2)) :=
            (sortEntries_perm _).symm.trans (same ▸ sortEntries_perm _)
          obtain ⟨permuted, equal, order⟩ := exists_perm_of_map shuffled
          obtain ⟨keys, values⟩ := map_entries_eq_iff.mp equal
          refine .object keys ((values_iff ?_).mp values) order
          exact fun entry member => distinct'.entries.2 entry (order.mem_iff.mp member)
      · intro reordered
        cases reordered with
        | @object _ permuted others keys values order =>
            have sound : ∀ entry ∈ permuted, entry.2.Distinct :=
              fun entry member => distinct'.entries.2 entry (order.mem_iff.mp member)
            have equal := map_entries_eq_iff.mpr ⟨keys, (values_iff sound).mpr values⟩
            have single : ((entries.map fun e => (e.1, canonicalizeJson e.2)).map Prod.fst).Nodup := by
              rw [List.map_map]
              exact distinct.entries.1
            rw [canonicalize_sorted, canonicalize_sorted, JsonTree.object.injEq]
            refine insertionSort_eq_of_perm (fun _ _ => .rfl) single ?_
            rw [equal]
            exact order.map _

theorem canonicalize_idem {json : JsonTree Number} (distinct : json.Distinct) :
    canonicalizeJson (canonicalizeJson json) = canonicalizeJson json := by
  induction json using JsonTree.induct with
  | array items ih =>
      rw [canonicalize_array, canonicalize_array, List.map_map, JsonTree.array.injEq]
      exact List.map_congr_left fun item member => ih item member (distinct.items item member)
  | object entries ih =>
      have known := fun entry => (sortEntries_perm entries).mem_iff (a := entry)
      have settled : ((sortEntries entries).map fun e => (e.1, canonicalizeJson e.2)).map
            (fun e => (e.1, canonicalizeJson e.2)) =
          (sortEntries entries).map fun e => (e.1, canonicalizeJson e.2) := by
        rw [List.map_map]
        refine List.map_congr_left fun entry member => ?_
        have here := (known entry).mp member
        exact congrArg _ (ih entry here (distinct.entries.2 entry here))
      have sorted : ((sortEntries entries).map fun e => (e.1, canonicalizeJson e.2)).Pairwise
          fun e f => e.1 ≤ f.1 :=
        List.pairwise_map.mpr (List.pairwise_insertionSort _ entries)
      rw [canonicalize_object, canonicalize_sorted, settled, JsonTree.object.injEq]
      exact sorted.insertionSort_eq
  | _ => rfl

def canonicalize (value : JsonValue Number) : JsonValue Number :=
  ⟨canonicalizeJson value.json, canonicalize_distinct value.distinct⟩

inductive IntegrityError
  | serde (message : String)
  deriving DecidableEq

variable {α : Type} (tokens : JsonTokens Number)

/-- The canonical text of what `toValue` makes of a document. -/
def canonicalJson (toValue : α → Except IntegrityError (JsonValue Number)) (value : α) :
    Except IntegrityError String := do
  let json ← toValue value
  return (canonicalize json).toText tokens

/-- `serde_json` refuses text that nests this deep. -/
def recursionLimit : Nat := 128

def fromStr (text : String) : Option (JsonValue Number) :=
  JsonValue.ofText tokens (recursionLimit - 1) text

variable {tokens}

theorem canonicalText_eq_iff (lawful : tokens.Lawful) (left right : JsonValue Number) :
    (canonicalize left).toText tokens = (canonicalize right).toText tokens ↔
      left.json.Reordered right.json := by
  rw [← canonicalize_eq_iff left.distinct right.distinct]
  constructor
  · intro same
    exact JsonTree.text_inj lawful (canonicalize left).distinct (canonicalize right).distinct
      (String.ofList_injective same)
  · intro same
    exact congrArg (fun json => String.ofList (JsonTree.text tokens json)) same

/-- Two values have one canonical text exactly when they are equal up to the order of
keys. The text is read back, and gives the same text again, exactly where it nests
less deep than the reader's limit. -/
theorem canonical_text_normal (tokens : JsonTokens Number) (lawful : tokens.Lawful) :
    (∀ left right : JsonValue Number,
      canonicalJson tokens .ok left = canonicalJson tokens .ok right ↔
        left.json.Reordered right.json) ∧
    ∀ value : JsonValue Number, ∃ text, canonicalJson tokens .ok value = .ok text ∧
      (fromStr tokens text).map (canonicalJson tokens .ok) =
        if value.json.depth < recursionLimit then some (.ok text) else none := by
  constructor
  · intro left right
    rw [← canonicalText_eq_iff lawful]
    change (Except.ok _ : Except IntegrityError String) = .ok _ ↔ _
    rw [Except.ok.injEq]
  · intro value
    refine ⟨_, rfl, ?_⟩
    have again : canonicalize (canonicalize value) = canonicalize value := by
      rw [canonicalize, JsonValue.mk.injEq]
      exact canonicalize_idem value.distinct
    have nests : (canonicalize value).json.depth = value.json.depth := canonicalize_depth value.json
    have within : value.json.depth ≤ recursionLimit - 1 ↔ value.json.depth < recursionLimit := by
      unfold recursionLimit
      omega
    rw [fromStr, JsonValue.ofText_toText lawful, nests]
    simp only [within]
    by_cases shallow : value.json.depth < recursionLimit
    · rw [if_pos shallow, if_pos shallow, Option.map_some]
      exact congrArg (fun value => some (Except.ok (JsonValue.toText tokens value))) again
    · rw [if_neg shallow, if_neg shallow]
      rfl

/-- A character of a string, escaped where it is a mark of its own. -/
def marks (c : Char) : List Char := if c = '"' ∨ c = '\\' then ['\\', c] else [c]

/-- A string up to its closing quote. -/
def readMarked : List Char → Option (List Char × List Char)
  | [] => none
  | [c] => if c = '"' then some ([], []) else none
  | c :: d :: rest =>
    if c = '"' then some ([], d :: rest)
    else if c = '\\' then (readMarked rest).map fun read => (d :: read.1, read.2)
    else (readMarked (d :: rest)).map fun read => (c :: read.1, read.2)

def digitTokens : JsonTokens (Fin 10) where
  printNumber n := [Char.ofNat (48 + n.val)]
  readNumber
    | [] => none
    | c :: rest => if c.isDigit then some (Fin.ofNat 10 (c.toNat - 48), rest) else none
  printString text := '"' :: text.toList.flatMap marks ++ ['"']
  readString
    | [] => none
    | c :: rest =>
      if c = '"' then (readMarked rest).map fun read => (String.ofList read.1, read.2) else none

theorem readMarked_marks (text rest : List Char) :
    readMarked (text.flatMap marks ++ '"' :: rest) = some (text, rest) := by
  induction text with
  | nil => cases rest <;> rfl
  | cons c others ih =>
      rw [List.flatMap_cons, List.append_assoc, marks]
      split
      · rename_i marked
        simp [readMarked, ih]
      · rename_i plain
        obtain ⟨d, more, opening⟩ : ∃ d more, others.flatMap marks ++ '"' :: rest = d :: more := by
          cases laid : others.flatMap marks ++ '"' :: rest with
          | nil => simp at laid
          | cons d more => exact ⟨d, more, rfl⟩
        rw [opening] at ih ⊢
        simp only [not_or] at plain
        simp [readMarked, plain, ih]

theorem digitTokens_lawful : digitTokens.Lawful where
  number n := by
    refine ⟨_, _, rfl, .inr ?_⟩
    revert n
    decide
  string text := ⟨_, rfl⟩
  readNumber n rest _ := by
    have digit : (Char.ofNat (48 + n.val)).isDigit = true ∧
        Fin.ofNat 10 ((Char.ofNat (48 + n.val)).toNat - 48) = n := by
      revert n
      decide
    change (if _ then some (_, rest) else none) = _
    rw [if_pos digit.1]
    exact congrArg (fun n => some (n, rest)) digit.2
  readString text rest := by
    have read := readMarked_marks text.toList rest
    simp [digitTokens, read]

def sampleDocument (entries : List (String × Fin 10))
    (distinct : (entries.map Prod.fst).Nodup) : JsonValue (Fin 10) where
  json := .object (entries.map fun e => (e.1, .array [.number e.2]))
  distinct := by
    refine .object ?_ (List.forall_mem_map.mpr fun entry _ => .array ?_)
    · rwa [List.map_map]
    · exact fun item member => List.mem_singleton.mp member ▸ .number entry.2

theorem canonical_text_normal_of_pair :
    canonicalJson digitTokens .ok (sampleDocument [("b", 1), ("a", 2)] (by decide)) =
      canonicalJson digitTokens .ok (sampleDocument [("a", 2), ("b", 1)] (by decide)) := by
  refine ((canonical_text_normal digitTokens digitTokens_lawful).1 _ _).mpr ?_
  exact .object rfl (.cons (.array (.cons (.number 1) .nil))
    (.cons (.array (.cons (.number 2) .nil)) .nil)) (.swap _ _ _)

/-- Arrays in arrays, one more than `level`. -/
def nestedArrays : Nat → JsonTree (Fin 10)
  | 0 => .array []
  | level + 1 => .array [nestedArrays level]

theorem nestedArrays_distinct (level : Nat) : (nestedArrays level).Distinct := by
  induction level with
  | zero => exact .array fun _ none_ => absurd none_ List.not_mem_nil
  | succ level ih => exact .array fun item member => List.mem_singleton.mp member ▸ ih

theorem nestedArrays_deep (level : Nat) : ¬ (nestedArrays level).depth ≤ level := by
  induction level with
  | zero => exact JsonTree.depth_array_pos _
  | succ level ih =>
      rw [nestedArrays, JsonTree.depth_array_le]
      exact fun each => ih (each _ (List.mem_singleton.mpr rfl))

/-- The canonical text of 128 nested arrays is not read back. -/
theorem deep_canonical_text_unread :
    ∃ text, canonicalJson digitTokens .ok ⟨nestedArrays 127, nestedArrays_distinct 127⟩ = .ok text ∧
      fromStr digitTokens text = none := by
  refine ⟨_, rfl, ?_⟩
  rw [fromStr, JsonValue.ofText_toText digitTokens_lawful, if_neg]
  change ¬ (canonicalizeJson (nestedArrays 127)).depth ≤ 127
  rw [canonicalize_depth]
  exact nestedArrays_deep 127

end GreenticDeployer.Spec
