import Mathlib.Data.List.Forall2
import Mathlib.Data.List.Nodup

/-!
# JSON values

Values as trees over any type of numbers, with the entries of an object in a list.
One fold carries every recursion over them. Also: when two values differ in the order
of keys alone.
-/

set_option maxHeartbeats 200000

namespace GreenticDeployer.Lib

inductive JsonTree (Number : Type)
  | null
  | bool (value : Bool)
  | number (value : Number)
  | string (text : String)
  | array (items : List (JsonTree Number))
  | object (entries : List (String × JsonTree Number))

namespace JsonTree

variable {Number α : Type}

/-- What a recursion does at each kind of value. -/
structure Algebra (Number α : Type) where
  null : α
  bool : Bool → α
  number : Number → α
  string : String → α
  array : List α → α
  object : List (String × α) → α

mutual

@[simp] def fold (alg : Algebra Number α) : JsonTree Number → α
  | .null => alg.null
  | .bool value => alg.bool value
  | .number value => alg.number value
  | .string text => alg.string text
  | .array items => alg.array (foldItems alg items)
  | .object entries => alg.object (foldEntries alg entries)

def foldItems (alg : Algebra Number α) : List (JsonTree Number) → List α
  | [] => []
  | item :: rest => fold alg item :: foldItems alg rest

def foldEntries (alg : Algebra Number α) : List (String × JsonTree Number) → List (String × α)
  | [] => []
  | entry :: rest => foldEntry alg entry :: foldEntries alg rest

def foldEntry (alg : Algebra Number α) : String × JsonTree Number → String × α
  | (key, value) => (key, fold alg value)

end

theorem foldItems_eq (alg : Algebra Number α) (items : List (JsonTree Number)) :
    foldItems alg items = items.map (fold alg) := by
  induction items with
  | nil => rfl
  | cons item rest ih => rw [foldItems, ih, List.map_cons]

theorem foldEntries_eq (alg : Algebra Number α) (entries : List (String × JsonTree Number)) :
    foldEntries alg entries = entries.map fun e => (e.1, fold alg e.2) := by
  induction entries with
  | nil => rfl
  | cons entry rest ih => rw [foldEntries, ih, List.map_cons, foldEntry]

theorem fold_array (alg : Algebra Number α) (items : List (JsonTree Number)) :
    fold alg (.array items) = alg.array (items.map (fold alg)) := by
  rw [fold, foldItems_eq]

theorem fold_object (alg : Algebra Number α) (entries : List (String × JsonTree Number)) :
    fold alg (.object entries) = alg.object (entries.map fun e => (e.1, fold alg e.2)) := by
  rw [fold, foldEntries_eq]

@[elab_as_elim]
theorem induct {motive : JsonTree Number → Prop} (null : motive .null)
    (bool : ∀ value, motive (.bool value)) (number : ∀ value, motive (.number value))
    (string : ∀ text, motive (.string text))
    (array : ∀ items, (∀ item ∈ items, motive item) → motive (.array items))
    (object : ∀ entries, (∀ entry ∈ entries, motive entry.2) → motive (.object entries)) :
    ∀ json, motive json
  | .null => null
  | .bool value => bool value
  | .number value => number value
  | .string text => string text
  | .array items =>
      array items fun item _ => induct null bool number string array object item
  | .object entries =>
      object entries fun entry _ => induct null bool number string array object entry.2
decreasing_by
  · have smaller := List.sizeOf_lt_of_mem ‹item ∈ items›
    rw [JsonTree.array.sizeOf_spec]
    omega
  · have smaller := List.sizeOf_lt_of_mem ‹entry ∈ entries›
    have inside : sizeOf entry = 1 + sizeOf entry.1 + sizeOf entry.2 := rfl
    rw [JsonTree.object.sizeOf_spec]
    omega

def nesting : Algebra Number Nat where
  null := 0
  bool _ := 0
  number _ := 0
  string _ := 0
  array depths := depths.foldr max 0 + 1
  object depths := (depths.map Prod.snd).foldr max 0 + 1

def depth : JsonTree Number → Nat := fold nesting

theorem foldr_max_le {depths : List Nat} {limit : Nat} :
    depths.foldr max 0 ≤ limit ↔ ∀ d ∈ depths, d ≤ limit := by
  induction depths with
  | nil => simp
  | cons d rest ih => rw [List.foldr_cons, Nat.max_le, ih, List.forall_mem_cons]

theorem scalar_or_container (json : JsonTree Number) :
    json.depth ≤ 0 ∨ (∃ items, json = .array items) ∨ ∃ entries, json = .object entries := by
  cases json with
  | array items => exact .inr (.inl ⟨items, rfl⟩)
  | object entries => exact .inr (.inr ⟨entries, rfl⟩)
  | _ => exact .inl (Nat.le_refl 0)

theorem depth_array_pos (items : List (JsonTree Number)) : ¬ (array items).depth ≤ 0 := by
  rw [depth, fold_array]
  exact Nat.not_succ_le_zero _

theorem depth_object_pos (entries : List (String × JsonTree Number)) :
    ¬ (object entries).depth ≤ 0 := by
  rw [depth, fold_object]
  exact Nat.not_succ_le_zero _

theorem depth_array_le {items : List (JsonTree Number)} {limit : Nat} :
    (array items).depth ≤ limit + 1 ↔ ∀ item ∈ items, item.depth ≤ limit := by
  rw [depth, fold_array, nesting, Nat.add_le_add_iff_right, foldr_max_le, List.forall_mem_map]

theorem depth_object_le {entries : List (String × JsonTree Number)} {limit : Nat} :
    (object entries).depth ≤ limit + 1 ↔ ∀ entry ∈ entries, entry.2.depth ≤ limit := by
  rw [depth, fold_object, nesting, Nat.add_le_add_iff_right, foldr_max_le, List.map_map,
    List.forall_mem_map]
  rfl

inductive Distinct : JsonTree Number → Prop
  | null : Distinct .null
  | bool (value : Bool) : Distinct (.bool value)
  | number (value : Number) : Distinct (.number value)
  | string (text : String) : Distinct (.string text)
  | array {items : List (JsonTree Number)} (each : ∀ item ∈ items, Distinct item) :
      Distinct (.array items)
  | object {entries : List (String × JsonTree Number)} (keys : (entries.map Prod.fst).Nodup)
      (each : ∀ entry ∈ entries, Distinct entry.2) : Distinct (.object entries)

theorem Distinct.items {items : List (JsonTree Number)} (distinct : (JsonTree.array items).Distinct) :
    ∀ item ∈ items, item.Distinct := by
  cases distinct with
  | array each => exact each

theorem Distinct.entries {entries : List (String × JsonTree Number)}
    (distinct : (JsonTree.object entries).Distinct) :
    (entries.map Prod.fst).Nodup ∧ ∀ entry ∈ entries, entry.2.Distinct := by
  cases distinct with
  | object keys each => exact ⟨keys, each⟩

/-- Equal up to the order of keys, at every depth. -/
inductive Reordered : JsonTree Number → JsonTree Number → Prop
  | null : Reordered .null .null
  | bool (value : Bool) : Reordered (.bool value) (.bool value)
  | number (value : Number) : Reordered (.number value) (.number value)
  | string (text : String) : Reordered (.string text) (.string text)
  | array {items others : List (JsonTree Number)} (each : List.Forall₂ Reordered items others) :
      Reordered (.array items) (.array others)
  | object {entries permuted others : List (String × JsonTree Number)}
      (keys : entries.map Prod.fst = permuted.map Prod.fst)
      (values : List.Forall₂ Reordered (entries.map Prod.snd) (permuted.map Prod.snd))
      (order : permuted.Perm others) : Reordered (.object entries) (.object others)

end JsonTree

structure JsonValue (Number : Type) where
  json : JsonTree Number
  distinct : json.Distinct

/-- How numbers and strings are written and read: what is written starts as its kind
does, and is read back in front of anything that may follow it. -/
structure JsonTokens (Number : Type) where
  printNumber : Number → List Char
  readNumber : List Char → Option (Number × List Char)
  printString : String → List Char
  readString : List Char → Option (String × List Char)

/-- What stands behind a value in compact text: nothing, or the end of an entry. -/
def Ends : List Char → Prop
  | [] => True
  | c :: _ => c = ',' ∨ c = ']' ∨ c = '}'

structure JsonTokens.Lawful {Number : Type} (tokens : JsonTokens Number) : Prop where
  number : ∀ n, ∃ c rest, tokens.printNumber n = c :: rest ∧ (c = '-' ∨ c.isDigit = true)
  string : ∀ s, ∃ rest, tokens.printString s = '"' :: rest
  readNumber : ∀ n rest, Ends rest →
    tokens.readNumber (tokens.printNumber n ++ rest) = some (n, rest)
  readString : ∀ s rest, tokens.readString (tokens.printString s ++ rest) = some (s, rest)

namespace JsonTree

variable {Number : Type} (tokens : JsonTokens Number)

def commas : List (List Char) → List Char := [','].intercalate

def member (entry : String × List Char) : List Char :=
  tokens.printString entry.1 ++ ':' :: entry.2

def printing : Algebra Number (List Char) where
  null := "null".toList
  bool value := if value then "true".toList else "false".toList
  number := tokens.printNumber
  string := tokens.printString
  array items := '[' :: commas items ++ [']']
  object entries := '{' :: commas (entries.map (member tokens)) ++ ['}']

def text : JsonTree Number → List Char := fold (printing tokens)

theorem text_array (items : List (JsonTree Number)) :
    (array items).text tokens = '[' :: commas (items.map (text tokens)) ++ [']'] :=
  fold_array _ items

theorem text_object (entries : List (String × JsonTree Number)) : (object entries).text tokens =
    '{' :: commas (entries.map fun e => member tokens (e.1, e.2.text tokens)) ++ ['}'] := by
  rw [text, fold_object]
  simp only [printing, List.map_map]
  rfl

end JsonTree

end GreenticDeployer.Lib
