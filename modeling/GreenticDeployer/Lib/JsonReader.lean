import GreenticDeployer.Lib.Json

/-!
# Reading JSON text

A recursive descent over JSON text, with a limit on how deep arrays and objects may
nest. It reads compact text back within the limit and refuses it beyond, so compact
text is unambiguous.
-/

set_option maxHeartbeats 200000

namespace GreenticDeployer.Lib.JsonTree

variable {Number α β : Type}

abbrev Reading (α : Type) := List Char → Option (α × List Char)

def isBlank (c : Char) : Bool := c = ' ' ∨ c = '\n' ∨ c = '\t' ∨ c = '\r'

def skipBlank : List Char → List Char
  | [] => []
  | c :: rest => if isBlank c then skipBlank rest else c :: rest

def expect (word : List Char) (value : α) : Reading α := fun input =>
  if word.isPrefixOf input then some (value, input.drop word.length) else none

/-- Entries with commas between them, up to the closing character. The fuel bounds
the entries. -/
def readEntries (entry : Reading α) (close : Char) : Nat → Reading (List α)
  | 0, _ => none
  | fuel + 1, input => do
    let first ← entry input
    match skipBlank first.2 with
    | [] => none
    | c :: rest =>
      if c = close then some ([first.1], rest)
      else if c = ',' then
        (readEntries entry close fuel rest).map fun others => (first.1 :: others.1, others.2)
      else none

/-- What stands behind the opening character of an array or an object. -/
def readBody (entry : Reading α) (close : Char) : Reading (List α) := fun input =>
  match skipBlank input with
  | [] => none
  | c :: rest =>
    if c = close then some ([], rest) else readEntries entry close input.length (c :: rest)

/-- A map takes a key that it holds already for the newer value. -/
def insertEntry (key : String) (value : α) : List (String × α) → List (String × α)
  | [] => [(key, value)]
  | held :: rest =>
    if held.1 = key then (key, value) :: rest else held :: insertEntry key value rest

def fromEntries (entries : List (String × α)) : List (String × α) :=
  entries.foldl (fun held entry => insertEntry entry.1 entry.2 held) []

variable (tokens : JsonTokens Number)

def readMember (value : Reading α) : Reading (String × α) := fun input =>
  match skipBlank input with
  | [] => none
  | c :: rest =>
    if c = '"' then do
      let key ← tokens.readString (c :: rest)
      match skipBlank key.2 with
      | [] => none
      | c :: rest =>
        if c = ':' then (value rest).map fun read => ((key.1, read.1), read.2) else none
    else none

def readScalar : Reading (JsonTree Number) := fun input =>
  match skipBlank input with
  | [] => none
  | c :: rest =>
    if c = 'n' then expect "ull".toList .null rest
    else if c = 't' then expect "rue".toList (.bool true) rest
    else if c = 'f' then expect "alse".toList (.bool false) rest
    else if c = '"' then
      (tokens.readString (c :: rest)).map fun read => (.string read.1, read.2)
    else if c = '-' ∨ c.isDigit then
      (tokens.readNumber (c :: rest)).map fun read => (.number read.1, read.2)
    else none

/-- A value in front of the text, with arrays and objects up to `level` deep. -/
def readValue : Nat → Reading (JsonTree Number)
  | 0, input => readScalar tokens input
  | level + 1, input =>
    match skipBlank input with
    | [] => none
    | c :: rest =>
      if c = '[' then
        (readBody (readValue level) ']' rest).map fun read => (.array read.1, read.2)
      else if c = '{' then
        (readBody (readMember tokens (readValue level)) '}' rest).map fun read =>
          (.object (fromEntries read.1), read.2)
      else readScalar tokens input

theorem skipBlank_solid {c : Char} (solid : isBlank c = false) (rest : List Char) :
    skipBlank (c :: rest) = c :: rest := by
  rw [skipBlank, solid]
  rfl

theorem length_le_commas (parts : List (List Char)) :
    parts.length ≤ (commas parts).length + 1 := by
  induction parts with
  | nil => simp
  | cons part rest ih =>
      cases rest with
      | nil => simp
      | cons next more =>
          rw [commas, List.intercalate_cons_cons, ← commas]
          simp only [List.length_cons, List.length_append] at ih ⊢
          omega

def Closes (close : Char) : Prop := close = ']' ∨ close = '}'

theorem Closes.ends {close : Char} (closes : Closes close) (rest : List Char) :
    Ends (close :: rest) := .inr closes

theorem Closes.solid {close : Char} (closes : Closes close) : isBlank close = false := by
  rcases closes with rfl | rfl <;> rfl

/-- Entries in compact text: each is read back if it fits, and the first that does
not makes the whole fail. -/
theorem readEntries_commas {entry : Reading α} (print : α → List Char) (fits : α → Prop)
    [DecidablePred fits] {close : Char} (closes : Closes close) (rest : List Char)
    {items : List α} (some_ : items ≠ []) {fuel : Nat} (enough : items.length ≤ fuel)
    (each : ∀ item ∈ items, ∀ rest, Ends rest →
      entry (print item ++ rest) = if fits item then some (item, rest) else none) :
    readEntries entry close fuel (commas (items.map print) ++ close :: rest) =
      if ∀ item ∈ items, fits item then some (items, rest) else none := by
  induction items generalizing fuel with
  | nil => exact absurd rfl some_
  | cons item others ih =>
      obtain ⟨fuel, rfl⟩ : ∃ n, fuel = n + 1 := ⟨fuel - 1, by simp at enough; omega⟩
      have here := each item List.mem_cons_self
      cases others with
      | nil =>
          have read := here (close :: rest) (closes.ends rest)
          by_cases fit : fits item
          · rw [if_pos fit] at read
            simp [commas, readEntries, read, skipBlank_solid closes.solid, fit]
          · rw [if_neg fit] at read
            simp [commas, readEntries, read, fit]
      | cons next more =>
          have later := ih (by simp) (Nat.le_of_succ_le_succ enough)
            fun other member => each other (List.mem_cons_of_mem item member)
          have read := here (',' :: (commas ((next :: more).map print) ++ close :: rest)) (.inl rfl)
          have apart : ',' ≠ close := by rcases closes with rfl | rfl <;> decide
          have laid : commas ((item :: next :: more).map print) ++ close :: rest =
              print item ++ ',' :: (commas ((next :: more).map print) ++ close :: rest) := by
            simp [commas, List.intercalate_cons_cons]
          rw [laid, readEntries, read]
          by_cases fit : fits item
          · rw [if_pos fit, Option.bind_eq_bind, Option.bind_some]
            dsimp only
            rw [skipBlank_solid rfl]
            dsimp only
            rw [if_neg apart, if_pos rfl, later]
            by_cases fitting : ∀ other ∈ next :: more, fits other
            · rw [if_pos fitting, if_pos (List.forall_mem_cons.mpr ⟨fit, fitting⟩)]
              rfl
            · rw [if_neg fitting, if_neg fun all => fitting (List.forall_mem_cons.mp all).2]
              rfl
          · rw [if_neg fit, if_neg fun all => fit (all item List.mem_cons_self)]
            rfl

/-- A character that can open a value or a key. -/
def Opens (text : List Char) : Prop :=
  ∃ c rest, text = c :: rest ∧ isBlank c = false ∧ c ≠ ']' ∧ c ≠ '}'

theorem readBody_commas {entry : Reading α} (print : α → List Char) (fits : α → Prop)
    [DecidablePred fits] {close : Char} (closes : Closes close) (rest : List Char)
    {items : List α} (opens : ∀ item ∈ items, Opens (print item))
    (each : ∀ item ∈ items, ∀ rest, Ends rest →
      entry (print item ++ rest) = if fits item then some (item, rest) else none) :
    readBody entry close (commas (items.map print) ++ close :: rest) =
      if ∀ item ∈ items, fits item then some (items, rest) else none := by
  cases items with
  | nil =>
      simp [readBody, commas, skipBlank_solid closes.solid]
  | cons item others =>
      obtain ⟨c, more, opening, solid, bracket, brace⟩ := opens item List.mem_cons_self
      have apart : c ≠ close := by rcases closes with rfl | rfl <;> assumption
      obtain ⟨tail, laid⟩ : ∃ tail, commas ((item :: others).map print) ++ close :: rest =
          c :: tail := by
        cases others with
        | nil => exact ⟨_, by simp [commas, opening]; rfl⟩
        | cons next others => exact ⟨_, by simp [commas, opening]; rfl⟩
      have enough : (item :: others).length ≤
          (commas ((item :: others).map print) ++ close :: rest).length := by
        have bound := length_le_commas ((item :: others).map print)
        simp only [List.length_map, List.length_append, List.length_cons] at bound ⊢
        omega
      have read := readEntries_commas print fits closes rest (List.cons_ne_nil item others) enough each
      rw [laid] at read ⊢
      rw [readBody, skipBlank_solid solid]
      dsimp only
      rw [if_neg apart, read]

theorem insertEntry_fresh {key : String} (value : α) {held : List (String × α)}
    (fresh : key ∉ held.map Prod.fst) : insertEntry key value held = held ++ [(key, value)] := by
  induction held with
  | nil => rfl
  | cons head rest ih =>
      simp only [List.map_cons, List.mem_cons, not_or] at fresh
      rw [insertEntry, if_neg fun same => fresh.1 same.symm, ih fresh.2, List.cons_append]

theorem fromEntries_distinct {entries : List (String × α)}
    (distinct : (entries.map Prod.fst).Nodup) : fromEntries entries = entries := by
  have onto : ∀ held : List (String × α), ((held ++ entries).map Prod.fst).Nodup →
      entries.foldl (fun held entry => insertEntry entry.1 entry.2 held) held = held ++ entries := by
    clear distinct
    induction entries with
    | nil => simp
    | cons entry rest ih =>
        intro held distinct
        have fresh : entry.1 ∉ held.map Prod.fst := by
          rw [List.map_append, List.map_cons, List.nodup_middle, List.nodup_cons] at distinct
          exact fun present => distinct.1 (List.mem_append_left _ present)
        rw [List.foldl_cons, insertEntry_fresh entry.2 fresh, ih]
        · simp
        · simpa using distinct
  exact onto [] distinct

section RoundTrip

variable {tokens}

theorem sign_apart {c d : Char} (sign : c = '-' ∨ c.isDigit = true)
    (mark : d ≠ '-' ∧ d.isDigit = false) : c ≠ d := by
  rintro rfl
  rcases sign with same | digit
  · exact mark.1 same
  · rw [mark.2] at digit
    cases digit

theorem sign_solid {c : Char} (sign : c = '-' ∨ c.isDigit = true) : isBlank c = false := by
  have space : c ≠ ' ' := sign_apart sign (by decide)
  have line : c ≠ '\n' := sign_apart sign (by decide)
  have tab : c ≠ '\t' := sign_apart sign (by decide)
  have back : c ≠ '\r' := sign_apart sign (by decide)
  simp [isBlank, space, line, tab, back]

theorem text_opens (lawful : tokens.Lawful) (json : JsonTree Number) : Opens (json.text tokens) := by
  cases json with
  | null => exact ⟨'n', _, rfl, rfl, by decide, by decide⟩
  | bool value => cases value <;> exact ⟨_, _, rfl, rfl, by decide, by decide⟩
  | number value =>
      obtain ⟨c, rest, opening, sign⟩ := lawful.number value
      exact ⟨c, rest, opening, sign_solid sign, sign_apart sign (by decide),
        sign_apart sign (by decide)⟩
  | string text =>
      obtain ⟨rest, opening⟩ := lawful.string text
      exact ⟨'"', rest, opening, rfl, by decide, by decide⟩
  | array items => exact ⟨'[', _, text_array tokens items, rfl, by decide, by decide⟩
  | object entries => exact ⟨'{', _, text_object tokens entries, rfl, by decide, by decide⟩

theorem member_opens (lawful : tokens.Lawful) (entry : String × List Char) :
    Opens (member tokens entry) := by
  obtain ⟨rest, opening⟩ := lawful.string entry.1
  refine ⟨'"', rest ++ ':' :: entry.2, ?_, rfl, by decide, by decide⟩
  rw [member, opening, List.cons_append]

theorem readScalar_text (lawful : tokens.Lawful) {json : JsonTree Number} (scalar : json.depth ≤ 0)
    {rest : List Char} (ends : Ends rest) :
    readScalar tokens (json.text tokens ++ rest) = some (json, rest) ∧
      ∃ c more, json.text tokens = c :: more ∧ isBlank c = false ∧ c ≠ '[' ∧ c ≠ '{' := by
  cases json with
  | null => exact ⟨rfl, 'n', _, rfl, rfl, by decide, by decide⟩
  | bool value =>
      cases value with
      | true => exact ⟨rfl, 't', _, rfl, rfl, by decide, by decide⟩
      | false => exact ⟨rfl, 'f', _, rfl, rfl, by decide, by decide⟩
  | number value =>
      obtain ⟨c, more, opening, sign⟩ := lawful.number value
      have read := lawful.readNumber value rest ends
      have solid := sign_solid sign
      refine ⟨?_, c, more, opening, solid, sign_apart sign (by decide), sign_apart sign (by decide)⟩
      change readScalar tokens (tokens.printNumber value ++ rest) = _
      rw [opening, List.cons_append] at read ⊢
      rw [readScalar, skipBlank_solid solid]
      dsimp only
      rw [if_neg (sign_apart sign (by decide)), if_neg (sign_apart sign (by decide)),
        if_neg (sign_apart sign (by decide)), if_neg (sign_apart sign (by decide)), if_pos sign, read]
      rfl
  | string text =>
      obtain ⟨more, opening⟩ := lawful.string text
      have read := lawful.readString text rest
      refine ⟨?_, '"', more, opening, rfl, by decide, by decide⟩
      change readScalar tokens (tokens.printString text ++ rest) = _
      rw [opening, List.cons_append] at read ⊢
      rw [readScalar, skipBlank_solid rfl]
      dsimp only
      rw [if_neg (by decide), if_neg (by decide), if_neg (by decide), if_pos rfl, read]
      rfl
  | array items => exact absurd scalar (depth_array_pos items)
  | object entries => exact absurd scalar (depth_object_pos entries)

theorem readMember_text (lawful : tokens.Lawful) {value : Reading (JsonTree Number)} {key : String}
    {json : JsonTree Number} {rest : List Char} {read : Option (JsonTree Number × List Char)}
    (reads : value (json.text tokens ++ rest) = read) :
    readMember tokens value (member tokens (key, json.text tokens) ++ rest) =
      read.map fun read => ((key, read.1), read.2) := by
  obtain ⟨more, opening⟩ := lawful.string key
  have keyed := lawful.readString key (':' :: (json.text tokens ++ rest))
  have laid : member tokens (key, json.text tokens) ++ rest =
      tokens.printString key ++ ':' :: (json.text tokens ++ rest) := by
    simp [member]
  rw [laid]
  rw [opening, List.cons_append] at keyed ⊢
  rw [readMember, skipBlank_solid rfl]
  dsimp only
  rw [if_pos rfl, keyed, Option.bind_eq_bind, Option.bind_some]
  dsimp only
  rw [skipBlank_solid rfl]
  dsimp only
  rw [if_pos rfl, reads]

theorem readScalar_container {c : Char} (container : c = '[' ∨ c = '{') (rest : List Char) :
    readScalar tokens (c :: rest) = none := by
  rcases container with rfl | rfl <;> simp [readScalar, skipBlank_solid, isBlank]

theorem readValue_scalar (lawful : tokens.Lawful) (level : Nat) {json : JsonTree Number}
    (scalar : json.depth ≤ 0) {rest : List Char} (ends : Ends rest) :
    readValue tokens level (json.text tokens ++ rest) = some (json, rest) := by
  obtain ⟨read, c, more, opening, solid, bracket, brace⟩ := readScalar_text lawful scalar ends
  cases level with
  | zero => exact read
  | succ level =>
      rw [← read, opening, List.cons_append, readValue, skipBlank_solid solid]
      dsimp only
      rw [if_neg bracket, if_neg brace]

/-- Compact text in front of anything is read back where it nests no deeper than the
limit, and is refused where it does. -/
theorem readValue_text (lawful : tokens.Lawful) (level : Nat) {json : JsonTree Number}
    (distinct : json.Distinct) (rest : List Char) (ends : Ends rest) :
    readValue tokens level (json.text tokens ++ rest) =
      if json.depth ≤ level then some (json, rest) else none := by
  induction level generalizing json rest with
  | zero =>
      rcases scalar_or_container json with scalar | ⟨items, rfl⟩ | ⟨entries, rfl⟩
      · rw [if_pos scalar, readValue_scalar lawful 0 scalar ends]
      · rw [if_neg (depth_array_pos items), text_array, List.cons_append, List.cons_append]
        exact readScalar_container (.inl rfl) _
      · rw [if_neg (depth_object_pos entries), text_object, List.cons_append, List.cons_append]
        exact readScalar_container (.inr rfl) _
  | succ level ih =>
      rcases scalar_or_container json with scalar | ⟨items, rfl⟩ | ⟨entries, rfl⟩
      · rw [if_pos (Nat.le_trans scalar (Nat.zero_le _)), readValue_scalar lawful _ scalar ends]
      · have body := readBody_commas (text tokens) (depth · ≤ level) (.inl rfl) rest
          (fun item _ => text_opens lawful item)
          fun item member rest ends => ih (distinct.items item member) rest ends
        have laid : (array items).text tokens ++ rest =
            '[' :: (commas (items.map (text tokens)) ++ ']' :: rest) := by
          simp [text_array]
        rw [laid, readValue, skipBlank_solid rfl]
        dsimp only
        rw [if_pos rfl, body, apply_ite (Option.map _)]
        simp only [depth_array_le, Option.map_some, Option.map_none]
      · have each : ∀ entry ∈ entries, ∀ rest, Ends rest →
            readMember tokens (readValue tokens level)
                (member tokens (entry.1, entry.2.text tokens) ++ rest) =
              if entry.2.depth ≤ level then some (entry, rest) else none := by
          intro entry present rest ends
          rw [readMember_text lawful (ih (distinct.entries.2 entry present) rest ends),
            apply_ite (Option.map _)]
          rfl
        have body := readBody_commas (fun e : String × JsonTree Number => member tokens
          (e.1, e.2.text tokens)) (fun e => e.2.depth ≤ level) (.inr rfl) rest
          (fun entry _ => member_opens lawful _) each
        have laid : (object entries).text tokens ++ rest = '{' ::
            (commas (entries.map fun e => member tokens (e.1, e.2.text tokens)) ++ '}' :: rest) := by
          simp [text_object]
        rw [laid, readValue, skipBlank_solid rfl]
        dsimp only
        rw [if_neg (by decide), if_pos rfl, body, apply_ite (Option.map _)]
        simp only [depth_object_le, Option.map_some, Option.map_none,
          fromEntries_distinct distinct.entries.1]

theorem text_inj (lawful : tokens.Lawful) {left right : JsonTree Number} (distinct : left.Distinct)
    (distinct' : right.Distinct) (same : left.text tokens = right.text tokens) : left = right := by
  have read := readValue_text lawful (max left.depth right.depth) distinct [] trivial
  have read' := readValue_text lawful (max left.depth right.depth) distinct' [] trivial
  rw [if_pos (Nat.le_max_left _ _)] at read
  rw [if_pos (Nat.le_max_right _ _), ← same, read] at read'
  cases read'
  rfl

end RoundTrip

theorem readEntries_each {entry : Reading α} {P : α → Prop} {close : Char}
    (each : ∀ input read, entry input = some read → P read.1) {fuel : Nat} {input : List Char}
    {read : List α × List Char} (returned : readEntries entry close fuel input = some read) :
    ∀ item ∈ read.1, P item := by
  induction fuel generalizing input read with
  | zero => cases returned
  | succ fuel ih =>
      rw [readEntries] at returned
      obtain ⟨first, reads, returned⟩ := Option.bind_eq_some_iff.mp returned
      have here := each input first reads
      cases left : skipBlank first.2 with
      | nil =>
          rw [left] at returned
          cases returned
      | cons c rest =>
          rw [left] at returned
          dsimp only at returned
          split at returned
          · cases returned
            simpa using here
          split at returned
          · obtain ⟨others, later, rfl⟩ := Option.map_eq_some_iff.mp returned
            exact List.forall_mem_cons.mpr ⟨here, ih later⟩
          · cases returned

theorem readBody_each {entry : Reading α} {P : α → Prop} {close : Char}
    (each : ∀ input read, entry input = some read → P read.1) {input : List Char}
    {read : List α × List Char} (returned : readBody entry close input = some read) :
    ∀ item ∈ read.1, P item := by
  rw [readBody] at returned
  cases left : skipBlank input with
  | nil =>
      rw [left] at returned
      cases returned
  | cons c rest =>
      rw [left] at returned
      dsimp only at returned
      split at returned
      · cases returned
        simp
      · exact readEntries_each each returned

theorem readMember_each {value : Reading α} {P : α → Prop}
    (each : ∀ input read, value input = some read → P read.1) (input : List Char)
    (read : (String × α) × List Char) (returned : readMember tokens value input = some read) :
    P read.1.2 := by
  rw [readMember] at returned
  split at returned
  · cases returned
  split at returned
  · obtain ⟨key, keyed, returned⟩ := Option.bind_eq_some_iff.mp returned
    split at returned
    · cases returned
    split at returned
    · obtain ⟨inner, reads, rfl⟩ := Option.map_eq_some_iff.mp returned
      exact each _ inner reads
    · cases returned
  · cases returned

theorem mem_insertEntry {key : String} {value : α} {held : List (String × α)}
    {entry : String × α} (member : entry ∈ insertEntry key value held) :
    entry = (key, value) ∨ entry ∈ held := by
  induction held with
  | nil => exact .inl (List.mem_singleton.mp member)
  | cons head rest ih =>
      rw [insertEntry] at member
      split at member
      · rcases List.mem_cons.mp member with new | old
        · exact .inl new
        · exact .inr (List.mem_cons_of_mem head old)
      · rcases List.mem_cons.mp member with rfl | later
        · exact .inr List.mem_cons_self
        · exact (ih later).imp_right (List.mem_cons_of_mem head)

theorem insertEntry_keys {key : String} {value : α} {held : List (String × α)}
    (distinct : (held.map Prod.fst).Nodup) :
    ((insertEntry key value held).map Prod.fst).Nodup := by
  induction held with
  | nil => simp [insertEntry]
  | cons head rest ih =>
      rw [List.map_cons, List.nodup_cons] at distinct
      rw [insertEntry]
      split
      · rename_i same
        rw [List.map_cons, List.nodup_cons]
        exact same ▸ distinct
      · rename_i other
        rw [List.map_cons, List.nodup_cons]
        refine ⟨?_, ih distinct.2⟩
        intro present
        obtain ⟨entry, member, same⟩ := List.mem_map.mp present
        rcases mem_insertEntry member with rfl | old
        · exact other same.symm
        · exact distinct.1 (List.mem_map.mpr ⟨entry, old, same⟩)

theorem fromEntries_sound (entries : List (String × α)) :
    ((fromEntries entries).map Prod.fst).Nodup ∧
      ∀ entry ∈ fromEntries entries, entry ∈ entries := by
  have onto : ∀ (more held : List (String × α)), (held.map Prod.fst).Nodup →
      (∀ entry ∈ held, entry ∈ entries) → more ⊆ entries →
      ((more.foldl (fun held entry => insertEntry entry.1 entry.2 held) held).map Prod.fst).Nodup ∧
        ∀ entry ∈ more.foldl (fun held entry => insertEntry entry.1 entry.2 held) held,
          entry ∈ entries := by
    intro more
    induction more with
    | nil => exact fun held distinct inside _ => ⟨distinct, inside⟩
    | cons entry rest ih =>
        intro held distinct inside within
        refine ih _ (insertEntry_keys distinct) ?_ fun other later => within (.tail _ later)
        intro other member
        rcases mem_insertEntry member with rfl | old
        · exact within List.mem_cons_self
        · exact inside other old
  exact onto entries [] List.nodup_nil (fun _ none_ => absurd none_ List.not_mem_nil)
    (List.Subset.refl _)

theorem expect_value {word : List Char} {value : α} {input : List Char} {read : α × List Char}
    (returned : expect word value input = some read) : read.1 = value := by
  rw [expect] at returned
  split at returned
  · cases returned
    rfl
  · cases returned

theorem readScalar_distinct {input : List Char} {read : JsonTree Number × List Char}
    (returned : readScalar tokens input = some read) : read.1.Distinct := by
  rw [readScalar] at returned
  split at returned
  · cases returned
  split at returned
  · exact expect_value returned ▸ .null
  split at returned
  · exact expect_value returned ▸ .bool true
  split at returned
  · exact expect_value returned ▸ .bool false
  split at returned
  · obtain ⟨inner, _, rfl⟩ := Option.map_eq_some_iff.mp returned
    exact .string inner.1
  split at returned
  · obtain ⟨inner, _, rfl⟩ := Option.map_eq_some_iff.mp returned
    exact .number inner.1
  · cases returned

theorem readValue_distinct (level : Nat) {input : List Char} {read : JsonTree Number × List Char}
    (returned : readValue tokens level input = some read) : read.1.Distinct := by
  induction level generalizing input read with
  | zero => exact readScalar_distinct tokens returned
  | succ level ih =>
      rw [readValue] at returned
      split at returned
      · cases returned
      split at returned
      · obtain ⟨body, reads, rfl⟩ := Option.map_eq_some_iff.mp returned
        exact .array (readBody_each (fun _ _ => ih) reads)
      split at returned
      · obtain ⟨body, reads, rfl⟩ := Option.map_eq_some_iff.mp returned
        have each : ∀ entry ∈ body.1, entry.2.Distinct := by
          refine readBody_each ?_ reads
          intro input read member
          exact readMember_each tokens (P := JsonTree.Distinct) (fun _ _ => ih) input read member
        obtain ⟨keys, known⟩ := fromEntries_sound body.1
        exact .object keys fun entry member => each entry (known entry member)
      · exact readScalar_distinct tokens returned

end GreenticDeployer.Lib.JsonTree

namespace GreenticDeployer.Lib

variable {Number : Type} (tokens : JsonTokens Number)

def JsonValue.toText (value : JsonValue Number) : String := String.ofList (value.json.text tokens)

def JsonValue.ofText (level : Nat) (text : String) : Option (JsonValue Number) :=
  match read : JsonTree.readValue tokens level text.toList with
  | none => none
  | some (json, rest) =>
    if JsonTree.skipBlank rest = [] then some ⟨json, JsonTree.readValue_distinct tokens level read⟩
    else none

variable {tokens}

theorem JsonValue.ofText_toText (lawful : tokens.Lawful) (level : Nat)
    (value : JsonValue Number) : ofText tokens level (value.toText tokens) =
      if value.json.depth ≤ level then some value else none := by
  have read := JsonTree.readValue_text lawful level value.distinct [] trivial
  rw [List.append_nil, ← String.toList_ofList (l := value.json.text tokens)] at read
  change JsonTree.readValue tokens level (value.toText tokens).toList = _ at read
  unfold ofText
  by_cases fits : value.json.depth ≤ level
  · rw [if_pos fits] at read ⊢
    split
    · rename_i failed
      rw [failed] at read
      cases read
    · rename_i json rest returned
      rw [returned] at read
      cases read
      rfl
  · rw [if_neg fits] at read ⊢
    split
    · rfl
    · rename_i json rest returned
      rw [returned] at read
      cases read

end GreenticDeployer.Lib
