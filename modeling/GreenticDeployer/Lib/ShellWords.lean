import Mathlib.Data.List.Forall2

/-!
# The words of a shell command

How a POSIX shell cuts a command into words, as a machine over its characters. Blanks
separate words, single quotes take everything up to the next single quote, a backslash
outside quotes takes the next character, and adjacent pieces join. The machine also
keeps the characters it reads outside quotes and unescaped, where a shell gives some
of them a meaning of their own.
-/

set_option maxHeartbeats 200000

namespace GreenticDeployer.Lib.ShellWords

def quote : Char := '\x27'

def backslash : Char := '\\'

def isBlank (c : Char) : Bool := c = ' ' ∨ c = '\t'

/-- Operators, expansions, globs, comments and the other quotes. A line break is an
operator: it ends a command. -/
def special : List Char := "|&;<>()\n\r$`~\"\x7b\x7d*?[]#!^".toList

inductive Mode
  | between
  | bare
  | quoted
  | escaped
  deriving DecidableEq

structure Reader where
  mode : Mode
  words : List (List Char)
  word : List Char
  exposed : List Char
  deriving DecidableEq

namespace Reader

def start : Reader := ⟨.between, [], [], []⟩

def take (reader : Reader) (c : Char) (mode : Mode) : Reader :=
  { reader with mode := mode, word := reader.word ++ [c] }

/-- A blank ends the word there is. -/
def blank (reader : Reader) : Reader :=
  match reader.mode with
  | .between => reader
  | _ => { reader with mode := .between, words := reader.words ++ [reader.word], word := [] }

def outside (reader : Reader) (c : Char) : Reader :=
  if c = quote then { reader with mode := .quoted }
  else if c = backslash then { reader with mode := .escaped }
  else if isBlank c then reader.blank
  else { reader.take c .bare with exposed := reader.exposed ++ [c] }

def step (reader : Reader) (c : Char) : Reader :=
  match reader.mode with
  | .between | .bare => reader.outside c
  | .quoted => if c = quote then { reader with mode := .bare } else reader.take c .quoted
  | .escaped => reader.take c .bare

def read (reader : Reader) (text : List Char) : Reader := text.foldl step reader

/-- The words at the end of a command. An open quote and a trailing backslash are
errors. -/
def finish (reader : Reader) : Option (List (List Char)) :=
  match reader.mode with
  | .between => some reader.words
  | .bare => some (reader.words ++ [reader.word])
  | .quoted | .escaped => none

theorem read_append (reader : Reader) (left right : List Char) :
    reader.read (left ++ right) = (reader.read left).read right := List.foldl_append ..

theorem read_cons (reader : Reader) (c : Char) (rest : List Char) :
    reader.read (c :: rest) = (reader.step c).read rest := rfl

end Reader

def split (command : String) : Option (List String) :=
  (Reader.start.read command.toList).finish.map fun words => words.map String.ofList

def exposed (command : String) : List Char := (Reader.start.read command.toList).exposed

/-- A character that stands for itself outside quotes. -/
def Literal (c : Char) : Prop := c ≠ quote ∧ c ≠ backslash ∧ isBlank c = false

variable {reader : Reader}

theorem step_literal {c : Char} (literal : Literal c)
    (outside : reader.mode = .between ∨ reader.mode = .bare) :
    reader.step c = { reader.take c .bare with exposed := reader.exposed ++ [c] } := by
  obtain ⟨unquoted, unescaped, solid⟩ := literal
  rcases outside with mode | mode <;>
    simp [Reader.step, Reader.outside, mode, unquoted, unescaped, solid]

theorem read_literals {text : List Char} (literal : ∀ c ∈ text, Literal c)
    (bare : reader.mode = .bare) : reader.read text =
      { reader with word := reader.word ++ text, exposed := reader.exposed ++ text } := by
  induction text generalizing reader with
  | nil => simp [Reader.read]
  | cons c rest ih =>
      rw [Reader.read_cons, step_literal (literal c List.mem_cons_self) (.inr bare),
        ih (fun d member => literal d (List.mem_cons_of_mem c member)) rfl]
      simp [Reader.take, bare]

/-- A single quote inside quotes: close, escape one, open again. -/
def requote (c : Char) : List Char := if c = quote then [quote, backslash, quote, quote] else [c]

theorem read_requote {c : Char} (quoted : reader.mode = .quoted) :
    reader.read (requote c) = { reader with word := reader.word ++ [c] } := by
  unfold requote
  split
  · rename_i same
    subst same
    simp [Reader.read, Reader.step, Reader.outside, Reader.take, quoted, quote, backslash]
  · rename_i other
    simp [Reader.read, Reader.step, Reader.take, quoted, other]

theorem read_requoted {text : List Char} (quoted : reader.mode = .quoted) :
    reader.read (text.flatMap requote) = { reader with word := reader.word ++ text } := by
  induction text generalizing reader with
  | nil => simp [Reader.read]
  | cons c rest ih =>
      rw [List.flatMap_cons, Reader.read_append, read_requote quoted]
      refine (ih ?_).trans ?_
      · exact quoted
      · simp

/-- Text that a reader between words reads as one word, showing only characters
that are `safe`. -/
def Spells (safe : Char → Prop) (text word : List Char) : Prop :=
  ∀ reader : Reader, reader.mode = .between → reader.word = [] →
    ∃ shown, (∀ c ∈ shown, safe c) ∧ reader.read text =
      { reader with mode := .bare, word := word, exposed := reader.exposed ++ shown }

variable {safe : Char → Prop}

theorem spells_literals {text : List Char} (some_ : text ≠ [])
    (literal : ∀ c ∈ text, Literal c) (shows : ∀ c ∈ text, safe c) :
    Spells safe text text := by
  intro reader between fresh
  cases text with
  | nil => exact absurd rfl some_
  | cons c rest =>
      refine ⟨c :: rest, shows, ?_⟩
      rw [Reader.read_cons, step_literal (literal c List.mem_cons_self) (.inl between),
        read_literals (fun d member => literal d (List.mem_cons_of_mem c member)) rfl]
      simp [Reader.take, fresh]

theorem spells_quoted (word : List Char) :
    Spells safe (quote :: word.flatMap requote ++ [quote]) word := by
  intro reader between fresh
  refine ⟨[], by simp, ?_⟩
  have opened : reader.step quote = { reader with mode := .quoted } := by
    simp [Reader.step, Reader.outside, between]
  rw [List.cons_append, Reader.read_cons, opened, Reader.read_append, read_requoted rfl]
  simp [Reader.read, Reader.step, fresh]

theorem read_joined {texts words : List (List Char)} (each : List.Forall₂ (Spells safe) texts words)
    (reader : Reader) (between : reader.mode = .between) (fresh : reader.word = []) :
    ∃ shown, (∀ c ∈ shown, safe c) ∧
      (reader.read ([' '].intercalate texts)).finish = some (reader.words ++ words) ∧
      (reader.read ([' '].intercalate texts)).exposed = reader.exposed ++ shown := by
  induction each generalizing reader with
  | nil =>
      refine ⟨[], by simp, ?_, ?_⟩
      · simp [Reader.read, Reader.finish, between]
      · simp [Reader.read]
  | @cons text word texts words spells rest ih =>
      obtain ⟨shown, showsFirst, first⟩ := spells reader between fresh
      cases rest with
      | nil =>
          refine ⟨shown, showsFirst, ?_, ?_⟩
          · simp [first, Reader.finish]
          · simp [first]
      | cons next others =>
          rw [List.intercalate_cons_cons, Reader.read_append, Reader.read_append, first]
          let parted : Reader :=
            ⟨.between, reader.words ++ [word], [], reader.exposed ++ shown⟩
          obtain ⟨later, showsLater, ends, exposes⟩ := ih parted rfl rfl
          refine ⟨shown ++ later, ?_, ?_, ?_⟩
          · intro c member
            exact (List.mem_append.mp member).elim (showsFirst c) (showsLater c)
          · exact ends.trans (by simp [parted])
          · exact exposes.trans (by simp [parted])

theorem split_joined {texts words : List String}
    (each : List.Forall₂ (Spells safe) (texts.map String.toList) (words.map String.toList)) :
    split (" ".intercalate texts) = some words ∧ ∀ c ∈ exposed (" ".intercalate texts), safe c := by
  obtain ⟨shown, shows, ends, exposes⟩ := read_joined each .start rfl rfl
  have joined : (" ".intercalate texts).toList = [' '].intercalate (texts.map String.toList) := by
    simp
  rw [split, exposed, joined, ends, exposes]
  refine ⟨by simp [Reader.start], ?_⟩
  simpa [Reader.start] using shows

end GreenticDeployer.Lib.ShellWords
