import GreenticDeployer.Lib.ShellWords

/-!
# Remote command lines

What runs on a VM is one string, made of quoted arguments, that the login shell there
cuts into words again.
-/

set_option maxHeartbeats 200000

namespace GreenticDeployer.Ssh

open Lib ShellWords

inductive RemoteError
  | nulInCommand
  deriving DecidableEq

/-- A character `shell_quote` leaves without quotes. -/
def isPlain (c : Char) : Bool := c.isAlphanum || c ∈ "._/-=:@%+,".toList

def shellQuote (arg : String) : String :=
  if arg ≠ "" ∧ arg.toList.all isPlain then arg
  else String.ofList (quote :: arg.toList.flatMap requote ++ [quote])

def nul : Char := '\x00'

def remoteCommand (argv : List String) : Except RemoteError String :=
  if argv.any fun arg => nul ∈ arg.toList then .error .nulInCommand
  else .ok (" ".intercalate (argv.map shellQuote))

theorem isPlain_literal {c : Char} (plain : isPlain c = true) :
    Literal c ∧ c ∉ special := by
  have meant : ∀ d ∈ quote :: backslash :: ' ' :: '\t' :: special, isPlain d = false :=
    List.forall_iff_forall_mem.mp (by decide)
  have apart : ∀ d ∈ quote :: backslash :: ' ' :: '\t' :: special, c ≠ d := by
    rintro d member rfl
    rw [meant c member] at plain
    cases plain
  refine ⟨⟨apart _ (by simp), apart _ (by simp), ?_⟩, fun member => apart c (by simp [member]) rfl⟩
  have space := apart ' ' (by simp)
  have tab := apart '\t' (by simp)
  simp [isBlank, space, tab]

theorem shellQuote_spells (arg : String) :
    Spells (· ∉ special) (shellQuote arg).toList arg.toList := by
  unfold shellQuote
  split
  · rename_i plain
    have literal := fun c member => isPlain_literal (List.all_eq_true.mp plain.2 c member)
    refine spells_literals ?_ (fun c member => (literal c member).1)
      fun c member => (literal c member).2
    simpa using plain.1
  · rw [String.toList_ofList]
    exact spells_quoted arg.toList

/-- Whatever the arguments, the shell on the VM reads the command as these
arguments, and reads no character with a meaning of its own outside quotes. -/
theorem remote_command_spells_argv (argv : List String)
    (clean : ∀ arg ∈ argv, nul ∉ arg.toList) :
    ∃ command, remoteCommand argv = .ok command ∧ split command = some argv ∧
      ∀ c ∈ exposed command, c ∉ special := by
  have sent : remoteCommand argv = .ok (" ".intercalate (argv.map shellQuote)) := by
    refine if_neg ?_
    simpa using clean
  have each : List.Forall₂ (Spells (· ∉ special))
      ((argv.map shellQuote).map String.toList) (argv.map String.toList) := by
    rw [List.map_map, List.forall₂_map_left_iff, List.forall₂_map_right_iff, List.forall₂_same]
    exact fun arg _ => shellQuote_spells arg
  exact ⟨_, sent, split_joined each⟩

theorem remote_command_spells_argv_of_quotes :
    ∃ command, remoteCommand ["it's", "", "a b;\n$(id)", "-x=1"] = .ok command ∧
      split command = some ["it's", "", "a b;\n$(id)", "-x=1"] ∧
      ∀ c ∈ exposed command, c ∉ special :=
  remote_command_spells_argv _ (by decide)

end GreenticDeployer.Ssh
