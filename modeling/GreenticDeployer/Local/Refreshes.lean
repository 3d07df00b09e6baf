import GreenticDeployer.Local.Projections

/-!
# What a refresh leaves

A refresh that succeeds has made its projection that of the environment it was
given, whatever was there before; one that fails has touched nothing else.
-/

set_option maxHeartbeats 200000

namespace GreenticDeployer.Local.Projections

open Spec Engine Lib

section Calls

variable {file : StoreFile} {call : StoreCall} {α β : Type} {disk : Disk}

theorem attempt_quiet {outcome : call.Reply → Option α} {post : Except StoreError α → Disk → Prop}
    (quiet : ∀ turn, (access turn disk call).2 = disk)
    (succeeds : ∀ turn value, outcome (access turn disk call).1 = some value →
      post (.ok value) disk)
    (fails : post (.error (.io file)) disk) :
    Program.Ends access post (attempt file call outcome) disk := by
  apply Program.Ends.ask
  intro turn
  rw [quiet turn]
  cases replied : outcome (access turn disk call).1 with
  | none => exact fails
  | some value => exact succeeds turn value replied

theorem attempt_then {outcome : call.Reply → Option α} {f : α → Storing β}
    {post : Except StoreError β → Disk → Prop} (quiet : ∀ turn, (access turn disk call).2 = disk)
    (fails : post (.error (.io file)) disk)
    (rest : ∀ value, Program.Ends access post (f value) disk) :
    Program.Ends access post (attempt file call outcome >>= f) disk := by
  have asked : Program.Ends access (fun outcome next => next = disk ∧
      ∀ e, outcome = .error e → e = .io file) (attempt file call outcome) disk :=
    attempt_quiet quiet (fun _ _ _ => ⟨rfl, nofun⟩) ⟨rfl, fun _ same => by cases same; rfl⟩
  apply asked.andThen
  · intro e next ended
    rw [ended.1, ended.2 e rfl]
    exact fails
  · intro value next ended
    rw [ended.1]
    exact rest value

theorem replacing_ends (changed : Disk) {outcome : call.Reply → Option Unit}
    {post : Except StoreError PUnit → Disk → Prop}
    (changes : ∀ turn, (access turn disk call).2 = if turn.effective then changed else disk)
    (replies : ∀ turn, outcome (access turn disk call).1 = turn.reply)
    (succeeds : post (.ok ⟨⟩) changed) (untouched : post (.error (.io file)) disk)
    (fails : post (.error (.io file)) changed) :
    Program.Ends access post (replacing file call outcome) disk := by
  apply attempt_then (fun _ => rfl) untouched
  intro _
  apply Program.Ends.ask
  intro turn
  rw [changes turn, replies turn]
  cases turn with
  | done => exact succeeds
  | failed effective =>
      cases effective with
      | true => exact fails
      | false => exact untouched

theorem observe_then {f : call.Reply → Storing β} {post : Except StoreError β → Disk → Prop}
    (quiet : ∀ turn, (access turn disk call).2 = disk)
    (rest : ∀ turn, Program.Ends access post (f (access turn disk call).1) disk) :
    Program.Ends access post (observe call >>= f) disk := by
  have asked : Program.Ends access (fun outcome next => next = disk ∧
      ∃ turn, outcome = .ok (access turn disk call).1) (observe call) disk := by
    apply Program.Ends.ask
    intro turn
    exact ⟨quiet turn, turn, rfl⟩
  apply asked.andThen
  · rintro e next ⟨-, turn, wrong⟩
    cases wrong
  · rintro value next ⟨rfl, turn, same⟩
    cases same
    exact rest turn

theorem load_then {f : Environment → Storing β} {post : Except StoreError β → Disk → Prop}
    (fails : post (.error (.io .environment)) disk)
    (rest : Program.Ends access post (f disk.env) disk) :
    Program.Ends access post (load >>= f) disk := by
  have loaded : Program.Ends access (fun outcome next => next = disk ∧
      (outcome = .ok disk.env ∨ outcome = .error (.io .environment))) load disk := by
    apply attempt_quiet (fun _ => rfl)
    · intro turn value replied
      cases turn with
      | done => cases replied; exact ⟨rfl, .inl rfl⟩
      | failed effective => cases replied
    · exact ⟨rfl, .inr rfl⟩
  apply loaded.andThen
  · rintro e next ⟨rfl, same | same⟩
    · cases same
    · cases same
      exact fails
  · rintro value next ⟨rfl, same | same⟩
    · cases same
      exact rest
    · cases same

end Calls

theorem read_found {α : Type} {turn : Turn} {stored : Option α} {value : α}
    (found : (turn.reply.bind fun _ => stored) = some value) : stored = some value := by
  cases turn with
  | done => exact found
  | failed effective => cases found

/-- An error of a refresh: it names a file of a projection, or comes after a save. -/
def StoreError.ofRefresh : StoreError → Bool
  | committedAfterSave _ => true
  | io .runtimeConfig => true
  | io .messagingDir => true
  | io (.endpoint _) => true
  | io .messagingIndex => true
  | _ => false

theorem committed_ends {program : Storing PUnit} {disk : Disk}
    {post post' : Except StoreError PUnit → Disk → Prop}
    (ends : Program.Ends access post program disk)
    (succeeds : ∀ value next, post (.ok value) next → post' (.ok value) next)
    (fails : ∀ e next, post (.error e) next → post' (.error (.committedAfterSave e)) next) :
    Program.Ends access post' (committed program) disk :=
  ends.rescue post succeeds fun e next ended => .throw (fails e next ended)

/-- The file an environment projects to: none when no split routes a revision. -/
def runtimeConfigOf (env : Environment) : Option RuntimeConfig :=
  if (materializeRuntimeConfig env).revisions = [] then none
  else some (materializeRuntimeConfig env)

def ConfigRefreshed (env : Environment) (disk : Disk) (outcome : Except StoreError PUnit)
    (next : Disk) : Prop :=
  match outcome with
  | .ok _ => next = { disk with runtimeConfig := runtimeConfigOf env }
  | .error e => e.ofRefresh = true ∧ ∃ cfg, next = { disk with runtimeConfig := cfg }

theorem refreshRuntimeConfig_ends (env : Environment) (disk : Disk) :
    Program.Ends access (ConfigRefreshed env disk) (refreshRuntimeConfig env) disk := by
  unfold refreshRuntimeConfig
  dsimp only
  by_cases empty : (materializeRuntimeConfig env).revisions = []
  · rw [if_pos empty]
    have wanted : runtimeConfigOf env = none := if_pos empty
    apply observe_then (fun _ => rfl)
    intro turn
    by_cases present : disk.runtimeConfig.isSome = true
    · simp only [access, present, if_true]
      apply replacing_ends { disk with runtimeConfig := none }
        (fun _ => rfl) (fun _ => rfl)
      · simp only [ConfigRefreshed, wanted]
      · exact ⟨rfl, disk.runtimeConfig, rfl⟩
      · exact ⟨rfl, none, rfl⟩
    · simp only [access, present, Bool.false_eq_true, if_false]
      apply Program.Ends.pure
      have absent : disk.runtimeConfig = none := by simpa using present
      simp only [ConfigRefreshed, wanted, ← absent]
  · rw [if_neg empty]
    have wanted : runtimeConfigOf env = some (materializeRuntimeConfig env) := if_neg empty
    apply observe_then (fun _ => rfl)
    intro turn
    split
    · rename_i found
      have stored := read_found found
      apply Program.Ends.pure
      simp only [ConfigRefreshed, wanted, ← stored]
    · apply replacing_ends { disk with runtimeConfig := some (materializeRuntimeConfig env) }
        (fun _ => rfl) (fun _ => rfl)
      · simp only [ConfigRefreshed, wanted]
      · exact ⟨rfl, disk.runtimeConfig, rfl⟩
      · exact ⟨rfl, some (materializeRuntimeConfig env), rfl⟩

/-- One file per endpoint with its content, and an index unless there is none. -/
structure MessagingInStep (env : Environment) (disk : Disk) : Prop where
  files : ∀ id, disk.endpoints.lookup id = env.messagingEndpoints.find? fun e => e.endpointId = id
  index : disk.index =
    if env.messagingEndpoints = [] then none else some (materializeMessagingIndex env)

def endpointIds (env : Environment) : List MessagingEndpointId :=
  env.messagingEndpoints.map (·.endpointId)

def OnlyMessaging (disk next : Disk) : Prop :=
  next.env = disk.env ∧ next.runtimeConfig = disk.runtimeConfig

/-- A refresh of the messaging directory that failed somewhere. -/
def BrokenOff (disk : Disk) (e : StoreError) (next : Disk) : Prop :=
  OnlyMessaging disk next ∧ e.ofRefresh = true

def MessagingRefreshed (env : Environment) (disk : Disk) :
    Except StoreError PUnit → Disk → Prop :=
  Program.Either (fun next => OnlyMessaging disk next ∧ MessagingInStep env next) (BrokenOff disk)

/-- While files are written: those of the endpoints before are in place, and no
other than an endpoint's is new. -/
structure Writing (env : Environment) (disk : Disk) (todo : List MessagingEndpoint) (next : Disk) :
    Prop where
  only : OnlyMessaging disk next
  written : ∃ done, env.messagingEndpoints = done ++ todo ∧
    ∀ e ∈ done, next.endpoints.lookup e.endpointId = some e
  others : ∀ id ∈ next.endpoints, id ∈ endpointIds env ∨ id ∈ disk.endpoints

structure Pruning (env : Environment) (disk : Disk) (todo : List MessagingEndpointId)
    (next : Disk) : Prop where
  only : OnlyMessaging disk next
  written : ∀ e ∈ env.messagingEndpoints, next.endpoints.lookup e.endpointId = some e
  others : ∀ id ∈ next.endpoints, id ∈ endpointIds env ∨ id ∈ todo

variable {env : Environment} {disk next : Disk}

theorem Writing.put {endpoint : MessagingEndpoint} {rest : List MessagingEndpoint}
    (writing : Writing env disk (endpoint :: rest) next) (distinct : (endpointIds env).Nodup) :
    Writing env disk rest
      { next with endpoints := next.endpoints.insert endpoint.endpointId endpoint } := by
  obtain ⟨done, split, written⟩ := writing.written
  refine ⟨writing.only, ⟨done ++ [endpoint], by simp [split], ?_⟩, ?_⟩
  · intro e member
    rcases List.mem_append.mp member with old | new
    · have apart : e.endpointId ≠ endpoint.endpointId := by
        simp only [endpointIds, split, List.map_append, List.map_cons, List.nodup_append] at distinct
        exact distinct.2.2 _ (List.mem_map_of_mem old) _ List.mem_cons_self
      rw [AList.lookup_insert_ne apart]
      exact written e old
    · rw [List.mem_singleton.mp new, AList.lookup_insert]
  · intro id member
    rcases (AList.mem_insert _).mp member with rfl | old
    · exact .inl (List.mem_map_of_mem (by simp [split]))
    · exact writing.others id old

theorem Writing.skip {endpoint : MessagingEndpoint} {rest : List MessagingEndpoint}
    (writing : Writing env disk (endpoint :: rest) next)
    (stored : next.endpoints.lookup endpoint.endpointId = some endpoint) :
    Writing env disk rest next := by
  obtain ⟨done, split, written⟩ := writing.written
  refine ⟨writing.only, ⟨done ++ [endpoint], by simp [split], ?_⟩, writing.others⟩
  intro e member
  rcases List.mem_append.mp member with old | new
  · exact written e old
  · rw [List.mem_singleton.mp new]
    exact stored

theorem Writing.turn {endpoint : MessagingEndpoint} {rest : List MessagingEndpoint}
    (writing : Writing env disk (endpoint :: rest) next) (distinct : (endpointIds env).Nodup) :
    Program.Ends access (Program.Either (Writing env disk rest) (BrokenOff disk))
      (refreshEndpointFile endpoint) next := by
  apply observe_then (fun _ => rfl)
  intro turn
  split
  · rename_i found
    exact .pure (writing.skip (read_found found))
  · apply replacing_ends _ (fun _ => rfl) (fun _ => rfl)
    · exact writing.put distinct
    · exact ⟨writing.only, rfl⟩
    · exact ⟨writing.only, rfl⟩

theorem Pruning.turn {id : MessagingEndpointId} {rest : List MessagingEndpointId}
    (pruning : Pruning env disk (id :: rest) next) :
    Program.Ends access (Program.Either (Pruning env disk rest) (BrokenOff disk))
      (pruneEndpointFile env id) next := by
  unfold pruneEndpointFile
  split
  · rename_i kept
    refine .pure ⟨pruning.only, pruning.written, ?_⟩
    intro other member
    rcases pruning.others other member with inside | listed
    · exact .inl inside
    · rcases List.mem_cons.mp listed with rfl | later
      · exact .inl kept
      · exact .inr later
  · rename_i stale
    apply replacing_ends { next with endpoints := next.endpoints.erase id }
      (fun _ => rfl) (fun _ => rfl)
    · refine ⟨pruning.only, ?_, ?_⟩
      · intro e member
        have apart : e.endpointId ≠ id := by
          intro same
          exact stale (same ▸ List.mem_map_of_mem member)
        rw [AList.lookup_erase_ne apart]
        exact pruning.written e member
      · intro other member
        have kept := AList.mem_erase.mp member
        rcases pruning.others other kept.2 with inside | listed
        · exact .inl inside
        · exact .inr ((List.mem_cons.mp listed).resolve_left kept.1)
    · exact ⟨pruning.only, rfl⟩
    · exact ⟨pruning.only, rfl⟩

theorem Pruning.files (pruning : Pruning env disk [] next) (id : MessagingEndpointId) :
    next.endpoints.lookup id = env.messagingEndpoints.find? fun e => e.endpointId = id := by
  cases found : env.messagingEndpoints.find? fun e => e.endpointId = id with
  | some endpoint =>
      have named : endpoint.endpointId = id := by simpa using List.find?_some found
      rw [← named]
      exact pruning.written endpoint (List.mem_of_find?_eq_some found)
  | none =>
      rw [AList.lookup_eq_none]
      intro member
      rcases pruning.others id member with inside | listed
      · obtain ⟨endpoint, present, named⟩ := List.mem_map.mp inside
        have missed := List.find?_eq_none.mp found endpoint present
        exact missed (by simpa using named)
      · cases listed

theorem refreshMessagingIndex_ends (files : ∀ id, next.endpoints.lookup id =
      env.messagingEndpoints.find? fun e => e.endpointId = id) (only : OnlyMessaging disk next) :
    Program.Ends access (MessagingRefreshed env disk)
      (refreshMessagingIndex (materializeMessagingIndex env)) next := by
  unfold refreshMessagingIndex
  by_cases empty : env.messagingEndpoints = []
  · have wanted : materializeMessagingIndex env = [] := by simp [materializeMessagingIndex, empty]
    rw [if_pos wanted]
    apply observe_then (fun _ => rfl)
    intro turn
    by_cases present : next.index.isSome = true
    · simp only [access, present, if_true]
      apply replacing_ends { next with index := none } (fun _ => rfl) (fun _ => rfl)
      · exact ⟨only, files, by rw [if_pos empty]⟩
      · exact ⟨only, rfl⟩
      · exact ⟨only, rfl⟩
    · simp only [access, present, Bool.false_eq_true, if_false]
      have absent : next.index = none := by simpa using present
      exact .pure ⟨only, files, by rw [if_pos empty, absent]⟩
  · have wanted : materializeMessagingIndex env ≠ [] := by
      simpa [materializeMessagingIndex] using empty
    rw [if_neg wanted]
    apply observe_then (fun _ => rfl)
    intro turn
    split
    · rename_i found
      exact .pure ⟨only, files, by rw [if_neg empty, read_found found]⟩
    · apply replacing_ends { next with index := some (materializeMessagingIndex env) }
        (fun _ => rfl) (fun _ => rfl)
      · exact ⟨only, files, by rw [if_neg empty]⟩
      · exact ⟨only, rfl⟩
      · exact ⟨only, rfl⟩

theorem refreshMessagingProjection_ends (distinct : (endpointIds env).Nodup) (disk : Disk) :
    Program.Ends access (MessagingRefreshed env disk) (refreshMessagingProjection env) disk := by
  have listed : Program.Ends access (fun outcome next => next = disk ∧
      match outcome with
      | .ok listing => listing = disk.endpoints.keys
      | .error e => e.ofRefresh = true)
      (attempt .messagingDir .listEndpoints id) disk := by
    apply attempt_quiet (fun _ => rfl)
    · intro turn value replied
      cases turn with
      | done => cases replied; exact ⟨rfl, rfl⟩
      | failed effective => cases replied
    · exact ⟨rfl, rfl⟩
  apply listed.andThen
  · intro e next ended
    rw [ended.1]
    exact ⟨⟨rfl, rfl⟩, ended.2⟩
  intro listing next ended
  rw [ended.1, ended.2]
  have written : Program.Ends access (Program.Either (Writing env disk []) (BrokenOff disk))
      (env.messagingEndpoints.forM refreshEndpointFile) disk := by
    apply Program.Ends.forM
    · exact ⟨⟨rfl, rfl⟩, ⟨[], rfl, by simp⟩, fun id member => .inr member⟩
    · intro endpoint rest state writing
      exact writing.turn distinct
  apply written.andThen
  · exact fun e next failed => failed
  intro _ next writing
  have pruned : Program.Ends access (Program.Either (Pruning env disk []) (BrokenOff disk))
      (disk.endpoints.keys.forM (pruneEndpointFile env)) next := by
    apply Program.Ends.forM
    · obtain ⟨done, all, stored⟩ := writing.written
      rw [List.append_nil] at all
      exact ⟨writing.only, all ▸ stored, writing.others⟩
    · intro id rest state pruning
      exact pruning.turn
  apply pruned.andThen
  · exact fun e next failed => failed
  intro _ next pruning
  exact refreshMessagingIndex_ends pruning.files pruning.only

end GreenticDeployer.Local.Projections
