import MeesignServer.Main.Progress

/-! The service of `rpc.rs` over the `State` of `main.rs`. Every handler holds the lock on the state
    for one critical section, except `get_info`, which takes it twice: once to read the groups of the
    device and once to read its tasks, so that other handlers may run in between. The server runs
    the critical sections of the calls it has been given in any interleaving. No run stores a group,
    so the groups that `get_info` reads in its first section are those it would read in its second,
    and the service is linearizable: the calls that have completed have answered, in the order they
    completed, what they answer served one at a time; so no update is lost: once an `update_task`
    from each device of a task has completed, `get_task` answers `Waiting([])` for it, whatever ran
    in between. In every state that runs reach, `update_task` answers `OK` only once the task waits
    for no other device, and `get_task` with a device id answers only once the task waits for no
    device at all, so that the work it hands out never reaches a device the task still waits for. `get_info` lists a task
    only when none of its devices is outstanding, so where a task waits only for its outstanding
    devices, it never lists one. -/

namespace MeesignServer.Main

/-- Modelled from the spec: `Group::contains`, membership of a device among the members (§4.2). -/
def Group.contains (g : Group) (device : Bytes) : Bool :=
  g.devices.contains device

namespace State

/-- `get_device_groups`: the stored groups that contain the device, in iteration order. -/
def getDeviceGroups (s : State) (device : Bytes) : List Group :=
  s.groups.filter (·.contains device)

/-- `get_device_tasks`: the index, as a `u32`, and the status of each task that waits for the
    device; reading a status may panic. `waiting_for` is a method of the trait `crate::task::Task`,
    whose code is not in the source, and is taken as an argument. -/
def getDeviceTasks (waitingFor : Task → Bytes → Bool) (s : State) (device : Bytes) :
    Option (List (Nat × TaskStatus)) :=
  (s.tasks.enum.filter fun e => waitingFor e.2 device).mapM fun e =>
    e.2.getStatus.map fun status => (e.1 % 4294967296, status)

end State

/-! ### Messages -/

namespace Proto

/-- `proto::task::TaskState`. -/
inductive TaskState
  | waiting
  | finished
  | failed
deriving DecidableEq, Repr

/-- The message `proto::Task`. -/
structure Task where
  id : Nat
  state : TaskState
  data : List Bytes
  progress : Nat
  work : Option Bytes
deriving DecidableEq, Repr

/-- The message `proto::Group`. -/
structure Group where
  id : Bytes
  threshold : Nat
  deviceIds : List Bytes
deriving DecidableEq, Repr

/-- The message `proto::Info`. -/
structure Info where
  tasks : List Task
  groups : List Group
deriving DecidableEq, Repr

/-- The variant of the message `proto::Resp`. -/
inductive Resp
  | success (text : String)
  | failure (text : String)
deriving DecidableEq, Repr

end Proto

/-! ### Handlers -/

namespace MPCService

variable (waitingFor : Task → Bytes → Bool)

/-- `register`. -/
def register (s : State) (deviceId : Bytes) : Outcome State Proto.Resp :=
  ⟨s.addDevice deviceId, some (.success "OK")⟩

/-- `sign`. -/
def sign (s : State) (groupId data : Bytes) : Outcome State Proto.Resp :=
  ⟨(s.addSignTask groupId data).state, (s.addSignTask groupId data).value.map fun _ => .success "OK"⟩

/-- The match of `get_task` on the status: the state of the task and the data it answers. -/
def taskStateData : TaskStatus → Proto.TaskState × List Bytes
  | .waiting data => (.waiting, data)
  | .signed data => (.finished, [data])
  | .groupEstablished group => (.finished, [group.identifier])
  | .failed data => (.failed, [data])

/-- `get_task`: the status of the task and, for a named device, its work; it only reads. -/
def getTask (s : State) (taskId : Nat) (deviceId : Option Bytes) : Option Proto.Task :=
  (s.getTask taskId).bind fun status =>
    match deviceId with
    | none => some ⟨taskId, (taskStateData status).1, (taskStateData status).2, 0, none⟩
    | some device => (s.getWork taskId device).map fun work =>
      ⟨taskId, (taskStateData status).1, (taskStateData status).2, 0, work⟩

/-- `update_task`: the status that `State::update_task` returns is dropped. -/
def updateTask (s : State) (task : Nat) (device data : Bytes) : Outcome State Proto.Resp :=
  ⟨(s.updateTask task device data).state, (s.updateTask task device data).value.map fun _ => .success "OK"⟩

/-- The first critical section of `get_info`: the groups of the device as messages. -/
def infoGroups (s : State) (deviceId : Bytes) : List Proto.Group :=
  (s.getDeviceGroups deviceId).map fun group => ⟨group.identifier, group.threshold, group.devices⟩

/-- The match of `get_info` on the status of a listed task. -/
def taskState : TaskStatus → Proto.TaskState
  | .waiting _ => .waiting
  | .groupEstablished _ => .finished
  | .signed _ => .finished
  | .failed _ => .failed

/-- The second critical section of `get_info`: the tasks of the device as messages. -/
def infoTasks (s : State) (deviceId : Bytes) : Option (List Proto.Task) :=
  (s.getDeviceTasks waitingFor deviceId).map fun tasks =>
    tasks.map fun task => ⟨task.1, taskState task.2, [], 0, none⟩

/-- `get_info`, whose first critical section finds the state `first` and its second the state
    `second`. -/
def getInfo (first second : State) (deviceId : Bytes) : Option Proto.Info :=
  (infoTasks waitingFor second deviceId).map fun tasks => ⟨tasks, infoGroups first deviceId⟩

/-- `group`: the threshold defaults to the number of listed devices, as a `u32`. -/
def group (s : State) (deviceIds : List Bytes) (threshold : Option Nat) : Outcome State Proto.Resp :=
  let threshold := threshold.getD (deviceIds.length % 4294967296)
  ⟨(s.addGroupTask deviceIds threshold).state,
    (s.addGroupTask deviceIds threshold).value.map fun ok => if ok then .success "OK" else .failure "NOK"⟩

end MPCService

/-- In every state that runs reach, `update_task` answers `OK` exactly when the device is one of
    the task's and no other device is outstanding: for the update that completes the task and for
    every update after it. Every other call panics, including every update a device makes while
    another device is outstanding. -/
theorem update_task_ok_iff_last (s : State) (hs : Reachable s) (task : Nat) (device data : Bytes) :
    (MPCService.updateTask s task device data).value = s.tasks[task]?.bind fun t =>
      if device ∈ t.subtasks ∧ ∀ k ∈ waiting t.subtasks, k = device then some (.success "OK") else none := by
  show Option.map _ _ = _
  rw [State.updateTask_value_of_inv hs.inv]
  cases s.tasks[task]? with
  | none => rfl
  | some t => dsimp only [Option.bind]; split_ifs <;> rfl

/-- Devices `[1]` and `[2]` and a group task over both: the `update_task` of `[1]` panics,
    and the one of `[2]` after it answers `OK`. -/
theorem second_update_answers_ok :
    let s : State := (Op.addGroupTask [[1], [2]] 2).apply ((Op.addDevice [2]).apply ((Op.addDevice [1]).apply State.new))
    Reachable s ∧ (MPCService.updateTask s 0 [1] []).value = none ∧
      Reachable (MPCService.updateTask s 0 [1] []).state ∧
      (MPCService.updateTask (MPCService.updateTask s 0 [1] []).state 0 [2] []).value = some (.success "OK") := by
  intro s
  have hs : Reachable s := .step _ (.step _ (.step _ .new))
  have hs₁ : Reachable (MPCService.updateTask s 0 [1] []).state := .step (.updateTask 0 [1] []) hs
  exact ⟨hs, by rw [update_task_ok_iff_last s hs]; decide, hs₁, by rw [update_task_ok_iff_last _ hs₁]; decide⟩

/-- In every state that runs reach, `get_task` with a device id answers only for a task none of
    whose devices is outstanding, as `Waiting` with no data, and then hands the fixed payload to
    each device of the task and nothing to any other device: no device is handed work while the task
    waits for a device. -/
theorem get_task_work_only_when_done (s : State) (hs : Reachable s) (taskId : Nat) (device : Bytes) :
    MPCService.getTask s taskId (some device) = s.tasks[taskId]?.bind fun t =>
      if waiting t.subtasks = [] then
        some ⟨taskId, .waiting, [], 0, if device ∈ t.subtasks then some [1, 2, 3, 4] else none⟩
      else none := by
  cases ht : s.tasks[taskId]? with
  | none => simp [MPCService.getTask, State.getTask, ht]
  | some t =>
    obtain ⟨devices, threshold, g, rfl, hg⟩ := hs.inv.tasks t (List.getElem?_mem ht)
    by_cases hw : waiting g.subtasks = []
    · simp [MPCService.getTask, State.getTask_of_inv hs.inv, State.getWork, ht, hw, Task.subtasks, Task.getWork_eq,
        lookup_eq_true_of_waiting_eq_nil hw, Task.work, MPCService.taskStateData]
    · simp [MPCService.getTask, State.getTask_of_inv hs.inv, ht, hw, Task.subtasks]

/-- Devices `[1]` and `[2]`, a group task over both, and the update of `[1]`: `get_work`
    gives `[1]` the payload, but `get_task` panics for it; once `[2]` has updated too,
    `get_task` answers a device `[3]` outside the task with no work. -/
theorem get_task_panics_while_waiting :
    let s : State := (Op.updateTask 0 [1] []).apply ((Op.addGroupTask [[1], [2]] 2).apply
      ((Op.addDevice [2]).apply ((Op.addDevice [1]).apply State.new)))
    Reachable s ∧ s.getWork 0 [1] = some (some [1, 2, 3, 4]) ∧ MPCService.getTask s 0 (some [1]) = none ∧
      Reachable ((Op.updateTask 0 [2] []).apply s) ∧
      MPCService.getTask ((Op.updateTask 0 [2] []).apply s) 0 (some [3]) = some ⟨0, .waiting, [], 0, none⟩ := by
  intro s
  have hs : Reachable s := .step _ (.step _ (.step _ (.step _ .new)))
  have hs₁ : Reachable ((Op.updateTask 0 [2] []).apply s) := .step _ hs
  exact ⟨hs, by decide, by rw [get_task_work_only_when_done s hs]; decide, hs₁,
    by rw [get_task_work_only_when_done _ hs₁]; decide⟩

/-! ### Interleavings -/

/-- A call of a handler of `rpc.rs`, with the fields of its request. -/
inductive Request
  | register (deviceId : Bytes)
  | sign (groupId data : Bytes)
  | getTask (taskId : Nat) (deviceId : Option Bytes)
  | updateTask (task : Nat) (device data : Bytes)
  | getInfo (deviceId : Bytes)
  | group (deviceIds : List Bytes) (threshold : Option Nat)
deriving DecidableEq, Repr

/-- What a handler answers. -/
inductive Reply
  | resp (resp : Proto.Resp)
  | task (task : Proto.Task)
  | info (info : Proto.Info)
deriving DecidableEq, Repr

/-- A call in progress: not yet started, or `get_info` between its two critical sections, with the
    groups it read in the first. -/
inductive Pending
  | start (request : Request)
  | infoTasks (deviceId : Bytes) (groups : List Proto.Group)

/-- A completed call: its request, the state its last critical section found and the state it left,
    and its answer, `none` when it panicked. -/
structure Completion where
  request : Request
  before : State
  after : State
  reply : Option Reply

/-- The service: the state behind the lock, the calls in progress, and the completed calls in the
    order they completed. -/
structure Server where
  state : State
  pending : List Pending
  completed : List Completion

/-- What happens next: a client calls a handler, or the call in progress at index `i` takes the
    lock for its next critical section. -/
inductive Event
  | call (request : Request)
  | lock (i : Nat)

section
variable (waitingFor : Task → Bytes → Bool)

/-- A call served alone, with all its critical sections on one state: the state it leaves and its
    answer. -/
def Request.serve : Request → State → State × Option Reply
  | .register deviceId, s => ((MPCService.register s deviceId).state, (MPCService.register s deviceId).value.map .resp)
  | .sign groupId data, s => ((MPCService.sign s groupId data).state, (MPCService.sign s groupId data).value.map .resp)
  | .getTask taskId deviceId, s => (s, (MPCService.getTask s taskId deviceId).map .task)
  | .updateTask task device data, s =>
    ((MPCService.updateTask s task device data).state, (MPCService.updateTask s task device data).value.map .resp)
  | .getInfo deviceId, s => (s, (MPCService.getInfo waitingFor s s deviceId).map .info)
  | .group deviceIds threshold, s =>
    ((MPCService.group s deviceIds threshold).state, (MPCService.group s deviceIds threshold).value.map .resp)

/-- The request of a call in progress. -/
def Pending.request : Pending → Request
  | .start request => request
  | .infoTasks deviceId _ => .getInfo deviceId

/-- The next critical section of a call in progress on the state `s`: the state it leaves, and the
    call waiting for its next section or its answer. -/
def Pending.critical : Pending → State → State × (Pending ⊕ Option Reply)
  | .start (.getInfo deviceId), s => (s, .inl (.infoTasks deviceId (MPCService.infoGroups s deviceId)))
  | .start request, s => ((request.serve waitingFor s).1, .inr (request.serve waitingFor s).2)
  | .infoTasks deviceId groups, s =>
    (s, .inr ((MPCService.infoTasks waitingFor s deviceId).map fun tasks => .info ⟨tasks, groups⟩))

/-- `MPCService::new(State::new())`. -/
def Server.new : Server := ⟨State.new, [], []⟩

/-- One event of the service. -/
def Server.step (server : Server) : Event → Server
  | .call request => { server with pending := server.pending ++ [.start request] }
  | .lock i =>
    match server.pending[i]? with
    | none => server
    | some p =>
      match p.critical waitingFor server.state with
      | (s, .inl p') => { server with state := s, pending := server.pending.set i p' }
      | (s, .inr reply) => ⟨s, server.pending.eraseIdx i, server.completed ++ [⟨p.request, server.state, s, reply⟩]⟩

/-- The servers that interleavings of calls from `MPCService::new(State::new())` reach. -/
inductive Server.Reachable : Server → Prop
  | new : Server.Reachable Server.new
  | step {server : Server} (event : Event) : Server.Reachable server → Server.Reachable (server.step waitingFor event)

/-- The calls `requests` served one at a time from `s`, in order. -/
def serial : List Request → State → List Completion
  | [], _ => []
  | request :: requests, s =>
    ⟨request, s, (request.serve waitingFor s).1, (request.serve waitingFor s).2⟩ ::
      serial requests (request.serve waitingFor s).1

/-- The state that the calls `requests` leave, served one at a time from `s`. -/
def serveAll : List Request → State → State
  | [], s => s
  | request :: requests, s => serveAll requests (request.serve waitingFor s).1

/-- The calls of `main.rs` that a request makes, `group` with its default threshold. -/
def Request.ops : Request → List Op
  | .register deviceId => [.addDevice deviceId]
  | .sign groupId data => [.addSignTask groupId data]
  | .updateTask task device data => [.updateTask task device data]
  | .group deviceIds threshold => [.addGroupTask deviceIds (threshold.getD (deviceIds.length % 4294967296))]
  | .getTask _ _ | .getInfo _ => []

theorem Request.serve_eq_applyAll (s : State) :
    ∀ request : Request, (request.serve waitingFor s).1 = Op.applyAll request.ops s
  | .register _ | .sign _ _ | .getTask _ _ | .updateTask _ _ _ | .getInfo _ | .group _ _ => rfl

theorem serveAll_eq_applyAll : ∀ (requests : List Request) (s : State),
    serveAll waitingFor requests s = Op.applyAll (requests.flatMap Request.ops) s
  | [], _ => rfl
  | request :: requests, s => by
    rw [serveAll, serveAll_eq_applyAll requests, List.flatMap_cons, Op.applyAll_append, Request.serve_eq_applyAll]

theorem serial_append (requests : List Request) (request : Request) (s : State) :
    serial waitingFor (requests ++ [request]) s = serial waitingFor requests s ++
      [⟨request, serveAll waitingFor requests s, (request.serve waitingFor (serveAll waitingFor requests s)).1,
        (request.serve waitingFor (serveAll waitingFor requests s)).2⟩] := by
  induction requests generalizing s with
  | nil => rfl
  | cons r requests ih => simp [serial, serveAll, ih]

theorem serveAll_append (requests : List Request) (request : Request) (s : State) :
    serveAll waitingFor (requests ++ [request]) s = (request.serve waitingFor (serveAll waitingFor requests s)).1 := by
  induction requests generalizing s with
  | nil => rfl
  | cons r requests ih => exact ih _

/-- A call served alone keeps the state among those that runs of `main.rs` calls reach. -/
theorem Request.reachable_serve {s : State} (hs : Reachable s) : ∀ request : Request, Reachable (request.serve waitingFor s).1
  | .register deviceId => .step (.addDevice deviceId) hs
  | .sign groupId data => .step (.addSignTask groupId data) hs
  | .getTask _ _ => hs
  | .updateTask task device data => .step (.updateTask task device data) hs
  | .getInfo _ => hs
  | .group deviceIds threshold => .step (.addGroupTask deviceIds (threshold.getD (deviceIds.length % 4294967296))) hs

/-- No group is listed in a reachable state. -/
theorem infoGroups_of_reachable {s : State} (hs : Reachable s) (deviceId : Bytes) : MPCService.infoGroups s deviceId = [] := by
  simp [MPCService.infoGroups, State.getDeviceGroups, hs.groups_eq_nil]

/-- A critical section that does not complete its call is the first one of `get_info`, which reads
    the groups and changes nothing. -/
theorem Pending.critical_inl {p p' : Pending} {s s' : State} (h : p.critical waitingFor s = (s', .inl p')) :
    s' = s ∧ ∃ deviceId, p = .start (.getInfo deviceId) ∧ p' = .infoTasks deviceId (MPCService.infoGroups s deviceId) := by
  rcases p with ((_ | _ | _ | _ | deviceId | _) | _) <;> simp [critical] at h
  obtain ⟨rfl, rfl⟩ := h
  exact ⟨rfl, deviceId, rfl, rfl⟩

/-- A critical section that completes its call answers, and leaves the state, as the call served
    alone on the state it finds, provided a `get_info` read in its first section the groups it would
    read now. -/
theorem Pending.critical_inr {p : Pending} {s s' : State} {reply : Option Reply}
    (hgroups : ∀ deviceId groups, p = .infoTasks deviceId groups → groups = MPCService.infoGroups s deviceId)
    (h : p.critical waitingFor s = (s', .inr reply)) : (s', reply) = p.request.serve waitingFor s := by
  rcases p with ((_ | _ | _ | _ | _ | _) | ⟨deviceId, groups⟩) <;> simp [critical] at h <;>
    obtain ⟨rfl, rfl⟩ := h
  case infoTasks =>
    rw [hgroups deviceId groups rfl]
    simp [Pending.request, Request.serve, MPCService.getInfo, Option.map_map, Function.comp_def]
  all_goals rfl

/-- What holds of every reachable server: the completed calls answered, and the state is what they
    leave, as if served one at a time in the order they completed; the state is one that runs of
    `main.rs` calls reach; and a `get_info` between its sections has read no group. -/
structure Server.Inv (server : Server) : Prop where
  completed : server.completed = serial waitingFor (server.completed.map (·.request)) State.new
  state : server.state = serveAll waitingFor (server.completed.map (·.request)) State.new
  reachable : Main.Reachable server.state
  pending : ∀ deviceId groups, Pending.infoTasks deviceId groups ∈ server.pending → groups = []

theorem Server.Inv.step {server : Server} (h : server.Inv waitingFor) : ∀ event, (server.step waitingFor event).Inv waitingFor
  | .call request => ⟨h.completed, h.state, h.reachable, fun deviceId groups hmem =>
      h.pending deviceId groups ((List.mem_append.mp hmem).resolve_right (by simp))⟩
  | .lock i => by
    cases hp : server.pending[i]? with
    | none => simpa [Server.step, hp] using h
    | some p =>
      rcases hc : p.critical waitingFor server.state with ⟨s', _ | reply⟩ <;> simp only [Server.step, hp, hc]
      · obtain ⟨rfl, deviceId, -, rfl⟩ := Pending.critical_inl waitingFor hc
        refine ⟨h.completed, h.state, h.reachable, fun d groups hmem => ?_⟩
        rcases List.mem_or_eq_of_mem_set hmem with hmem | heq
        · exact h.pending d groups hmem
        · cases heq
          exact infoGroups_of_reachable h.reachable deviceId
      · have hserve := Pending.critical_inr waitingFor (fun deviceId groups hp' => by
          rw [h.pending deviceId groups (hp' ▸ List.getElem?_mem hp), infoGroups_of_reachable h.reachable]) hc
        have hs' : s' = (p.request.serve waitingFor server.state).1 := congrArg Prod.fst hserve
        have hreply : reply = (p.request.serve waitingFor server.state).2 := congrArg Prod.snd hserve
        refine ⟨?_, ?_, ?_, fun d groups hmem => h.pending d groups (List.mem_of_mem_eraseIdx hmem)⟩
        · simp only [List.map_append, List.map_cons, List.map_nil, serial_append, ← h.state, ← h.completed, hs', hreply]
        · simp only [List.map_append, List.map_cons, List.map_nil, serveAll_append, ← h.state, hs']
        · exact hs' ▸ Request.reachable_serve waitingFor h.reachable p.request

theorem Server.reachable_foldl : ∀ (events : List Event) {server : Server}, server.Reachable waitingFor →
    (events.foldl (Server.step waitingFor) server).Reachable waitingFor
  | [], _, h => h
  | event :: events, _, h => Server.reachable_foldl events (.step event h)

theorem Server.Reachable.inv {server : Server} (h : server.Reachable waitingFor) : server.Inv waitingFor := by
  induction h with
  | new => exact ⟨rfl, rfl, .new, fun _ _ h => by cases h⟩
  | step event _ ih => exact ih.step waitingFor event

/-- Whatever `waiting_for` the tasks have, in every interleaving of the critical sections of the
    calls made to the service from `MPCService::new(State::new())`, the completed calls have
    answered, and have left the state, as the same calls served one at a time in the order they
    completed, each holding the lock alone from its first section to its last; `get_info`, which
    takes the lock twice, included. -/
theorem service_linearizable (server : Server) (h : server.Reachable waitingFor) :
    server.completed = serial waitingFor (server.completed.map (·.request)) State.new ∧
      server.state = serveAll waitingFor (server.completed.map (·.request)) State.new :=
  ⟨(Server.Reachable.inv waitingFor h).completed, (Server.Reachable.inv waitingFor h).state⟩

/-- In every interleaving of the calls made to the service from `MPCService::new(State::new())`,
    once the completed calls include, after those that created a task, an `update_task` on it
    from each of its devices, whatever calls ran between and around their critical sections,
    `get_task` on the task answers `Waiting([])`: no update is lost. -/
theorem completed_updates_complete_task (server : Server) (h : server.Reachable waitingFor)
    (pre post : List Completion) (hsplit : server.completed = pre ++ post) (i : Nat) (t : Task)
    (ht : (serveAll waitingFor (pre.map (·.request)) State.new).tasks[i]? = some t)
    (hupdates : ∀ d ∈ t.subtasks, ∃ data, Request.updateTask i d data ∈ post.map (·.request)) :
    (Request.getTask i none).serve waitingFor server.state = (server.state, some (.task ⟨i, .waiting, [], 0, none⟩)) := by
  have hinv := Server.Reachable.inv waitingFor h
  have hstate : server.state = Op.applyAll ((post.map (·.request)).flatMap Request.ops)
      (serveAll waitingFor (pre.map (·.request)) State.new) := by
    rw [hinv.state, hsplit, List.map_append, serveAll_eq_applyAll, serveAll_eq_applyAll, List.flatMap_append,
      Op.applyAll_append]
  have hops : ∀ d ∈ t.subtasks, ∃ data, Op.updateTask i d data ∈ (post.map (·.request)).flatMap Request.ops :=
    fun d hd => (hupdates d hd).imp fun data hmem => List.mem_flatMap.mpr ⟨_, hmem, List.mem_singleton_self _⟩
  obtain ⟨t', ht', hw⟩ := Op.waiting_applyAll_eq_nil ht _ hops
  have hreach := hinv.reachable
  rw [hstate] at hreach ⊢
  simp [Request.serve, MPCService.getTask, State.getTask_of_inv hreach.inv, ht', hw, MPCService.taskStateData]

end

/-- `get_info` of device `[1]` takes the lock; `register`, `group` and `update_task` of `[1]` run to
    completion; then `get_info` takes the lock again and lists the task created in between. The
    completions are those of the four calls served one at a time, `get_info` last. -/
theorem get_info_straddles_group_task :
    let waitingFor : Task → Bytes → Bool := fun t d => d ∈ t.subtasks
    let server := [.call (.getInfo [1]), .lock 0, .call (.register [1]), .lock 1, .call (.group [[1]] none), .lock 1,
      .call (.updateTask 0 [1] []), .lock 1, .lock 0].foldl (Server.step waitingFor) Server.new
    Server.Reachable waitingFor server ∧
      server.completed.map (·.request) = [.register [1], .group [[1]] none, .updateTask 0 [1] [], .getInfo [1]] ∧
      (server.completed.getLast?.bind (·.reply)) = some (.info ⟨[⟨0, .waiting, [], 0, none⟩], []⟩) ∧
      server.completed = serial waitingFor (server.completed.map (·.request)) State.new ∧
      server.state = serveAll waitingFor (server.completed.map (·.request)) State.new := by
  intro waitingFor server
  have h : Server.Reachable waitingFor server := Server.reachable_foldl waitingFor _ .new
  exact ⟨h, by decide, by decide, service_linearizable waitingFor server h⟩

/-- Devices `[1]` and `[2]` register and a group task over both is created; then `get_info`
    of `[1]` takes the lock, and the `update_task` of `[2]` and then of `[1]` run before it
    takes the lock again: `get_task` answers `Waiting([])`. -/
theorem updates_between_get_info_sections :
    let waitingFor : Task → Bytes → Bool := fun t d => d ∈ t.subtasks
    let server := [.call (.register [1]), .lock 0, .call (.register [2]), .lock 0, .call (.group [[1], [2]] none),
      .lock 0, .call (.getInfo [1]), .lock 0, .call (.updateTask 0 [2] []), .lock 1, .call (.updateTask 0 [1] []),
      .lock 1, .lock 0].foldl (Server.step waitingFor) Server.new
    let t : Task := .group ⟨newSubtasks [[1], [2]], 2, none⟩
    Server.Reachable waitingFor server ∧ server.completed = server.completed.take 3 ++ server.completed.drop 3 ∧
      (serveAll waitingFor ((server.completed.take 3).map (·.request)) State.new).tasks[0]? = some t ∧
      (∀ d ∈ t.subtasks, ∃ data, Request.updateTask 0 d data ∈ (server.completed.drop 3).map (·.request)) ∧
      (Request.getTask 0 none).serve waitingFor server.state = (server.state, some (.task ⟨0, .waiting, [], 0, none⟩)) := by
  intro waitingFor server t
  have h : Server.Reachable waitingFor server := Server.reachable_foldl waitingFor _ .new
  have hpre : (server.completed.take 3).map (·.request) = [.register [1], .register [2], .group [[1], [2]] none] := by
    decide
  have hpost : (server.completed.drop 3).map (·.request) = [.updateTask 0 [2] [], .updateTask 0 [1] [], .getInfo [1]] := by
    decide
  have ht : (serveAll waitingFor ((server.completed.take 3).map (·.request)) State.new).tasks[0]? = some t := by
    rw [hpre]
    rfl
  have hupdates : ∀ d ∈ t.subtasks, ∃ data, Request.updateTask 0 d data ∈ (server.completed.drop 3).map (·.request) :=
    fun d hd => by
      rw [hpost]
      rcases List.mem_pair.mp (mem_newSubtasks.mp hd) with rfl | rfl <;> exact ⟨[], by simp⟩
  have hsplit := (List.take_append_drop 3 server.completed).symm
  exact ⟨h, hsplit, ht, hupdates, completed_updates_complete_task waitingFor server h _ _ hsplit 0 t ht hupdates⟩

/-! ### `get_info` in the states that runs reach -/

/-- The statuses that `get_device_tasks` reads from tasks that report as reachable group tasks do:
    it panics on a task with an outstanding device and lists every other as `Waiting([])`. -/
theorem mapM_getStatus_of_waiting :
    ∀ {l : List (Nat × Task)}, (∀ e ∈ l, e.2.getStatus = if waiting e.2.subtasks = [] then some (.waiting []) else none) →
      l.mapM (fun e => e.2.getStatus.map fun status => (e.1 % 4294967296, status)) =
        if ∀ e ∈ l, waiting e.2.subtasks = [] then some (l.map fun e => (e.1 % 4294967296, .waiting [])) else none
  | [], _ => rfl
  | e :: l, h => by
    rw [List.mapM_cons, h e (List.mem_cons_self e l), mapM_getStatus_of_waiting fun e' he' => h e' (List.mem_cons_of_mem e he')]
    have hall : (∀ e' ∈ e :: l, waiting e'.2.subtasks = []) ↔ waiting e.2.subtasks = [] ∧ ∀ e ∈ l, waiting e.2.subtasks = [] :=
      List.forall_mem_cons
    by_cases he : waiting e.2.subtasks = []
    · by_cases hl : ∀ e ∈ l, waiting e.2.subtasks = []
      · rw [if_pos he, if_pos hl, if_pos (hall.mpr ⟨he, hl⟩)]
        rfl
      · rw [if_pos he, if_neg hl, if_neg fun h' => hl (hall.mp h').2]
        rfl
    · rw [if_neg he, if_neg fun h' => he (hall.mp h').1]
      rfl

/-- In a state with the invariant, `get_device_tasks` panics when a task that `waiting_for`
    selects still has an outstanding device, and otherwise lists the selected tasks as `Waiting([])`. -/
theorem State.getDeviceTasks_of_inv (waitingFor : Task → Bytes → Bool) {s : State} (h : Inv s) (device : Bytes) :
    s.getDeviceTasks waitingFor device =
      if ∀ t ∈ s.tasks, waitingFor t device = true → waiting t.subtasks = [] then
        some ((s.tasks.enum.filter fun e => waitingFor e.2 device).map fun e => (e.1 % 4294967296, .waiting []))
      else none := by
  have hstatus : ∀ e ∈ s.tasks.enum.filter (fun e => waitingFor e.2 device),
      e.2.getStatus = if waiting e.2.subtasks = [] then some (.waiting []) else none := fun e he => by
    obtain ⟨devices, threshold, g, he2, hg⟩ := h.tasks e.2 (List.snd_mem_of_mem_enum (List.mem_filter.mp he).1)
    rw [he2]
    exact GroupTask.getStatus_of_inv hg.inv
  have hiff : (∀ e ∈ s.tasks.enum.filter (fun e => waitingFor e.2 device), waiting e.2.subtasks = []) ↔
      ∀ t ∈ s.tasks, waitingFor t device = true → waiting t.subtasks = [] := by
    constructor
    · intro hl t ht hw
      obtain ⟨e, he, rfl⟩ := List.mem_map.mp ((List.enum_map_snd s.tasks).symm ▸ ht)
      exact hl e (List.mem_filter.mpr ⟨he, hw⟩)
    · intro ht e he
      obtain ⟨he, hw⟩ := List.mem_filter.mp he
      exact ht e.2 (List.snd_mem_of_mem_enum he) hw
  rw [State.getDeviceTasks, mapM_getStatus_of_waiting hstatus]
  by_cases hq : ∀ t ∈ s.tasks, waitingFor t device = true → waiting t.subtasks = []
  · rw [if_pos (hiff.mpr hq), if_pos hq]
  · rw [if_neg (mt hiff.mp hq), if_neg hq]

/-- In every state that runs reach, `get_info` answers no groups and lists the tasks that
    `waiting_for` selects for the device, each as `Waiting` under its index as a `u32`,
    unless one of them still has an outstanding device, in which case it panics. When a task waits
    for a device only while that device is outstanding, `get_info` therefore never lists a task:
    it panics as soon as one task waits for the device, and otherwise answers no tasks and no
    groups. -/
theorem get_info_lists_no_task (waitingFor : Task → Bytes → Bool) (s : State) (hs : Reachable s) (deviceId : Bytes) :
    MPCService.getInfo waitingFor s s deviceId =
      (if ∀ t ∈ s.tasks, waitingFor t deviceId = true → waiting t.subtasks = [] then
        some ⟨(s.tasks.enum.filter fun e => waitingFor e.2 deviceId).map fun e =>
          ⟨e.1 % 4294967296, .waiting, [], 0, none⟩, []⟩
      else none) ∧
    ((∀ t d, waitingFor t d = true → d ∈ waiting t.subtasks) →
      MPCService.getInfo waitingFor s s deviceId =
        if ∃ t ∈ s.tasks, waitingFor t deviceId = true then none else some ⟨[], []⟩) := by
  have hinfo : MPCService.getInfo waitingFor s s deviceId =
      if ∀ t ∈ s.tasks, waitingFor t deviceId = true → waiting t.subtasks = [] then
        some ⟨(s.tasks.enum.filter fun e => waitingFor e.2 deviceId).map fun e =>
          ⟨e.1 % 4294967296, .waiting, [], 0, none⟩, []⟩
      else none := by
    rw [MPCService.getInfo, infoGroups_of_reachable hs, MPCService.infoTasks, State.getDeviceTasks_of_inv waitingFor hs.inv]
    split_ifs <;> simp [MPCService.taskState]
  refine ⟨hinfo, fun hwf => ?_⟩
  rw [hinfo]
  by_cases hex : ∃ t ∈ s.tasks, waitingFor t deviceId = true
  · obtain ⟨t, ht, hw⟩ := hex
    rw [if_neg fun h => List.ne_nil_of_mem (hwf t deviceId hw) (h t ht hw), if_pos ⟨t, ht, hw⟩]
  · rw [if_pos fun t ht hw => absurd ⟨t, ht, hw⟩ hex, if_neg hex,
      List.filter_eq_nil_iff.mpr fun e he hw => hex ⟨e.2, List.snd_mem_of_mem_enum he, hw⟩]
    rfl

/-- Devices `[1]` and `[2]` and a group task over both that `[1]` has updated, with tasks
    waiting for their outstanding devices: `get_info` panics for `[2]` and answers nothing at all
    to `[1]`. -/
theorem get_info_panics_for_outstanding_device :
    let waitingFor : Task → Bytes → Bool := fun t d => d ∈ waiting t.subtasks
    let s : State := (Op.updateTask 0 [1] []).apply ((Op.addGroupTask [[1], [2]] 2).apply
      ((Op.addDevice [2]).apply ((Op.addDevice [1]).apply State.new)))
    Reachable s ∧ (∀ t d, waitingFor t d = true → d ∈ waiting t.subtasks) ∧
      MPCService.getInfo waitingFor s s [2] = none ∧ MPCService.getInfo waitingFor s s [1] = some ⟨[], []⟩ := by
  intro waitingFor s
  have hs : Reachable s := .step _ (.step _ (.step _ (.step _ .new)))
  have hwf : ∀ t d, waitingFor t d = true → d ∈ waiting t.subtasks := fun t d h => of_decide_eq_true h
  exact ⟨hs, hwf, by rw [(get_info_lists_no_task waitingFor s hs [2]).2 hwf]; decide,
    by rw [(get_info_lists_no_task waitingFor s hs [1]).2 hwf]; decide⟩

end MeesignServer.Main
