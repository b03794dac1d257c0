import MeesignServer.State.Step
import MeesignServer.State.SpecTask

/-! The device registry. `add_device` registers an identifier once, under a checked name, and no call
    removes or replaces a registered device. With the laws of the tasks, every device that a task or
    a group of a reachable state names is registered, as the same record and under its own
    identifier: a group task is made of looked-up devices, a signing task of the devices of a stored
    group, and a group of devices of the task that established it. -/

namespace MeesignServer

variable {T : Type}

namespace State

/-- `add_device` answers `true` exactly for a valid name and a new identifier; it then adds that one
    device and leaves everything else, and otherwise leaves the state as it was. -/
theorem addDevice_spec (s : State T) (identifier : Bytes) (name : String) :
    ((s.addDevice identifier name).2 = true ↔ invalidName name = false ∧ identifier ∉ s.devices) ∧
      ((s.addDevice identifier name).2 = true →
        (s.addDevice identifier name).1.devices.entries = ⟨identifier, ⟨identifier, name⟩⟩ :: s.devices.entries ∧
        (s.addDevice identifier name).1 = { s with devices := (s.addDevice identifier name).1.devices }) ∧
      ((s.addDevice identifier name).2 = false → (s.addDevice identifier name).1 = s) := by
  unfold addDevice
  split_ifs with hname hmem
  · simp [hname]
  · simp [hmem]
  · exact ⟨by simp [hname, hmem], fun _ => ⟨AList.insert_entries_of_neg hmem, rfl⟩, by simp⟩

end State

/-! ### No device is removed or replaced -/

section
variable [Task T]

theorem Effect.lookup_devices {s : State T} {op : Op} {c : Map Bytes Device × Map Bytes Group × Map Uuid T}
    (h : Effect s op c) {identifier : Bytes} {d : Device} (hd : s.devices.lookup identifier = some d) :
    c.1.lookup identifier = some d := by
  cases h with
  | register _ hnew => exact lookup_insert_of_not_mem hnew hd
  | _ => exact hd

/-- Every call keeps every registered device under its identifier. -/
theorem lookup_devices_exec (op : Op) (s : State T) (net : Net) {identifier : Bytes} {d : Device}
    (hd : s.devices.lookup identifier = some d) : (op.exec s net).state.1.devices.lookup identifier = some d :=
  (effect op s net).lookup_devices hd

theorem Runs.lookup_devices {s s' : State T} (h : Runs s s') {identifier : Bytes} {d : Device}
    (hd : s.devices.lookup identifier = some d) : s'.devices.lookup identifier = some d := by
  induction h with
  | refl => exact hd
  | step op net _ _ ih => exact lookup_devices_exec op _ net ih

/-! ### The devices of tasks and groups are registered -/

/-- Every registered device sits under its own identifier, and the devices of every task and of
    every group are registered. -/
structure Registered (devices : Map Bytes Device) (groups : Map Bytes Group) (tasks : Map Uuid T) : Prop where
  keys : ∀ {identifier : Bytes} {d : Device}, devices.lookup identifier = some d → d.identifier = identifier
  task_devices : ∀ {taskId : Uuid} {task : T}, tasks.lookup taskId = some task →
    ∀ d ∈ Task.getDevices task, devices.lookup d.identifier = some d
  group_devices : ∀ {identifier : Bytes} {g : Group}, groups.lookup identifier = some g →
    ∀ d ∈ g.devices, devices.lookup d.identifier = some d

namespace Registered

variable {devices : Map Bytes Device} {groups : Map Bytes Group} {tasks : Map Uuid T}

theorem empty : Registered (∅ : Map Bytes Device) (∅ : Map Bytes Group) (∅ : Map Uuid T) where
  keys h := by simp at h
  task_devices h := by simp at h
  group_devices h := by simp at h

theorem register (hr : Registered devices groups tasks) {identifier : Bytes} {name : String}
    (hnew : identifier ∉ devices) : Registered (devices.insert identifier ⟨identifier, name⟩) groups tasks where
  keys h := by
    rcases lookup_insert_eq_some.mp h with ⟨rfl, rfl⟩ | ⟨-, h⟩
    · rfl
    · exact hr.keys h
  task_devices ht d hd := lookup_insert_of_not_mem hnew (hr.task_devices ht d hd)
  group_devices hg d hd := lookup_insert_of_not_mem hnew (hr.group_devices hg d hd)

theorem insert_task (hr : Registered devices groups tasks) {task : T}
    (h : ∀ d ∈ Task.getDevices task, devices.lookup d.identifier = some d) (taskId : Uuid) :
    Registered devices groups (tasks.insert taskId task) where
  keys := hr.keys
  task_devices ht := by
    rcases lookup_insert_eq_some.mp ht with ⟨-, rfl⟩ | ⟨-, ht⟩
    · exact h
    · exact hr.task_devices ht
  group_devices := hr.group_devices

theorem insert_group (hr : Registered devices groups tasks) {g : Group}
    (h : ∀ d ∈ g.devices, devices.lookup d.identifier = some d) (identifier : Bytes) :
    Registered devices (groups.insert identifier g) tasks where
  keys := hr.keys
  task_devices := hr.task_devices
  group_devices hg := by
    rcases lookup_insert_eq_some.mp hg with ⟨-, rfl⟩ | ⟨-, hg⟩
    · exact h
    · exact hr.group_devices hg

/-- A task replaced by one that continues it keeps its devices. -/
theorem replace_task (hr : Registered devices groups tasks) {taskId : Uuid} {task task' : T}
    (ht : tasks.lookup taskId = some task) (hf : Task.Follows task task') :
    Registered devices groups (tasks.insert taskId task') :=
  hr.insert_task (by rw [hf.devices]; exact hr.task_devices ht) taskId

/-- The devices that `add_group_task` looks up are registered. -/
theorem looked_up (hr : Registered devices groups tasks) {ids : List Bytes} {deviceList : List Device}
    (h : ids.mapM devices.lookup = some deviceList) : ∀ d ∈ deviceList, devices.lookup d.identifier = some d := by
  intro d hd
  obtain ⟨identifier, -, hid⟩ := mem_of_mapM_eq_some h d hd
  rwa [hr.keys hid]

end Registered

variable [LawfulTask T]

/-- One call keeps the devices of tasks and groups registered. -/
theorem Effect.registered {s : State T} {op : Op} {c : Map Bytes Device × Map Bytes Group × Map Uuid T}
    (h : Effect s op c) (hr : Registered s.devices s.groups s.tasks) : Registered c.1 c.2.1 c.2.2 := by
  cases h with
  | keep => exact hr
  | register _ hnew => exact hr.register hnew
  | createGroup hlist htask =>
    exact hr.insert_task (by rw [LawfulTask.getDevices_newGroupTask htask]; exact hr.looked_up hlist) _
  | createSign hg => exact hr.insert_task (by rw [LawfulTask.getDevices_newSignPDFTask]; exact hr.group_devices hg) _
  | update ht => exact hr.replace_task ht (LawfulTask.follows_update _ _ _)
  | @establish _ device data task _ ht _ _ hres =>
    have hf := LawfulTask.follows_update task device data
    refine (hr.insert_group (fun d hd => ?_) _).replace_task ht hf
    exact hr.task_devices ht d (hf.devices ▸ LawfulTask.result_devices hres d hd)
  | decide ht => exact hr.replace_task ht (LawfulTask.follows_decide _ _ _)
  | acknowledge ht => exact hr.replace_task ht (LawfulTask.follows_acknowledge _ _)
  | restart ht => exact hr.replace_task ht (LawfulTask.follows_restart _)

theorem Runs.registered {s s' : State T} (h : Runs s s') (hr : Registered s.devices s.groups s.tasks) :
    Registered s'.devices s'.groups s'.tasks := by
  induction h with
  | refl => exact hr
  | @step s' op net _ _ ih => exact (effect op s' net).registered ih

/-- `add_device` registers a new identifier with a valid name and nothing else; no call, and so no
    run, removes or replaces a registered device; and in every reachable state the devices of every
    task and group are registered. -/
theorem devices_registered_for_good :
    (∀ (s : State T) (identifier : Bytes) (name : String),
      ((s.addDevice identifier name).2 = true ↔ State.invalidName name = false ∧ identifier ∉ s.devices) ∧
      ((s.addDevice identifier name).2 = true →
        (s.addDevice identifier name).1.devices.entries = ⟨identifier, ⟨identifier, name⟩⟩ :: s.devices.entries ∧
        (s.addDevice identifier name).1 = { s with devices := (s.addDevice identifier name).1.devices }) ∧
      ((s.addDevice identifier name).2 = false → (s.addDevice identifier name).1 = s)) ∧
    (∀ (op : Op) (s : State T) (net : Net) (identifier : Bytes) (d : Device),
      s.devices.lookup identifier = some d → (op.exec s net).state.1.devices.lookup identifier = some d) ∧
    (∀ (s s' : State T), Runs s s' → ∀ (identifier : Bytes) (d : Device),
      s.devices.lookup identifier = some d → s'.devices.lookup identifier = some d) ∧
    (∀ s : State T, Reachable s → Registered s.devices s.groups s.tasks) :=
  ⟨State.addDevice_spec, fun op s net _ _ hd => lookup_devices_exec op s net hd,
    fun _ _ hrun _ _ hd => hrun.lookup_devices hd, fun _ hs => hs.registered Registered.empty⟩

/-- A device registered and then named by a group task: it stays registered when it is registered
    again and through a run that registers it again and completes the task, and the reachable
    state has the devices of its tasks and groups registered. -/
theorem devices_registered_after_group_task :
    let net : Net := fun _ => .closed
    let s : State SpecTask := execAll net [.addDevice [1] "a", .addGroupTask "g" [[1]] 1 .gg18 ⟨0⟩ ⟨0⟩] State.new
    let s' : State SpecTask := execAll net [.addDevice [1] "b", .updateTask ⟨0⟩ [1] []] s
    Reachable s ∧ Registered s.devices s.groups s.tasks ∧ s.devices.lookup [1] = some ⟨[1], "a"⟩ ∧
      ((Op.addDevice [1] "b").exec s net).state.1.devices.lookup [1] = some ⟨[1], "a"⟩ ∧
      Runs s s' ∧ s'.devices.lookup [1] = some ⟨[1], "a"⟩ := by
  intro net s s'
  have hs : Reachable s := runs_execAll _ _ _ (by decide)
  have hd : s.devices.lookup [1] = some ⟨[1], "a"⟩ := by decide
  have hrun : Runs s s' := runs_execAll _ _ _ (by decide)
  exact ⟨hs, (@devices_registered_for_good SpecTask _ _).2.2.2 s hs, hd,
    (@devices_registered_for_good SpecTask _ _).2.1 _ s _ _ _ hd, hrun,
    (@devices_registered_for_good SpecTask _ _).2.2.1 s s' hrun _ _ hd⟩

end

end MeesignServer
