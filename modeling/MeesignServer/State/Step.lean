import MeesignServer.State.Run

/-! What one call does to the devices, groups and tasks, said once. `Effect s op c` lists every
    change a call can make: register a new device, add a task under the drawn identifier, replace a
    task by what one of its methods returns, and, in an `update_task` that turns a task `Finished`
    with a group as result, store that group. `effect` shows that every call, returning or
    panicking, with the channels in any condition, makes one of them. -/

namespace MeesignServer

variable {T : Type} [Task T]

/-- What one call `op` may do to the devices, groups and tasks of `s`, leaving them as `c`. -/
inductive Effect (s : State T) : Op → Map Bytes Device × Map Bytes Group × Map Uuid T → Prop
  | keep {op : Op} : Effect s op s.core
  | register {identifier : Bytes} {name : String} :
      State.invalidName name = false → identifier ∉ s.devices →
      Effect s (.addDevice identifier name)
        (s.devices.insert identifier ⟨identifier, name⟩, s.groups, s.tasks)
  | createGroup {name : String} {devices : List Bytes} {threshold : Nat} {protocol : ProtocolType}
      {keyType : KeyType} {uuid : Uuid} {deviceList : List Device} {task : T} :
      devices.mapM s.devices.lookup = some deviceList → Task.newGroupTask name deviceList threshold = some task →
      Effect s (.addGroupTask name devices threshold protocol keyType uuid) (s.devices, s.groups, s.tasks.insert uuid task)
  | createSign {group : Bytes} {name : String} {data : Bytes} {uuid : Uuid} {g : Group} :
      s.groups.lookup group = some g →
      Effect s (.addSignTask group name data uuid)
        (s.devices, s.groups, s.tasks.insert uuid (Task.newSignPDFTask g name data))
  | update {taskId : Uuid} {device data : Bytes} {task : T} :
      s.tasks.lookup taskId = some task →
      Effect s (.updateTask taskId device data) (s.devices, s.groups, s.tasks.insert taskId (Task.update task device data).1)
  | establish {taskId : Uuid} {device data : Bytes} {task : T} {g : Group} :
      s.tasks.lookup taskId = some task → Task.getStatus task ≠ .finished →
      Task.getStatus (Task.update task device data).1 = .finished →
      Task.getResult (Task.update task device data).1 = some (.groupEstablished g) →
      Effect s (.updateTask taskId device data)
        (s.devices, s.groups.insert g.identifier g, s.tasks.insert taskId (Task.update task device data).1)
  | decide {taskId : Uuid} {device : Bytes} {decision : Bool} {task : T} :
      s.tasks.lookup taskId = some task →
      Effect s (.decideTask taskId device decision)
        (s.devices, s.groups, s.tasks.insert taskId (Task.decide task device decision).1)
  | acknowledge {taskId : Uuid} {device : Bytes} {task : T} :
      s.tasks.lookup taskId = some task →
      Effect s (.acknowledgeTask taskId device) (s.devices, s.groups, s.tasks.insert taskId (Task.acknowledge task device))
  | restart {taskId : Uuid} {task : T} :
      s.tasks.lookup taskId = some task →
      Effect s (.restartTask taskId) (s.devices, s.groups, s.tasks.insert taskId (Task.restart task).1)

namespace State

/-- Announcing a task just added under `uuid` finds it. -/
theorem value_sendUpdates_addTask (s : State T) (task : T) (uuid : Uuid) (net : Net) :
    ((s.addTask task uuid).sendUpdates uuid net).value = some () := by
  simp [addTask]

/-- `add_group_task` either answers `None` to a bad name or an unknown device, leaving the state; or
    panics in `GroupTask::new`, leaving the state; or adds the new task under `uuid`, announces it and
    answers `uuid`. -/
theorem addGroupTask_cases (s : State T) (name : String) (devices : List Bytes) (threshold : Nat)
    (protocol : ProtocolType) (keyType : KeyType) (uuid : Uuid) (net : Net) :
    (s.addGroupTask name devices threshold protocol keyType uuid net = ⟨(s, net), some none⟩ ∧
        (invalidName name = true ∨ devices.mapM s.devices.lookup = none)) ∨
      (s.addGroupTask name devices threshold protocol keyType uuid net = ⟨(s, net), none⟩ ∧
        invalidName name = false ∧ ∃ deviceList, devices.mapM s.devices.lookup = some deviceList ∧
          (Task.newGroupTask name deviceList threshold : Option T) = none) ∨
      ∃ deviceList task, invalidName name = false ∧ devices.mapM s.devices.lookup = some deviceList ∧
        Task.newGroupTask name deviceList threshold = some task ∧
        (s.addGroupTask name devices threshold protocol keyType uuid net).value = some (some uuid) ∧
        (s.addGroupTask name devices threshold protocol keyType uuid net).state =
          ((s.addTask task uuid).sendUpdates uuid net).state := by
  unfold addGroupTask
  split
  · exact .inl ⟨rfl, .inl ‹_›⟩
  · rename_i hname
    simp only [Bool.not_eq_true] at hname
    split
    · exact .inl ⟨rfl, .inr ‹_›⟩
    · rename_i deviceList hlist
      cases protocol
      dsimp only
      split
      · exact .inr (.inl ⟨rfl, hname, deviceList, hlist, ‹_›⟩)
      · rename_i task htask
        refine .inr (.inr ⟨deviceList, task, hname, hlist, htask, ?_, rfl⟩)
        rw [outcome_map_value, value_sendUpdates_addTask]
        rfl

/-- `add_sign_task` either answers `None` to a bad request or an unknown group, leaving the state, or
    adds the signing task under `uuid`, announces it and answers `uuid`. It never panics. -/
theorem addSignTask_cases (s : State T) (group : Bytes) (name : String) (data : Bytes) (uuid : Uuid) (net : Net) :
    (s.addSignTask group name data uuid net = ⟨(s, net), some none⟩ ∧
        (invalidSignRequest name data = true ∨ s.groups.lookup group = none)) ∨
      ∃ g, invalidSignRequest name data = false ∧ s.groups.lookup group = some g ∧
        (s.addSignTask group name data uuid net).value = some (some uuid) ∧
        (s.addSignTask group name data uuid net).state =
          ((s.addTask (Task.newSignPDFTask g name data) uuid).sendUpdates uuid net).state := by
  unfold addSignTask
  split
  · exact .inl ⟨rfl, .inl ‹_›⟩
  · rename_i hrequest
    simp only [Bool.not_eq_true] at hrequest
    split
    · exact .inl ⟨rfl, .inr ‹_›⟩
    · rename_i g hg
      split
      refine .inr ⟨g, hrequest, hg, ?_, rfl⟩
      rw [outcome_map_value, value_sendUpdates_addTask]
      rfl

/-- The branches of `update_task` after the update: a group is stored exactly when the status
    turns `Finished` with a group as result. -/
theorem effect_updateTask (s : State T) (taskId : Uuid) (device data : Bytes) (net : Net) :
    Effect s (.updateTask taskId device data) (s.updateTask taskId device data net).state.1.core := by
  unfold updateTask
  split
  · exact .keep
  · rename_i task htask
    simp only
    split
    · rename_i hflip
      simp only [Bool.and_eq_true, bne_iff_ne, ne_eq, beq_iff_eq] at hflip
      split
      · exact .update htask
      · rename_i g hg
        rw [outcome_map_state, core_notify]
        exact .establish htask hflip.1 hflip.2 hg
      · rw [outcome_map_state, core_notify]
        exact .update htask
    · rw [outcome_map_state, core_notify]
      exact .update htask

end State

/-- Every call makes one of the changes `Effect` lists. -/
theorem effect (op : Op) (s : State T) (net : Net) : Effect s op (op.exec s net).state.1.core := by
  cases op with
  | addDevice identifier name =>
    simp only [Op.exec, State.addDevice]
    split_ifs with hname hmem
    · exact .keep
    · exact .keep
    · exact .register (by simpa using hname) hmem
  | addGroupTask name devices threshold protocol keyType uuid =>
    rcases State.addGroupTask_cases s name devices threshold protocol keyType uuid net with
      ⟨h, -⟩ | ⟨h, -⟩ | ⟨_, _, -, hlist, htask, -, h⟩
    · simp only [Op.exec, State.outcome_map_state, h]
      exact .keep
    · simp only [Op.exec, State.outcome_map_state, h]
      exact .keep
    · rw [Op.exec, State.outcome_map_state, h, State.core_sendUpdates]
      exact .createGroup hlist htask
  | addSignTask group name data uuid =>
    rcases State.addSignTask_cases s group name data uuid net with ⟨h, -⟩ | ⟨_, -, hg, -, h⟩
    · simp only [Op.exec, State.outcome_map_state, h]
      exact .keep
    · rw [Op.exec, State.outcome_map_state, h, State.core_sendUpdates]
      exact .createSign hg
  | updateTask taskId device data => exact State.effect_updateTask s taskId device data net
  | decideTask taskId device decision =>
    simp only [Op.exec, State.decideTask, State.outcome_map_state]
    split
    · exact .keep
    · rw [State.outcome_map_state, State.core_notify]
      exact .decide ‹_›
  | acknowledgeTask taskId device =>
    simp only [Op.exec, State.acknowledgeTask]
    split
    · exact .keep
    · exact .acknowledge ‹_›
  | restartTask taskId =>
    simp only [Op.exec, State.restartTask]
    split
    · exact .keep
    · exact .restart ‹_›
  | addSubscriber deviceId tx => exact .keep
  | removeSubscriber deviceId => exact .keep

end MeesignServer
