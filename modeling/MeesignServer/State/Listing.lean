import MeesignServer.State.Step
import MeesignServer.State.SpecTask

/-! Which tasks `get_device_tasks` lists for a device. Its filter drops a task of the device only when
    the task is `Finished` and acknowledged by the device; a task that failed stays listed after the
    device acknowledged it. Every call continues each task of the state (`Task.Follows`), so a
    finished task that a device has acknowledged stays unlisted for the rest of the run. -/

namespace MeesignServer

variable {T : Type} [Task T]

namespace State

theorem listed_eq_true {task : T} {device : Bytes} :
    listed task device = true ↔ Task.hasDevice task device = true ∧
      ¬(Task.getStatus task = .finished ∧ Task.deviceAcknowledged task device = true) := by
  unfold listed
  by_cases h : Task.getStatus task = .finished <;> simp [h]

/-- `get_device_tasks` lists a task of the state for a device of it, unless the task is `Finished`
    and the device has acknowledged it. -/
theorem mem_getDeviceTasks {s : State T} {device : Bytes} {taskId : Uuid} {task : T} :
    (taskId, task) ∈ s.getDeviceTasks device ↔ s.tasks.lookup taskId = some task ∧
      Task.hasDevice task device = true ∧
      ¬(Task.getStatus task = .finished ∧ Task.deviceAcknowledged task device = true) := by
  simp only [getDeviceTasks, List.mem_map, List.mem_filter, Prod.mk.injEq, ← Option.mem_def,
    AList.mem_lookup_iff, listed_eq_true]
  constructor
  · rintro ⟨⟨_, _⟩, h, rfl, rfl⟩
    exact h
  · exact fun h => ⟨_, h, rfl, rfl⟩

end State

/-! ### Tasks are continued -/

theorem lookup_insert_follows {tasks : Map Uuid T} {taskId taskId' : Uuid} {task t t' : T}
    (ht : tasks.lookup taskId = some task) (ht' : tasks.lookup taskId' = some t) (hf : Task.Follows t t') :
    ∃ task', (tasks.insert taskId' t').lookup taskId = some task' ∧ Task.Follows task task' := by
  by_cases h : taskId = taskId'
  · subst h
    obtain rfl : task = t := Option.some.inj (ht.symm.trans ht')
    exact ⟨t', AList.lookup_insert _, hf⟩
  · exact ⟨task, by rwa [AList.lookup_insert_ne h], .refl task⟩

section
variable [LawfulTask T]

/-- A call that draws a fresh identifier keeps every task of the state, continued. -/
theorem Effect.follows {s : State T} {op : Op} {c : Map Bytes Device × Map Bytes Group × Map Uuid T}
    (h : Effect s op c) (hf : op.Fresh s) {taskId : Uuid} {task : T} (ht : s.tasks.lookup taskId = some task) :
    ∃ task', c.2.2.lookup taskId = some task' ∧ Task.Follows task task' := by
  cases h with
  | keep | register => exact ⟨task, ht, .refl task⟩
  | createGroup | createSign => exact ⟨task, lookup_insert_of_not_mem (hf.not_mem rfl) ht, .refl task⟩
  | update ht' | establish ht' => exact lookup_insert_follows ht ht' (LawfulTask.follows_update _ _ _)
  | decide ht' => exact lookup_insert_follows ht ht' (LawfulTask.follows_decide _ _ _)
  | acknowledge ht' => exact lookup_insert_follows ht ht' (LawfulTask.follows_acknowledge _ _)
  | restart ht' => exact lookup_insert_follows ht ht' (LawfulTask.follows_restart _)

theorem Runs.follows {s s' : State T} (h : Runs s s') {taskId : Uuid} {task : T}
    (ht : s.tasks.lookup taskId = some task) : ∃ task', s'.tasks.lookup taskId = some task' ∧ Task.Follows task task' := by
  induction h with
  | refl => exact ⟨task, ht, .refl task⟩
  | @step s' op net _ hf ih =>
    obtain ⟨t', ht', h₁⟩ := ih
    obtain ⟨t'', ht'', h₂⟩ := (effect op s' net).follows hf ht'
    exact ⟨t'', ht'', h₁.trans h₂⟩

/-- Once a device acknowledges a finished task, `get_device_tasks` does not list the task for it in
    any state that follows, whatever calls come after, acknowledgements of it included. -/
theorem acknowledged_finished_unlisted {s s' : State T} {taskId : Uuid} {device : Bytes} {task : T}
    (ht : s.tasks.lookup taskId = some task) (hfin : Task.getStatus task = .finished)
    (h : Runs (s.acknowledgeTask taskId device).state s') (task' : T) :
    (taskId, task') ∉ s'.getDeviceTasks device := by
  have hack : (s.acknowledgeTask taskId device).state.tasks.lookup taskId = some (Task.acknowledge task device) := by
    simp [State.acknowledgeTask, ht]
  obtain ⟨t, ht', hf⟩ := h.follows hack
  rw [State.mem_getDeviceTasks, ht']
  rintro ⟨⟨⟩, -, hlisted⟩
  exact hlisted ⟨hf.finished (by rw [LawfulTask.getStatus_acknowledge, hfin]),
    hf.acknowledged device (LawfulTask.acknowledge_acknowledged task device)⟩

/-- `get_device_tasks` lists a task of the state for a device exactly when the device belongs to it
    and the task is not both `Finished` and acknowledged by the device; once the device acknowledges
    a finished task, no later state of the run lists it. -/
theorem getDeviceTasks_hides_acknowledged_finished :
    (∀ (s : State T) (device : Bytes) (taskId : Uuid) (task : T),
      (taskId, task) ∈ s.getDeviceTasks device ↔ s.tasks.lookup taskId = some task ∧
        Task.hasDevice task device = true ∧
        ¬(Task.getStatus task = .finished ∧ Task.deviceAcknowledged task device = true)) ∧
    (∀ (s s' : State T) (taskId : Uuid) (device : Bytes) (task : T), s.tasks.lookup taskId = some task →
      Task.getStatus task = .finished → Runs (s.acknowledgeTask taskId device).state s' →
        ∀ task', (taskId, task') ∉ s'.getDeviceTasks device) :=
  ⟨fun _ _ _ _ => State.mem_getDeviceTasks, fun _ _ _ _ _ ht hfin h => acknowledged_finished_unlisted ht hfin h⟩

end

/-- The group task over device `[1]` finishes; after the device acknowledges it, and acknowledges it
    again, the task is not listed for it. -/
theorem group_task_unlisted_after_acknowledge :
    let s : State SpecTask := execAll (fun _ => .closed) [.addDevice [1] "a",
      .addGroupTask "g" [[1]] 1 .gg18 ⟨0⟩ ⟨0⟩, .updateTask ⟨0⟩ [1] []] State.new
    let s' : State SpecTask := execAll (fun _ => .closed) [.acknowledgeTask ⟨0⟩ [1]] (s.acknowledgeTask ⟨0⟩ [1]).state
    s.tasks.lookup ⟨0⟩ = some ⟨.group "g" 1, [⟨[1], "a"⟩], [[1]], [], [], some [], none⟩ ∧
      Task.getStatus (⟨.group "g" 1, [⟨[1], "a"⟩], [[1]], [], [], some [], none⟩ : SpecTask) = .finished ∧
      ∀ task', (⟨0⟩, task') ∉ s'.getDeviceTasks [1] := by
  intro s s'
  have ht : s.tasks.lookup ⟨0⟩ = some ⟨.group "g" 1, [⟨[1], "a"⟩], [[1]], [], [], some [], none⟩ := by decide
  have hfin : Task.getStatus (⟨.group "g" 1, [⟨[1], "a"⟩], [[1]], [], [], some [], none⟩ : SpecTask) = .finished := by
    decide
  exact ⟨ht, hfin, getDeviceTasks_hides_acknowledged_finished.2 s s' ⟨0⟩ [1] _ ht hfin (runs_execAll _ _ _ (by decide))⟩

/-- A device rejects the group task over it, which fails, and then acknowledges it: the failed task
    is still listed for the device. -/
theorem rejected_task_listed_after_acknowledge :
    let s : State SpecTask := execAll (fun _ => .closed) [.addDevice [1] "a",
      .addGroupTask "g" [[1]] 1 .gg18 ⟨0⟩ ⟨0⟩, .decideTask ⟨0⟩ [1] false, .acknowledgeTask ⟨0⟩ [1]] State.new
    Reachable s ∧ (s.tasks.lookup ⟨0⟩).map Task.getStatus = some (.failed "Task rejected") ∧
      (s.tasks.lookup ⟨0⟩).map (Task.deviceAcknowledged · [1]) = some true ∧
      (s.getDeviceTasks [1]).map Prod.fst = [⟨0⟩] := by
  intro s
  exact ⟨runs_execAll _ _ _ (by decide), by decide, by decide, by decide⟩

end MeesignServer
