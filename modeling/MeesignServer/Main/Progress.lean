import MeesignServer.Main.State

/-! Runs of `main.rs` calls from any state. A call appends a task or updates the task at one index in
    place, so an index names one task for good, with the same devices and the same work; an update
    that `update_task` has recorded is never undone, not even by a call that panics after recording
    it, since the lock around the state does not poison. `get_work` therefore gives a device work
    from its first `update_task` on the task, and only from then. In every state that runs from
    `State::new` reach, `get_task` answers `Waiting([])` for a task none of whose devices is
    outstanding and panics on any other index, and `add_sign_task` panics: the server never reports
    a finished task. Once every device of a task has sent `update_task` on it, in any order and among
    any other calls, none is outstanding, and `get_task` answers `Waiting([])`. -/

namespace MeesignServer.Main

/-! ### Tasks under updates -/

namespace Task

/-- The work `get_work` hands to a device whose update is recorded: a sign task's data, a group
    task's fixed payload. -/
def work : Task → Bytes
  | .sign t => t.data
  | .group _ => [1, 2, 3, 4]

/-- `get_work` gives a device the task's work once its update is recorded, and nothing before. -/
theorem getWork_eq (t : Task) (d : Bytes) :
    t.getWork d = if t.subtasks.lookup d = some true then some t.work else none := by
  cases t with
  | sign t => cases h : t.subtasks.lookup d with
    | none => simp [getWork, subtasks, SignTask.getWork, h]
    | some b => cases b <;> simp [getWork, subtasks, work, SignTask.getWork, h]
  | group t => cases h : t.subtasks.lookup d with
    | none => simp [getWork, subtasks, GroupTask.getWork, h]
    | some b => cases b <;> simp [getWork, subtasks, work, GroupTask.getWork, h]

theorem lookup_mark (m : Map Bytes Bool) (d k : Bytes) :
    (if d ∈ m then m.insert d true else m).lookup k = if k = d ∧ d ∈ m then some true else m.lookup k := by
  by_cases hd : d ∈ m
  · by_cases hk : k = d
    · subst hk; simp [hd]
    · simp [hd, hk, AList.lookup_insert_ne hk]
  · simp [hd]

/-- `update` records the update of a device of the task and nothing else. -/
theorem subtasks_update (t : Task) (d p k : Bytes) :
    (t.update d p).state.subtasks.lookup k = if k = d ∧ d ∈ t.subtasks then some true else t.subtasks.lookup k := by
  rw [← lookup_mark]
  cases t with
  | sign t => simp only [update, subtasks, SignTask.update_subtasks]
  | group t =>
    simp only [update, subtasks, GroupTask.update_state]
    split <;> simp_all

theorem work_update (t : Task) (d p : Bytes) : (t.update d p).state.work = t.work := by
  cases t with
  | sign t =>
    simp only [update, work]
    unfold SignTask.update
    split <;> rfl
  | group t => rfl

theorem mem_subtasks_update {t : Task} {d p k : Bytes} : k ∈ (t.update d p).state.subtasks ↔ k ∈ t.subtasks := by
  rw [← AList.lookup_isSome, ← AList.lookup_isSome, subtasks_update]
  split
  · rename_i h
    rw [h.1, AList.lookup_isSome.mpr h.2]
    rfl
  · rfl

end Task

theorem lookup_newSubtasks_ne_true (devices : List Bytes) (d : Bytes) : (newSubtasks devices).lookup d ≠ some true := by
  rw [lookup_newSubtasks]
  split <;> simp

/-- With no device outstanding, the devices of the task are those whose update is recorded. -/
theorem lookup_eq_true_of_waiting_eq_nil {m : Map Bytes Bool} (hw : waiting m = []) {d : Bytes} :
    m.lookup d = some true ↔ d ∈ m := by
  rw [← AList.lookup_isSome]
  cases h : m.lookup d with
  | none => simp
  | some b =>
    cases b
    · exact absurd h (waiting_eq_nil.mp hw d)
    · simp

/-- Marking a device as updated leaves no device outstanding exactly when no other device was. -/
theorem waiting_insert_true_eq_nil {m : Map Bytes Bool} {d : Bytes} :
    waiting (m.insert d true) = [] ↔ ∀ k ∈ waiting m, k = d := by
  simp only [waiting_eq_nil, mem_waiting]
  refine forall_congr' fun k => ?_
  by_cases hk : k = d
  · subst hk; simp
  · simp [AList.lookup_insert_ne hk, hk]

/-! ### What one call does to the tasks -/

namespace State

theorem tasks_addGroupTask (s : State) (devices : List Bytes) (threshold : Nat) :
    (s.addGroupTask devices threshold).state.tasks = s.tasks ∨ ∃ t : Task,
      (∀ d, t.subtasks.lookup d ≠ some true) ∧ (s.addGroupTask devices threshold).state.tasks = s.tasks ++ [t] := by
  unfold addGroupTask
  split
  · exact .inl rfl
  · split
    · split
      · exact .inl rfl
      · rename_i t ht
        unfold GroupTask.new at ht
        split at ht <;> cases ht
        refine .inr ⟨_, ?_, rfl⟩
        exact lookup_newSubtasks_ne_true devices
    · exact .inl rfl

theorem tasks_addSignTask (s : State) (group data : Bytes) :
    (s.addSignTask group data).state.tasks = s.tasks ∨ ∃ t : Task,
      (∀ d, t.subtasks.lookup d ≠ some true) ∧ (s.addSignTask group data).state.tasks = s.tasks ++ [t] := by
  unfold addSignTask
  split
  · exact .inl rfl
  · refine .inr ⟨_, ?_, rfl⟩
    exact lookup_newSubtasks_ne_true _

theorem updateTask_of_none {s : State} {task : Nat} (h : s.tasks[task]? = none) (device data : Bytes) :
    (s.updateTask task device data).state = s := by
  simp [updateTask, h]

theorem tasks_updateTask {s : State} {task : Nat} {t : Task} (h : s.tasks[task]? = some t) (device data : Bytes) :
    (s.updateTask task device data).state.tasks = s.tasks.set task (t.update device data).state := by
  unfold updateTask
  rw [h]
  dsimp only
  split <;> rfl

end State

/-- The task at index `i` after the call `op`, when it was `t` before. -/
def Op.onTask (i : Nat) (t : Task) : Op → Task
  | .updateTask j device data => if j = i then (t.update device data).state else t
  | _ => t

namespace Op

/-- A call keeps the task at every index of the list, updated in place by an `update_task` of it. -/
theorem getElem?_apply {s : State} {i : Nat} {t : Task} (ht : s.tasks[i]? = some t) :
    ∀ op : Op, (op.apply s).tasks[i]? = some (op.onTask i t)
  | .addDevice _ => ht
  | .addGroupTask devices threshold => by
    have hi := (List.getElem?_eq_some_iff.mp ht).1
    rcases State.tasks_addGroupTask s devices threshold with h | ⟨_, -, h⟩ <;>
      simp [apply, onTask, h, List.getElem?_append_left hi, ht]
  | .addSignTask group data => by
    have hi := (List.getElem?_eq_some_iff.mp ht).1
    rcases State.tasks_addSignTask s group data with h | ⟨_, -, h⟩ <;>
      simp [apply, onTask, h, List.getElem?_append_left hi, ht]
  | .updateTask j device data => by
    cases hj : s.tasks[j]? with
    | none =>
      have hji : j ≠ i := by
        rintro rfl
        rw [ht] at hj
        cases hj
      simp [apply, onTask, State.updateTask_of_none hj, ht, hji]
    | some u =>
      rw [apply, State.tasks_updateTask hj, List.getElem?_set]
      by_cases hji : j = i
      · subst hji
        obtain rfl : u = t := Option.some.inj (hj.symm.trans ht)
        simp [onTask, (List.getElem?_eq_some_iff.mp ht).1]
      · simp [onTask, hji, ht]

/-- A task that a call adds has no update recorded. -/
theorem fresh_of_getElem?_apply {s : State} {i : Nat} (hnone : s.tasks[i]? = none) :
    ∀ (op : Op) {t : Task}, (op.apply s).tasks[i]? = some t → ∀ d, t.subtasks.lookup d ≠ some true
  | .addDevice _, _, h => by simp [apply, State.addDevice, hnone] at h
  | .addGroupTask devices threshold, _, h => by
    have hi := List.getElem?_eq_none_iff.mp hnone
    rcases State.tasks_addGroupTask s devices threshold with he | ⟨u, hu, he⟩
    · simp [apply, he, hnone] at h
    · rw [apply, he, List.getElem?_append_right hi] at h
      obtain rfl := List.mem_singleton.mp (List.getElem?_mem h)
      exact hu
  | .addSignTask group data, _, h => by
    have hi := List.getElem?_eq_none_iff.mp hnone
    rcases State.tasks_addSignTask s group data with he | ⟨u, hu, he⟩
    · simp [apply, he, hnone] at h
    · rw [apply, he, List.getElem?_append_right hi] at h
      obtain rfl := List.mem_singleton.mp (List.getElem?_mem h)
      exact hu
  | .updateTask j device data, _, h => by
    have hi := List.getElem?_eq_none_iff.mp hnone
    cases hj : s.tasks[j]? with
    | none => simp [apply, State.updateTask_of_none hj, hnone] at h
    | some u =>
      rw [apply, State.tasks_updateTask hj, List.getElem?_set] at h
      split_ifs at h with hji
      · subst hji
        exact absurd (List.getElem?_eq_some_iff.mp hj).1 (Nat.not_lt.mpr hi)
      · rw [hnone] at h
        cases h

theorem work_onTask (op : Op) (i : Nat) (t : Task) : (op.onTask i t).work = t.work := by
  cases op with
  | updateTask j device data =>
    simp only [onTask]
    split
    · exact Task.work_update t device data
    · rfl
  | _ => rfl

theorem mem_onTask {op : Op} {i : Nat} {t : Task} {k : Bytes} : k ∈ (op.onTask i t).subtasks ↔ k ∈ t.subtasks := by
  cases op with
  | updateTask j device data =>
    simp only [onTask]
    split
    · exact Task.mem_subtasks_update
    · rfl
  | _ => rfl

/-- A recorded update stays recorded. -/
theorem recorded_onTask {op : Op} {i : Nat} {t : Task} {d : Bytes} (h : t.subtasks.lookup d = some true) :
    (op.onTask i t).subtasks.lookup d = some true := by
  cases op with
  | updateTask j device data =>
    simp only [onTask]
    split
    · rw [Task.subtasks_update]
      split <;> simp_all
    · exact h
  | _ => exact h

/-- An update is recorded only by an `update_task` of that device on that task. -/
theorem recorded_of_onTask {op : Op} {i : Nat} {t : Task} {d : Bytes}
    (h : (op.onTask i t).subtasks.lookup d = some true) :
    t.subtasks.lookup d = some true ∨ ∃ data, op = .updateTask i d data := by
  cases op with
  | updateTask j device data =>
    simp only [onTask] at h
    split at h
    · rename_i hji
      subst hji
      rw [Task.subtasks_update] at h
      split at h
      · rename_i hd
        exact .inr ⟨data, by rw [hd.1]⟩
      · exact .inl h
    · exact .inl h
  | _ => exact .inl h

/-! ### Runs -/

/-- The state that the calls `ops` leave, made one after another from `s`. -/
def applyAll : List Op → State → State
  | [], s => s
  | op :: ops, s => applyAll ops (op.apply s)

theorem applyAll_append (pre post : List Op) (s : State) :
    applyAll (pre ++ post) s = applyAll post (applyAll pre s) := by
  induction pre generalizing s with
  | nil => rfl
  | cons op pre ih => exact ih _

/-- Every task of the state keeps its index, its devices, its work and its recorded updates over a
    run. -/
theorem getElem?_applyAll {i : Nat} {t : Task} :
    ∀ (ops : List Op) {s : State}, s.tasks[i]? = some t →
      ∃ t', (applyAll ops s).tasks[i]? = some t' ∧ (∀ k, k ∈ t'.subtasks ↔ k ∈ t.subtasks) ∧ t'.work = t.work ∧
        ∀ k, t.subtasks.lookup k = some true → t'.subtasks.lookup k = some true
  | [], _, ht => ⟨t, ht, fun _ => Iff.rfl, rfl, fun _ => id⟩
  | op :: ops, _, ht => by
    obtain ⟨t', ht', hmem, hwork, hrec⟩ := getElem?_applyAll ops (getElem?_apply ht op)
    exact ⟨t', ht', fun k => (hmem k).trans mem_onTask, hwork.trans (work_onTask op i t),
      fun k h => hrec k (recorded_onTask h)⟩

/-- A run in which a device of a task sends `update_task` on it ends with the update recorded. -/
theorem recorded_applyAll {s : State} {i : Nat} {t : Task} (ht : s.tasks[i]? = some t) {d : Bytes}
    (hd : d ∈ t.subtasks) (pre : List Op) (data : Bytes) (post : List Op) :
    ∃ t', (applyAll (pre ++ .updateTask i d data :: post) s).tasks[i]? = some t' ∧
      (∀ k, k ∈ t'.subtasks ↔ k ∈ t.subtasks) ∧ t'.work = t.work ∧ t'.subtasks.lookup d = some true := by
  obtain ⟨t₁, ht₁, hmem₁, hwork₁, -⟩ := getElem?_applyAll pre ht
  have hrec : ((Op.updateTask i d data).onTask i t₁).subtasks.lookup d = some true := by
    simp [onTask, Task.subtasks_update, (hmem₁ d).mpr hd]
  obtain ⟨t', ht', hmem, hwork, hkeep⟩ := getElem?_applyAll post (getElem?_apply ht₁ (.updateTask i d data))
  rw [applyAll_append]
  exact ⟨t', ht', fun k => (hmem k).trans (mem_onTask.trans (hmem₁ k)),
    hwork.trans ((work_onTask _ i t₁).trans hwork₁), hkeep d hrec⟩

/-- A call keeps the work `get_work` gives. -/
theorem getWork_apply_of_some {s : State} {i : Nat} {d w : Bytes} (h : s.getWork i d = some (some w)) (op : Op) :
    (op.apply s).getWork i d = some (some w) := by
  obtain ⟨t, ht, hw⟩ := Option.map_eq_some'.mp h
  rw [Task.getWork_eq] at hw
  split at hw <;> cases hw
  rename_i hrec
  simp [State.getWork, getElem?_apply ht op, Task.getWork_eq, recorded_onTask hrec, work_onTask]

/-- A call makes `get_work` give work to a device only when it is that device's `update_task`. -/
theorem getWork_of_apply {s : State} {i : Nat} {d w : Bytes} (op : Op) (h : (op.apply s).getWork i d = some (some w)) :
    s.getWork i d = some (some w) ∨ ∃ data, op = .updateTask i d data := by
  obtain ⟨t', ht', hw⟩ := Option.map_eq_some'.mp h
  rw [Task.getWork_eq] at hw
  split at hw <;> cases hw
  rename_i hrec
  cases ht : s.tasks[i]? with
  | none => exact absurd hrec (fresh_of_getElem?_apply ht op ht' d)
  | some t =>
    rw [getElem?_apply ht op] at ht'
    cases ht'
    rcases recorded_of_onTask hrec with hrec | hop
    · exact .inl (by simp [State.getWork, ht, Task.getWork_eq, hrec, work_onTask])
    · exact .inr hop

/-- A run keeps the work `get_work` gives. -/
theorem getWork_applyAll_of_some {i : Nat} {d w : Bytes} :
    ∀ (ops : List Op) {s : State}, s.getWork i d = some (some w) → (applyAll ops s).getWork i d = some (some w)
  | [], _, h => h
  | op :: ops, _, h => getWork_applyAll_of_some ops (getWork_apply_of_some h op)

/-- A run makes `get_work` give a device work only through an `update_task` of that device on the
    task. -/
theorem getWork_of_applyAll {i : Nat} {d w : Bytes} :
    ∀ (ops : List Op) {s : State}, (applyAll ops s).getWork i d = some (some w) →
      s.getWork i d = some (some w) ∨ ∃ data, Op.updateTask i d data ∈ ops
  | [], _, h => .inl h
  | op :: ops, _, h => by
    rcases getWork_of_applyAll ops h with h | ⟨data, hmem⟩
    · exact (getWork_of_apply op h).imp_right fun ⟨data, hop⟩ => ⟨data, hop ▸ List.mem_cons_self _ _⟩
    · exact .inr ⟨data, List.mem_cons_of_mem _ hmem⟩

/-- Once each device of a task has sent `update_task` on it, in any order and among any other
    calls, no device of the task is outstanding. -/
theorem waiting_applyAll_eq_nil {s : State} {i : Nat} {t : Task} (ht : s.tasks[i]? = some t) (ops : List Op)
    (hupdates : ∀ d ∈ t.subtasks, ∃ data, Op.updateTask i d data ∈ ops) :
    ∃ t', (applyAll ops s).tasks[i]? = some t' ∧ waiting t'.subtasks = [] := by
  obtain ⟨t', ht', hmem, -, -⟩ := getElem?_applyAll ops ht
  refine ⟨t', ht', waiting_eq_nil.mpr fun d hd => ?_⟩
  have hd' : d ∈ t.subtasks := (hmem d).mp (AList.lookup_isSome.mp (by simp [hd]))
  obtain ⟨data, hop⟩ := hupdates d hd'
  obtain ⟨pre, post, rfl⟩ := List.append_of_mem hop
  obtain ⟨t'', ht'', -, -, hrec⟩ := recorded_applyAll ht hd' pre data post
  obtain rfl : t' = t'' := Option.some.inj (ht'.symm.trans ht'')
  simp [hrec] at hd

end Op

theorem Reachable.applyAll {s : State} (hs : Reachable s) : ∀ ops : List Op, Reachable (Op.applyAll ops s)
  | [] => hs
  | op :: ops => (hs.step op).applyAll ops

namespace State

variable {s : State}

/-- What `get_task` answers in a state with the invariant: `Waiting([])` for a task none of whose
    devices is outstanding, and a panic otherwise. -/
theorem getTask_of_inv (h : Inv s) (i : Nat) :
    s.getTask i = s.tasks[i]?.bind fun t => if waiting t.subtasks = [] then some (.waiting []) else none := by
  cases ht : s.tasks[i]? with
  | none => simp [getTask, ht]
  | some t =>
    obtain ⟨devices, threshold, g, rfl, hg⟩ := h.tasks t (List.getElem?_mem ht)
    simp [getTask, ht, Task.getStatus, Task.subtasks, GroupTask.getStatus_of_inv hg.inv]

/-- What `update_task` returns in a state with the invariant: `Waiting([])` when the device is one
    of the task's and no other device is outstanding, and a panic otherwise. -/
theorem updateTask_value_of_inv (h : Inv s) (task : Nat) (device data : Bytes) :
    (s.updateTask task device data).value = s.tasks[task]?.bind fun t =>
      if device ∈ t.subtasks ∧ ∀ k ∈ waiting t.subtasks, k = device then some (.waiting []) else none := by
  cases ht : s.tasks[task]? with
  | none => simp [updateTask, ht]
  | some t =>
    obtain ⟨devices, threshold, g, rfl, hg⟩ := h.tasks t (List.getElem?_mem ht)
    have hst : (Task.group g).update device data = ⟨.group (g.update device data).state, (g.update device data).value⟩ := rfl
    have hstatus := GroupTask.getStatus_of_inv (hg.update device data).inv
    unfold updateTask
    rw [ht]
    dsimp only
    rw [hst, GroupTask.update_value, hstatus]
    by_cases hd : device ∈ g.subtasks
    · have hsub : (g.update device data).state.subtasks = g.subtasks.insert device true := by
        rw [GroupTask.update_state, if_pos hd, GroupTask.tryAdvance_subtasks]
      simp only [hd, hsub, waiting_insert_true_eq_nil, Task.subtasks, if_true, true_and, Option.map_if,
        Option.map_some', Option.map_none', Option.some_bind]
      split_ifs <;> rfl
    · simp [hd, Task.subtasks]

end State

/-- Whatever calls follow, from any state: `get_work` keeps giving a device the work it gives it;
    it gives a device work only after that device's `update_task` on the task; and the
    `update_task` of a device of the task makes `get_work` give the device the task's work from
    then on, also when the call panics after recording the update. -/
theorem updates_never_lost (s : State) (i : Nat) (d : Bytes) :
    (∀ ops w, s.getWork i d = some (some w) → (Op.applyAll ops s).getWork i d = some (some w)) ∧
    (∀ ops w, (Op.applyAll ops s).getWork i d = some (some w) →
      s.getWork i d = some (some w) ∨ ∃ data, Op.updateTask i d data ∈ ops) ∧
    (∀ t pre data post, s.tasks[i]? = some t → d ∈ t.subtasks →
      (Op.applyAll (pre ++ Op.updateTask i d data :: post) s).getWork i d = some (some t.work)) := by
  refine ⟨fun ops _ => Op.getWork_applyAll_of_some ops, fun ops _ => Op.getWork_of_applyAll ops,
    fun t pre data post ht hd => ?_⟩
  obtain ⟨t', ht', -, hwork, hrec⟩ := Op.recorded_applyAll ht hd pre data post
  simp [State.getWork, ht', Task.getWork_eq, hrec, hwork]

/-- Devices `[1]` and `[2]` and a group task over both: the `update_task` of `[1]` panics, since `[2]`
    is still outstanding, and yet `get_work` gives `[1]` the payload from then on. -/
theorem update_recorded_despite_panic :
    let s : State := (((State.new.addDevice [1]).addDevice [2]).addGroupTask [[1], [2]] 2).state
    let t : Task := .group ⟨newSubtasks [[1], [2]], 2, none⟩
    s.tasks[0]? = some t ∧ [1] ∈ t.subtasks ∧ (s.updateTask 0 [1] []).value = none ∧
      (Op.applyAll ([] ++ Op.updateTask 0 [1] [] :: [.addDevice [3]]) s).getWork 0 [1] = some (some [1, 2, 3, 4]) := by
  intro s t
  have ht : s.tasks[0]? = some t := rfl
  have hd : [1] ∈ t.subtasks := by decide
  exact ⟨ht, hd, by decide, (updates_never_lost s 0 [1]).2.2 t [] [] [.addDevice [3]] ht hd⟩

/-- In every state that runs of `main.rs` calls reach from `State::new`, `get_task` answers
    `Waiting([])` for a task none of whose devices is outstanding and panics on every other index,
    and `add_sign_task` panics and leaves the state: the server never reports a finished, signed or
    failed task. -/
theorem reachable_server_never_finishes (s : State) (hs : Reachable s) :
    (∀ i, s.getTask i = s.tasks[i]?.bind fun t => if waiting t.subtasks = [] then some (.waiting []) else none) ∧
      ∀ group data, s.addSignTask group data = ⟨s, none⟩ := by
  exact ⟨State.getTask_of_inv hs.inv, fun group data => by simp [State.addSignTask, hs.groups_eq_nil]⟩

/-- Device `[1]` and a group task over it that `[1]` has updated: `get_task` answers `Waiting([])`
    for it, panics past the end of the list, and `add_sign_task` panics. -/
theorem group_task_reports_waiting_after_update :
    let s : State := (Op.updateTask 0 [1] []).apply ((Op.addGroupTask [[1]] 1).apply ((Op.addDevice [1]).apply State.new))
    Reachable s ∧ s.getTask 0 = some (.waiting []) ∧ s.getTask 1 = none ∧ (s.addSignTask [1] []).value = none := by
  intro s
  have hs : Reachable s := .step _ (.step _ (.step _ .new))
  have h := reachable_server_never_finishes s hs
  exact ⟨hs, by rw [h.1]; decide, by rw [h.1]; decide, by rw [h.2]⟩

/-- From every reachable state, once each device of a task has sent `update_task` on it, in any
    order, among any other calls and whether or not those calls panicked, `get_task` answers
    `Waiting([])` for the task. -/
theorem all_updates_complete_task (s : State) (hs : Reachable s) (i : Nat) (t : Task)
    (ht : s.tasks[i]? = some t) (ops : List Op) (hupdates : ∀ d ∈ t.subtasks, ∃ data, Op.updateTask i d data ∈ ops) :
    (Op.applyAll ops s).getTask i = some (.waiting []) := by
  obtain ⟨t', ht', hw⟩ := Op.waiting_applyAll_eq_nil ht ops hupdates
  simp [State.getTask_of_inv (hs.applyAll ops).inv, ht', hw]

/-- Devices `[1]` and `[2]` and a group task over both: once `[2]`, then a registration,
    then `[1]` have come in, `get_task` answers `Waiting([])`. -/
theorem group_task_waiting_after_both_updates :
    let s : State := (Op.addGroupTask [[1], [2]] 2).apply ((Op.addDevice [2]).apply ((Op.addDevice [1]).apply State.new))
    let t : Task := .group ⟨newSubtasks [[1], [2]], 2, none⟩
    let ops : List Op := [.updateTask 0 [2] [], .addDevice [3], .updateTask 0 [1] []]
    Reachable s ∧ s.tasks[0]? = some t ∧ (∀ d ∈ t.subtasks, ∃ data, Op.updateTask 0 d data ∈ ops) ∧
      (Op.applyAll ops s).getTask 0 = some (.waiting []) := by
  intro s t ops
  have hs : Reachable s := .step _ (.step _ (.step _ .new))
  have ht : s.tasks[0]? = some t := rfl
  have hupdates : ∀ d ∈ t.subtasks, ∃ data, Op.updateTask 0 d data ∈ ops := fun d hd => by
    rcases List.mem_pair.mp (mem_newSubtasks.mp hd) with rfl | rfl <;> exact ⟨[], by simp [ops]⟩
  exact ⟨hs, ht, hupdates, all_updates_complete_task s hs 0 t ht ops hupdates⟩

end MeesignServer.Main
