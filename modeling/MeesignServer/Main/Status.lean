import MeesignServer.Main.Task

/-! What a task of `main.rs` reaches by `update` calls, and what `get_status` then returns. The key
    set of `subtasks` never changes and values only turn `true`; a group task sets its result once,
    in the `update` that leaves no device outstanding. Since `get_status` tests `waiting.is_empty()`
    the wrong way round, a sign task reports `Signed` exactly while devices are outstanding, and a
    group task then panics on its missing result; with none outstanding both report `Waiting([])`. -/

namespace MeesignServer.Main

/-! ### Runs of one task -/

/-- The states a group task reaches from `GroupTask::new devices threshold` by `update` calls,
    including those an `update` leaves behind when it panics. -/
inductive GroupTask.Reachable (devices : List Bytes) (threshold : Nat) : GroupTask → Prop
  | new {t : GroupTask} : GroupTask.new devices threshold = some t → GroupTask.Reachable devices threshold t
  | update {t : GroupTask} (deviceId payload : Bytes) :
      GroupTask.Reachable devices threshold t →
        GroupTask.Reachable devices threshold (t.update deviceId payload).state

/-- The group that `try_advance` builds for a task over `devices`: the distinct listed devices in some
    order, their concatenation in that order as identifier, and the task's threshold. -/
def Built (devices : List Bytes) (threshold : Nat) (g : Group) : Prop :=
  g.devices.Perm devices.dedup ∧ g.identifier = g.devices.flatten ∧ g.threshold = threshold

namespace SignTask

theorem update_subtasks (t : SignTask) (d p : Bytes) :
    (t.update d p).1.subtasks = if d ∈ t.subtasks then t.subtasks.insert d true else t.subtasks := by
  unfold update; split <;> rfl

/-- The status a sign task reports: `Signed` while some device is outstanding, `Waiting([])` once
    none is. -/
theorem getStatus_eq (t : SignTask) :
    t.getStatus = if waiting t.subtasks = [] then .waiting [] else .signed t.result := by
  unfold getStatus
  split <;> simp_all [List.isEmpty_iff]

end SignTask

namespace GroupTask

@[simp] theorem tryAdvance_subtasks (t : GroupTask) : (tryAdvance t).1.subtasks = t.subtasks := by
  unfold tryAdvance; split <;> rfl

@[simp] theorem tryAdvance_threshold (t : GroupTask) : (tryAdvance t).1.threshold = t.threshold := by
  unfold tryAdvance; split <;> rfl

theorem tryAdvance_result (t : GroupTask) :
    (tryAdvance t).1.result = if t.result = none ∧ waiting t.subtasks = [] then
      some ⟨identifier t.subtasks, t.subtasks.keys, t.threshold⟩ else t.result := by
  unfold tryAdvance
  by_cases h : t.result = none ∧ waiting t.subtasks = []
  · simp [h, all_values_iff.mpr h.2]
  · rw [if_neg h, if_neg]
    rwa [Bool.and_eq_true, Option.isNone_iff_eq_none, all_values_iff]

theorem update_state (t : GroupTask) (d p : Bytes) : (t.update d p).state =
    if d ∈ t.subtasks then (tryAdvance { t with subtasks := t.subtasks.insert d true }).1 else t := by
  unfold update; split <;> rfl

theorem update_value (t : GroupTask) (d p : Bytes) : (t.update d p).value =
    if d ∈ t.subtasks then (t.update d p).state.getStatus.map .ok else some (.error "Incompatible device ID") := by
  unfold update; split <;> rfl

/-- What holds of every group task reachable from `GroupTask::new devices threshold`: its keys are the
    listed devices, and a result is only there once no device is outstanding. -/
structure Inv (devices : List Bytes) (threshold : Nat) (t : GroupTask) : Prop where
  mem : ∀ d, d ∈ t.subtasks ↔ d ∈ devices
  threshold_eq : t.threshold = threshold
  result : ∀ g, t.result = some g → waiting t.subtasks = [] ∧ Built devices threshold g

theorem inv_new {devices : List Bytes} {threshold : Nat} {t : GroupTask}
    (h : GroupTask.new devices threshold = some t) : Inv devices threshold t := by
  unfold GroupTask.new at h
  split at h <;> cases h
  exact ⟨fun _ => mem_newSubtasks, rfl, fun _ h => by cases h⟩

/-- The group `try_advance` builds from a task whose keys are the listed devices. -/
theorem built_of_keys {devices : List Bytes} {threshold : Nat} {m : Map Bytes Bool}
    (hm : ∀ d, d ∈ m ↔ d ∈ devices) : Built devices threshold ⟨identifier m, m.keys, threshold⟩ :=
  ⟨(List.perm_ext_iff_of_nodup (AList.keys_nodup _) (List.nodup_dedup _)).mpr fun d => by
      rw [← AList.mem_keys, hm, List.mem_dedup], identifier_eq m, rfl⟩

theorem inv_update {devices : List Bytes} {threshold : Nat} {t : GroupTask}
    (h : Inv devices threshold t) (d p : Bytes) : Inv devices threshold (t.update d p).state := by
  rw [update_state]
  split
  · rename_i hd
    have hmem : ∀ k, k ∈ t.subtasks.insert d true ↔ k ∈ devices := fun k => (mem_insert_true hd).trans (h.mem k)
    refine ⟨by simpa using hmem, by simpa using h.threshold_eq, fun g hg => ?_⟩
    rw [tryAdvance_result] at hg
    simp only [tryAdvance_subtasks]
    split at hg
    · rename_i hw
      cases hg
      exact ⟨hw.2, h.threshold_eq ▸ built_of_keys hmem⟩
    · obtain ⟨hw, hb⟩ := h.result g hg
      refine ⟨List.eq_nil_iff_forall_not_mem.mpr fun k hk => ?_, hb⟩
      exact List.eq_nil_iff_forall_not_mem.mp hw k (waiting_insert_true hk).1
  · exact h

theorem Reachable.inv {devices : List Bytes} {threshold : Nat} {t : GroupTask}
    (h : Reachable devices threshold t) : Inv devices threshold t := by
  induction h with
  | new h => exact inv_new h
  | update d p _ ih => exact inv_update ih d p

/-- The status a reachable group task reports: a panic while some device is outstanding, since the
    result it unwraps is not there yet, and `Waiting([])` once none is. -/
theorem getStatus_of_inv {devices : List Bytes} {threshold : Nat} {t : GroupTask}
    (h : Inv devices threshold t) :
    t.getStatus = if waiting t.subtasks = [] then some (.waiting []) else none := by
  unfold getStatus
  by_cases hw : waiting t.subtasks = []
  · simp [hw]
  · have : t.result = none := Option.eq_none_iff_forall_not_mem.mpr fun g hg => hw (h.result g hg).1
    simp [hw, this, List.isEmpty_iff]

end GroupTask

/-- `get_status` with a device outstanding: a group task panics, a sign task answers `Signed`. -/
theorem get_status_with_device_outstanding :
    (GroupTask.new [[1]] 1).map GroupTask.getStatus = some none ∧
      (SignTask.new [[1]] []).getStatus = .signed [] := by decide

end MeesignServer.Main
