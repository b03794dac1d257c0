import MeesignServer.Basic
import Mathlib.Data.List.Dedup

/-! The tasks of `main.rs`. A `SignTask` and a `GroupTask` keep in `subtasks` whether each of their
    devices has sent its update; a group task builds its group in `try_advance` once all have. The
    trait object `Box<dyn Task>` is the sum `Task` of the two. -/

namespace MeesignServer.Main

/-- Modelled from the spec: `crate::group::Group`, whose code is not in the source. A group has a
    byte identifier, its member devices and a threshold (§3). Its equality is that of identifiers,
    as the lookup of `State.groups` by a byte string requires. -/
structure Group where
  identifier : Bytes
  devices : List Bytes
  threshold : Nat
deriving DecidableEq, Repr

/-- The statuses of `crate::task::TaskStatus`, with the payloads `rpc.rs` reads from them. -/
inductive TaskStatus
  | waiting (devices : List Bytes)
  | signed (signature : Bytes)
  | groupEstablished (group : Group)
  | failed (reason : Bytes)
deriving DecidableEq, Repr

/-! ### Subtasks -/

/-- The loop of `SignTask::new` and `GroupTask::new`: each listed device starts without an update. -/
def newSubtasks (devices : List Bytes) : Map Bytes Bool :=
  devices.foldl (fun subtasks device => subtasks.insert device false) ∅

/-- The devices that `get_status` waits for: the keys whose value is `false`, in iteration order. -/
def waiting (subtasks : Map Bytes Bool) : List Bytes :=
  (subtasks.entries.filter fun e => !e.2).map (·.1)

theorem lookup_foldl_insert (d : Bytes) :
    ∀ (devices : List Bytes) (m : Map Bytes Bool),
      (devices.foldl (fun subtasks device => subtasks.insert device false) m).lookup d =
        if d ∈ devices then some false else m.lookup d
  | [], m => by simp
  | x :: xs, m => by
    rw [List.foldl_cons, lookup_foldl_insert d xs]
    by_cases hx : d = x
    · subst hx; simp
    · simp [hx, AList.lookup_insert_ne hx]

theorem lookup_newSubtasks (devices : List Bytes) (d : Bytes) :
    (newSubtasks devices).lookup d = if d ∈ devices then some false else none := by
  simp [newSubtasks, lookup_foldl_insert]

@[simp] theorem mem_newSubtasks {devices : List Bytes} {d : Bytes} :
    d ∈ newSubtasks devices ↔ d ∈ devices := by
  rw [← AList.lookup_isSome, lookup_newSubtasks]
  split <;> simp_all

/-- The keys of a new subtasks map are the distinct listed devices. -/
theorem keys_newSubtasks_perm (devices : List Bytes) :
    (newSubtasks devices).keys.Perm devices.dedup :=
  (List.perm_ext_iff_of_nodup (AList.keys_nodup _) (List.nodup_dedup _)).mpr fun d => by
    rw [← AList.mem_keys, mem_newSubtasks, List.mem_dedup]

theorem mem_waiting {m : Map Bytes Bool} {d : Bytes} : d ∈ waiting m ↔ m.lookup d = some false := by
  rw [← Option.mem_def, AList.mem_lookup_iff]
  simp only [waiting, List.mem_map, List.mem_filter, Bool.not_eq_true']
  constructor
  · rintro ⟨⟨k, v⟩, ⟨he, hv⟩, rfl⟩
    simp only at hv
    exact hv ▸ he
  · exact fun h => ⟨_, ⟨h, rfl⟩, rfl⟩

theorem waiting_eq_nil {m : Map Bytes Bool} : waiting m = [] ↔ ∀ d, m.lookup d ≠ some false := by
  rw [List.eq_nil_iff_forall_not_mem]
  exact forall_congr' fun d => not_congr mem_waiting

/-- Every value of the map is `true`: the test `values().all(|x| *x)` of `try_advance`. -/
theorem all_values_iff {m : Map Bytes Bool} :
    m.entries.all (·.2) = true ↔ waiting m = [] := by
  rw [waiting_eq_nil, List.all_eq_true]
  constructor
  · intro h d hd
    have := h _ (AList.mem_lookup_iff.mp hd)
    simp at this
  · rintro h ⟨k, v⟩ he
    cases v
    · exact absurd (AList.mem_lookup_iff.mpr he) (h k)
    · rfl

/-- Marking a device of the map as updated keeps the key set and only shrinks `waiting`. -/
theorem mem_insert_true {m : Map Bytes Bool} {d k : Bytes} (hd : d ∈ m) :
    k ∈ m.insert d true ↔ k ∈ m := by
  rw [AList.mem_insert]
  exact ⟨fun h => h.elim (· ▸ hd) id, Or.inr⟩

theorem waiting_insert_true {m : Map Bytes Bool} {d k : Bytes} (hk : k ∈ waiting (m.insert d true)) :
    k ∈ waiting m ∧ k ≠ d := by
  rw [mem_waiting] at hk ⊢
  by_cases h : k = d
  · subst h; simp at hk
  · rw [AList.lookup_insert_ne h] at hk
    exact ⟨hk, h⟩

/-! ### Sign tasks -/

/-- `SignTask` of `main.rs`. -/
structure SignTask where
  subtasks : Map Bytes Bool
  data : Bytes
  result : Bytes

namespace SignTask

/-- `SignTask::new`. -/
def new (devices : List Bytes) (data : Bytes) : SignTask :=
  { subtasks := newSubtasks devices, data, result := [] }

/-- `get_status`, as written: an empty `waiting` gives `Waiting`, a non-empty one `Signed`. -/
def getStatus (t : SignTask) : TaskStatus :=
  if (waiting t.subtasks).isEmpty then .waiting (waiting t.subtasks) else .signed t.result

/-- `update`: a device of the task is marked as updated, any other is refused. -/
def update (t : SignTask) (deviceId _data : Bytes) : SignTask × Except String TaskStatus :=
  if deviceId ∈ t.subtasks then
    let t' := { t with subtasks := t.subtasks.insert deviceId true }
    (t', .ok t'.getStatus)
  else (t, .error "Incompatible device ID")

/-- `get_work`: the data, to a device that has already sent its update. -/
def getWork (t : SignTask) (deviceId : Bytes) : Option Bytes :=
  if !(t.subtasks.lookup deviceId).getD false then none else some t.data

end SignTask

/-! ### Group tasks -/

/-- `GroupTask` of `main.rs`. -/
structure GroupTask where
  subtasks : Map Bytes Bool
  threshold : Nat
  result : Option Group

namespace GroupTask

/-- `GroupTask::new`, whose `assert!(threshold <= devices.len() as u32)` panics otherwise; the cast
    keeps the length modulo 2^32. -/
def new (devices : List Bytes) (threshold : Nat) : Option GroupTask :=
  if threshold ≤ devices.length % 4294967296 then
    some { subtasks := newSubtasks devices, threshold, result := none }
  else none

/-- The loop of `try_advance` that builds the group identifier: the keys of `subtasks`, each
    appended in iteration order. -/
def identifier (subtasks : Map Bytes Bool) : Bytes :=
  subtasks.keys.foldl (fun identifier device => identifier ++ device) []

/-- `try_advance`: once every device has sent its update, and only the first time, the group of the
    keys of `subtasks` and the task's threshold becomes the result. -/
def tryAdvance (t : GroupTask) : GroupTask × Bool :=
  if t.result.isNone && t.subtasks.entries.all (·.2) then
    ({ t with result := some ⟨identifier t.subtasks, t.subtasks.keys, t.threshold⟩ }, true)
  else (t, false)

/-- `get_status`, as written: an empty `waiting` gives `Waiting`, a non-empty one unwraps the
    result, which panics while there is none. -/
def getStatus (t : GroupTask) : Option TaskStatus :=
  if (waiting t.subtasks).isEmpty then some (.waiting (waiting t.subtasks))
  else t.result.map .groupEstablished

/-- `update`: a device of the task is marked as updated, then the task tries to advance and reads
    its status, which may panic after the task has changed. -/
def update (t : GroupTask) (deviceId _data : Bytes) : Outcome GroupTask (Except String TaskStatus) :=
  if deviceId ∈ t.subtasks then
    let t' := (tryAdvance { t with subtasks := t.subtasks.insert deviceId true }).1
    ⟨t', t'.getStatus.map .ok⟩
  else ⟨t, some (.error "Incompatible device ID")⟩

/-- `get_work`: a fixed payload, to a device that has already sent its update. -/
def getWork (t : GroupTask) (deviceId : Bytes) : Option Bytes :=
  if !(t.subtasks.lookup deviceId).getD false then none else some [1, 2, 3, 4]

theorem identifier_eq (m : Map Bytes Bool) : identifier m = m.keys.flatten := by
  simp [identifier, foldl_append_eq_flatten]

end GroupTask

/-! ### Tasks -/

/-- A `Box<dyn Task + Send + Sync>` of `State.tasks`. -/
inductive Task
  | sign (t : SignTask)
  | group (t : GroupTask)

namespace Task

def subtasks : Task → Map Bytes Bool
  | .sign t => t.subtasks
  | .group t => t.subtasks

def getStatus : Task → Option TaskStatus
  | .sign t => some t.getStatus
  | .group t => t.getStatus

def update : Task → Bytes → Bytes → Outcome Task (Except String TaskStatus)
  | .sign t, deviceId, data => ⟨.sign (t.update deviceId data).1, some (t.update deviceId data).2⟩
  | .group t, deviceId, data => ⟨.group (t.update deviceId data).state, (t.update deviceId data).value⟩

def getWork : Task → Bytes → Option Bytes
  | .sign t => t.getWork
  | .group t => t.getWork

end Task

end MeesignServer.Main
