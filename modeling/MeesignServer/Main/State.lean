import MeesignServer.Main.Status

/-! The `State` of `main.rs` and the four calls of `rpc.rs` that change it. A run starts at
    `State::new` and applies any of them in any order; a call that panics leaves the state it reached.
    In every state of a run no group is stored: `update_task` stores the group of a status
    `GroupEstablished`, which a reachable task never reports. -/

namespace MeesignServer.Main

/-- `State` of `main.rs`. -/
structure State where
  devices : Map Bytes Bytes
  groups : List Group
  tasks : List Task

namespace State

/-- `State::new`. -/
def new : State := ⟨∅, [], []⟩

/-- `add_device`. -/
def addDevice (s : State) (device : Bytes) : State :=
  { s with devices := s.devices.insert device [] }

/-- `HashSet::insert` on `groups`, whose elements are equal when their identifiers are: a group
    with the identifier of one already there leaves the set as it is. -/
def insertGroup (g : Group) (groups : List Group) : List Group :=
  if groups.any (·.identifier == g.identifier) then groups else groups ++ [g]

/-- `add_group_task`: a threshold above the number of listed devices (as a `u32`) or an unknown
    device is refused, otherwise a group task is appended. -/
def addGroupTask (s : State) (devices : List Bytes) (threshold : Nat) : Outcome State Bool :=
  if threshold > devices.length % 4294967296 then ⟨s, some false⟩
  else if devices.all (· ∈ s.devices) then
    match GroupTask.new devices threshold with
    | none => ⟨s, none⟩
    | some t => ⟨{ s with tasks := s.tasks ++ [.group t] }, some true⟩
  else ⟨s, some false⟩

/-- `add_sign_task`: the group is looked up by identifier and unwrapped. -/
def addSignTask (s : State) (group data : Bytes) : Outcome State Unit :=
  match s.groups.find? (·.identifier == group) with
  | none => ⟨s, none⟩
  | some g => ⟨{ s with tasks := s.tasks ++ [.sign (SignTask.new g.devices data)] }, some ()⟩

/-- `get_task`: the task is looked up by index and unwrapped; `none` is a panic. -/
def getTask (s : State) (task : Nat) : Option TaskStatus :=
  s.tasks[task]?.bind Task.getStatus

/-- `get_work`: the task is looked up by index and unwrapped; the outer `none` is a panic. -/
def getWork (s : State) (task : Nat) (device : Bytes) : Option (Option Bytes) :=
  s.tasks[task]?.map (·.getWork device)

/-- `update_task`: the task is looked up by index and unwrapped, updated, and the result of its
    `update` unwrapped; a status `GroupEstablished` stores its group. -/
def updateTask (s : State) (task : Nat) (device data : Bytes) : Outcome State TaskStatus :=
  match s.tasks[task]? with
  | none => ⟨s, none⟩
  | some t =>
    let s' := { s with tasks := s.tasks.set task (t.update device data).state }
    match (t.update device data).value with
    | some (.ok (.groupEstablished g)) => ⟨{ s' with groups := insertGroup g s'.groups }, some (.groupEstablished g)⟩
    | some (.ok status) => ⟨s', some status⟩
    | _ => ⟨s', none⟩

end State

/-! ### Runs -/

/-- A call of `rpc.rs` that changes the state: `register`, `group`, `sign` and `update_task`. -/
inductive Op
  | addDevice (device : Bytes)
  | addGroupTask (devices : List Bytes) (threshold : Nat)
  | addSignTask (group data : Bytes)
  | updateTask (task : Nat) (device data : Bytes)

/-- The state a call leaves, whether it returns or panics. -/
def Op.apply : Op → State → State
  | .addDevice d, s => s.addDevice d
  | .addGroupTask ds t, s => (s.addGroupTask ds t).state
  | .addSignTask g d, s => (s.addSignTask g d).state
  | .updateTask i d p, s => (s.updateTask i d p).state

/-- The states that runs from `State::new` reach. -/
inductive Reachable : State → Prop
  | new : Reachable State.new
  | step {s : State} (op : Op) : Reachable s → Reachable (op.apply s)

/-- What holds in every reachable state: no group is stored, and every task is a group task reached
    from its creation by updates. -/
structure Inv (s : State) : Prop where
  groups : s.groups = []
  tasks : ∀ t ∈ s.tasks, ∃ devices threshold g, t = .group g ∧ GroupTask.Reachable devices threshold g

namespace Inv

variable {s : State}

theorem addDevice (h : Inv s) (d : Bytes) : Inv (s.addDevice d) := ⟨h.groups, h.tasks⟩

theorem addGroupTask (h : Inv s) (ds : List Bytes) (thr : Nat) : Inv (s.addGroupTask ds thr).state := by
  unfold State.addGroupTask
  split
  · exact h
  · split
    · split
      · exact h
      · rename_i t ht
        refine ⟨h.groups, fun u hu => ?_⟩
        rcases List.mem_append.mp hu with hu | hu
        · exact h.tasks u hu
        · exact ⟨ds, thr, t, List.mem_singleton.mp hu, .new ht⟩
    · exact h

theorem addSignTask (h : Inv s) (g d : Bytes) : Inv (s.addSignTask g d).state := by
  unfold State.addSignTask
  rw [h.groups]
  exact h

/-- A reachable group task never reports `GroupEstablished`, so `update_task` stores no group. -/
theorem updateTask (h : Inv s) (i : Nat) (d p : Bytes) : Inv (s.updateTask i d p).state := by
  unfold State.updateTask
  split
  · exact h
  · rename_i t ht
    obtain ⟨ds, thr, g, rfl, hg⟩ := h.tasks t (List.getElem?_mem ht)
    have tasks : ∀ u ∈ s.tasks.set i ((Task.group g).update d p).state,
        ∃ devices threshold g, u = .group g ∧ GroupTask.Reachable devices threshold g := fun u hu => by
      rcases List.mem_or_eq_of_mem_set hu with hu | rfl
      · exact h.tasks u hu
      · exact ⟨ds, thr, _, rfl, .update d p hg⟩
    have hst : (Task.group g).update d p = ⟨.group (g.update d p).state, (g.update d p).value⟩ := rfl
    split
    · rename_i e he
      rw [hst, GroupTask.update_value] at he
      split at he
      · rw [GroupTask.getStatus_of_inv (hg.update d p).inv] at he
        split at he <;> simp at he
      · cases he
    · exact ⟨h.groups, tasks⟩
    · exact ⟨h.groups, tasks⟩

theorem apply (h : Inv s) : ∀ op : Op, Inv (op.apply s)
  | .addDevice d => h.addDevice d
  | .addGroupTask ds t => h.addGroupTask ds t
  | .addSignTask g d => h.addSignTask g d
  | .updateTask i d p => h.updateTask i d p

end Inv

theorem Reachable.inv {s : State} (h : Reachable s) : Inv s := by
  induction h with
  | new => exact ⟨rfl, fun _ h => by cases h⟩
  | step op _ ih => exact ih.apply op

/-- No run of `main.rs` stores a group. -/
theorem Reachable.groups_eq_nil {s : State} (h : Reachable s) : s.groups = [] := h.inv.groups

/-- With one device, the `update_task` that completes a group task answers `Waiting([])` and stores
    no group, although the task has built it; with two, the first device's `update_task` panics. -/
theorem update_task_stores_no_group :
    (((State.new.addDevice [1]).addGroupTask [[1]] 1).state.updateTask 0 [1] []).value =
        some (.waiting []) ∧
      (((State.new.addDevice [1]).addGroupTask [[1]] 1).state.updateTask 0 [1] []).state.groups = [] ∧
      (((State.new.addDevice [1]).addGroupTask [[1]] 1).state.updateTask 0 [1] []).state.tasks.map
          (fun | .group t => t.result | .sign _ => none) = [some ⟨[1], [[1]], 1⟩] ∧
      ((((State.new.addDevice [1]).addDevice [2]).addGroupTask [[1], [2]] 2).state.updateTask 0 [1] []).value =
        none := by decide

end MeesignServer.Main
