import MeesignServer.State.Model

/-! Runs of the orchestrator: any calls of `state.rs` in any order from `State::new`, with the
    subscriber channels in any condition at each call. A call that panics leaves the state it
    reached. A call that adds a task draws its identifier with `Uuid::new_v4`; the model takes the
    draw as an argument and runs take it fresh. This file also says once what `send_updates` does to
    a state: it changes the subscribers and nothing else. -/

namespace MeesignServer

/-- A call of `state.rs` that changes the state, with the identifier `Uuid::new_v4` draws for
    those that add a task. -/
inductive Op
  | addDevice (identifier : Bytes) (name : String)
  | addGroupTask (name : String) (devices : List Bytes) (threshold : Nat) (protocol : ProtocolType)
      (keyType : KeyType) (uuid : Uuid)
  | addSignTask (group : Bytes) (name : String) (data : Bytes) (uuid : Uuid)
  | updateTask (taskId : Uuid) (device data : Bytes)
  | decideTask (taskId : Uuid) (device : Bytes) (decision : Bool)
  | acknowledgeTask (taskId : Uuid) (device : Bytes)
  | restartTask (taskId : Uuid)
  | addSubscriber (deviceId : Bytes) (tx : Sender)
  | removeSubscriber (deviceId : Bytes)

/-- What a call returns. -/
inductive Ret
  | registered (ok : Bool)
  | created (taskId : Option Uuid)
  | updated (result : Except String Bool)
  | decided (change : Bool)
  | restarted (ok : Bool)
  | done

namespace Op

variable {T : Type}

/-- A call on a state, with the channels in the condition `net`. -/
def exec [Task T] : Op → State T → Net → Outcome (State T × Net) Ret
  | .addDevice identifier name, s, net =>
    ⟨((s.addDevice identifier name).1, net), some (.registered (s.addDevice identifier name).2)⟩
  | .addGroupTask name devices threshold protocol keyType uuid, s, net =>
    (s.addGroupTask name devices threshold protocol keyType uuid net).map .created
  | .addSignTask group name data uuid, s, net => (s.addSignTask group name data uuid net).map .created
  | .updateTask taskId device data, s, net => (s.updateTask taskId device data net).map .updated
  | .decideTask taskId device decision, s, net => (s.decideTask taskId device decision net).map .decided
  | .acknowledgeTask taskId device, s, net =>
    ⟨((s.acknowledgeTask taskId device).state, net), (s.acknowledgeTask taskId device).value.map fun _ => .done⟩
  | .restartTask taskId, s, net => ⟨((s.restartTask taskId).1, net), some (.restarted (s.restartTask taskId).2)⟩
  | .addSubscriber deviceId tx, s, net => ⟨(s.addSubscriber deviceId tx, net), some .done⟩
  | .removeSubscriber deviceId, s, net => ⟨(s.removeSubscriber deviceId, net), some .done⟩

/-- The identifier a call draws for the task it adds. -/
def draw : Op → Option Uuid
  | .addGroupTask _ _ _ _ _ uuid => some uuid
  | .addSignTask _ _ _ uuid => some uuid
  | _ => none

/-- The call draws an identifier that no task of `s` has. `Uuid::new_v4` takes 122 random bits, and
    the spec has task identifiers never reused (§3, invariant (d)). -/
def Fresh (op : Op) (s : State T) : Prop :=
  op.draw.all (· ∉ s.tasks) = true

instance (op : Op) (s : State T) : Decidable (op.Fresh s) :=
  inferInstanceAs (Decidable (_ = true))

theorem Fresh.not_mem {op : Op} {s : State T} (h : op.Fresh s) {uuid : Uuid} (hu : op.draw = some uuid) :
    uuid ∉ s.tasks := by
  simpa [Fresh, hu] using h

end Op

variable {T : Type}

section
variable [Task T]

/-- The states that runs from `s` reach. -/
inductive Runs (s : State T) : State T → Prop
  | refl : Runs s s
  | step {s' : State T} (op : Op) (net : Net) : Runs s s' → op.Fresh s' → Runs s (op.exec s' net).state.1

/-- The states that runs from `State::new` reach. -/
def Reachable (s : State T) : Prop :=
  Runs State.new s

theorem Runs.head {s s' : State T} {op : Op} {net : Net} (hop : op.Fresh s)
    (h : Runs (op.exec s net).state.1 s') : Runs s s' := by
  induction h with
  | refl => exact .step op net .refl hop
  | step op' net' _ hf ih => exact .step op' net' ih hf

/-- The state that the calls `ops` leave, made one after another from `s` with the channels in the
    condition `net`. -/
def execAll (net : Net) : List Op → State T → State T
  | [], s => s
  | op :: ops, s => execAll net ops (op.exec s net).state.1

/-- Each call of `ops` draws a fresh identifier in its turn. -/
def allFresh (net : Net) : List Op → State T → Bool
  | [], _ => true
  | op :: ops, s => op.draw.all (· ∉ s.tasks) && allFresh net ops (op.exec s net).state.1

theorem runs_execAll (net : Net) :
    ∀ (ops : List Op) (s : State T), allFresh net ops s = true → Runs s (execAll net ops s)
  | [], _, _ => .refl
  | op :: ops, s, h => by
    simp only [allFresh, Bool.and_eq_true] at h
    exact Runs.head h.1 (runs_execAll net ops _ h.2)

end

/-! ### What `send_updates` changes -/

namespace State

/-- All of a state but its subscribers. -/
def core (s : State T) : Map Bytes Device × Map Bytes Group × Map Uuid T :=
  (s.devices, s.groups, s.tasks)

@[simp] theorem core_removeSubscriber (s : State T) (deviceId : Bytes) :
    (s.removeSubscriber deviceId).core = s.core := rfl

@[simp] theorem core_addSubscriber (s : State T) (deviceId : Bytes) (tx : Sender) :
    (s.addSubscriber deviceId tx).core = s.core := rfl

@[simp] theorem core_foldl_removeSubscriber (l : List Bytes) (s : State T) :
    (l.foldl removeSubscriber s).core = s.core := by
  induction l generalizing s with
  | nil => rfl
  | cons d l ih => rw [List.foldl_cons, ih, core_removeSubscriber]

theorem core_eq_mk {s : State T} {devices : Map Bytes Device} {groups : Map Bytes Group} {tasks : Map Uuid T} :
    s.core = (devices, groups, tasks) ↔ s.devices = devices ∧ s.groups = groups ∧ s.tasks = tasks := by
  simp [core]

theorem core_eq_iff {s₁ s₂ : State T} :
    s₁.core = s₂.core ↔ s₂ = { s₁ with subscribers := s₂.subscribers } := by
  cases s₁; cases s₂; simp [core, and_assoc, eq_comm]

@[simp] theorem outcome_map_state {σ α β : Type} (f : α → β) (o : Outcome σ α) : (o.map f).state = o.state := rfl

@[simp] theorem outcome_map_value {σ α β : Type} (f : α → β) (o : Outcome σ α) :
    (o.map f).value = o.value.map f := rfl

variable [Task T]

@[simp] theorem core_sendUpdates (s : State T) (taskId : Uuid) (net : Net) :
    (s.sendUpdates taskId net).state.1.core = s.core := by
  unfold sendUpdates; split <;> simp

@[simp] theorem value_sendUpdates (s : State T) (taskId : Uuid) (net : Net) :
    (s.sendUpdates taskId net).value = (s.tasks.lookup taskId).map fun _ => () := by
  unfold sendUpdates getTask; split <;> simp_all

@[simp] theorem core_notify (s : State T) (taskId : Uuid) (changed : Bool) (net : Net) :
    (s.notify taskId changed net).state.1.core = s.core := by
  unfold notify; split <;> simp

@[simp] theorem tasks_sendUpdates (s : State T) (taskId : Uuid) (net : Net) :
    (s.sendUpdates taskId net).state.1.tasks = s.tasks :=
  congrArg (fun c => c.2.2) (core_sendUpdates s taskId net)

@[simp] theorem tasks_notify (s : State T) (taskId : Uuid) (changed : Bool) (net : Net) :
    (s.notify taskId changed net).state.1.tasks = s.tasks :=
  congrArg (fun c => c.2.2) (core_notify s taskId changed net)

@[simp] theorem value_notify (s : State T) (taskId : Uuid) (changed : Bool) (net : Net) :
    (s.notify taskId changed net).value = if changed then (s.tasks.lookup taskId).map fun _ => () else some () := by
  unfold notify; split <;> simp

end State

end MeesignServer
