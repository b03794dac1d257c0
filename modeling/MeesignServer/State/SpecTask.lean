import MeesignServer.State.Laws

/-! The tasks of `crate::tasks`, modelled from the spec since their code is not in the source: a
    group task and a PDF signing task whose protocol takes one round, in which each device posts its
    payload, and which a reject by one device fails. They implement the trait `Task` and satisfy
    `LawfulTask`. -/

namespace MeesignServer

/-- Modelled from the spec: what a task of `crate::tasks` computes (§4.5), a group with a name and a
    threshold, or the signature of the data of a PDF document named `name` under a group. -/
inductive SpecTask.Kind
  | group (name : String) (threshold : Nat)
  | signPDF (group : Group) (name : String) (data : Bytes)
deriving DecidableEq

/-- Modelled from the spec: a task of `crate::tasks` (`GroupTask`, `SignPDFTask`), whose code is
    not in the source (§3, §4.5). Its protocol runs one round in which each device posts its
    payload, as in scenario A (§8); `done` holds the payload that completed it. A reject by one of
    its devices fails it, and it records acceptances and acknowledgements. -/
structure SpecTask where
  kind : SpecTask.Kind
  devices : List Device
  posted : List Bytes
  accepted : List Bytes
  acknowledged : List Bytes
  done : Option Bytes
  failure : Option String
deriving DecidableEq

namespace SpecTask

/-- The devices that have not posted yet. -/
def pending (t : SpecTask) : List Bytes :=
  (t.devices.map (·.identifier)).filter (· ∉ t.posted)

/-- Waiting for the pending devices, finished once the round is complete, failed once rejected. -/
def getStatus (t : SpecTask) : TaskStatus :=
  match t.failure with
  | some reason => .failed reason
  | none => if t.done.isSome then .finished else .waiting t.pending

/-- The result of a finished task: for a group task the group of its devices, whose identifier is
    the concatenation of theirs (§4.5), for a signing task the completing payload. -/
def getResult (t : SpecTask) : Option TaskResult :=
  t.done.map fun payload =>
    match t.kind with
    | .group name threshold =>
      .groupEstablished ⟨(t.devices.map (·.identifier)).flatten, name, t.devices, threshold, .gg18⟩
    | .signPDF _ _ _ => .signed payload

def hasDevice (t : SpecTask) (device : Bytes) : Bool :=
  t.devices.any (·.identifier == device)

/-- Failed or finished. -/
def terminal (t : SpecTask) : Bool :=
  t.failure.isSome || t.done.isSome

/-- A device of the task posts its payload once; the last one completes the task. A device outside
    the task is refused (§4.5). -/
def update (t : SpecTask) (device data : Bytes) : SpecTask × Except String Bool :=
  if !t.hasDevice device then (t, .error "Unknown device")
  else if t.terminal || device ∈ t.posted then (t, .ok false)
  else
    let t' := { t with posted := device :: t.posted }
    if t'.pending = [] then ({ t' with done := some data }, .ok true) else (t', .ok true)

/-- A reject by a device of a running task fails it; an acceptance is recorded once (§4.5). -/
def decide (t : SpecTask) (device : Bytes) (decision : Bool) : SpecTask × Bool :=
  if !t.hasDevice device || t.terminal then (t, false)
  else if !decision then ({ t with failure := some "Task rejected" }, true)
  else if device ∈ t.accepted then (t, false)
  else ({ t with accepted := device :: t.accepted }, true)

def acknowledge (t : SpecTask) (device : Bytes) : SpecTask :=
  { t with acknowledged := t.acknowledged.insert device }

/-- A restart clears the round of a running task; a finished task refuses it (§4.5). -/
def restart (t : SpecTask) : SpecTask × Except String Bool :=
  if t.done.isSome then (t, .error "Task already finished")
  else if t.failure.isSome then (t, .ok false)
  else ({ t with posted := [] }, .ok true)

/-- A group task over `devices`; constructing one with a threshold above their number is a fatal
    precondition violation (§4.5). -/
def newGroupTask (name : String) (devices : List Device) (threshold : Nat) : Option SpecTask :=
  if threshold ≤ devices.length then some ⟨.group name threshold, devices, [], [], [], none, none⟩ else none

/-- A signing task over the devices of its group. -/
def newSignPDFTask (g : Group) (name : String) (data : Bytes) : SpecTask :=
  ⟨.signPDF g name data, g.devices, [], [], [], none, none⟩

instance : Task SpecTask where
  newGroupTask := newGroupTask
  newSignPDFTask := newSignPDFTask
  getStatus := getStatus
  getResult := getResult
  update := update
  decide := decide
  acknowledge := acknowledge
  restart := restart
  hasDevice := hasDevice
  deviceAcknowledged t device := device ∈ t.acknowledged
  getDevices := devices

theorem getStatus_eq_finished {t : SpecTask} :
    getStatus t = .finished ↔ t.failure = none ∧ t.done.isSome = true := by
  cases t with
  | mk kind devices posted accepted acknowledged done failure =>
    cases failure <;> cases done <;> simp [getStatus]

theorem terminal_of_finished {t : SpecTask} (h : getStatus t = .finished) : t.terminal = true := by
  simp [terminal, (getStatus_eq_finished.mp h).2]

/-- A method that keeps the devices and the acknowledgements, and leaves a terminal task as it is. -/
theorem follows_of_frame {t t' : SpecTask} (hdev : t'.devices = t.devices)
    (hack : t'.acknowledged = t.acknowledged) (hterm : t.terminal = true → t' = t) : Task.Follows t t' :=
  ⟨hdev, fun d h => by simpa [Task.deviceAcknowledged, hack] using h,
    fun h => by rw [hterm (terminal_of_finished h)]; exact h⟩

theorem follows_update (t : SpecTask) (device data : Bytes) : Task.Follows t (update t device data).1 := by
  refine follows_of_frame ?_ ?_ fun h => ?_ <;> unfold update <;> dsimp only <;> split_ifs <;> simp_all

theorem follows_decide (t : SpecTask) (device : Bytes) (decision : Bool) :
    Task.Follows t (decide t device decision).1 := by
  refine follows_of_frame ?_ ?_ fun h => ?_ <;> unfold decide <;> split_ifs <;> simp_all

theorem follows_restart (t : SpecTask) : Task.Follows t (restart t).1 := by
  refine follows_of_frame ?_ ?_ fun h => ?_ <;> unfold restart <;> split_ifs <;> simp_all [terminal]

theorem follows_acknowledge (t : SpecTask) (device : Bytes) : Task.Follows t (acknowledge t device) :=
  ⟨rfl, fun d h => by simp_all [Task.deviceAcknowledged, acknowledge, List.mem_insert_iff],
    fun h => by simpa [Task.getStatus, getStatus, acknowledge] using h⟩

theorem devices_newGroupTask {name : String} {devices : List Device} {threshold : Nat} {t : SpecTask}
    (h : newGroupTask name devices threshold = some t) : t.devices = devices := by
  unfold newGroupTask at h
  split at h <;> cases h
  rfl

theorem result_devices {t : SpecTask} {g : Group} (h : getResult t = some (.groupEstablished g)) :
    ∀ d ∈ g.devices, d ∈ t.devices := by
  simp only [getResult, Option.map_eq_some'] at h
  obtain ⟨_, -, h⟩ := h
  split at h <;> cases h
  exact fun _ => id

theorem mem_acknowledged_acknowledge (t : SpecTask) (device : Bytes) : device ∈ (acknowledge t device).acknowledged :=
  List.mem_insert_self device t.acknowledged

instance : LawfulTask SpecTask where
  getDevices_newGroupTask := devices_newGroupTask
  getDevices_newSignPDFTask _ _ _ := rfl
  result_devices := result_devices
  follows_update := follows_update
  follows_decide := follows_decide
  follows_acknowledge := follows_acknowledge
  follows_restart := follows_restart
  acknowledge_acknowledged t device := decide_eq_true (mem_acknowledged_acknowledge t device)
  getStatus_acknowledge _ _ := rfl

end SpecTask

end MeesignServer
