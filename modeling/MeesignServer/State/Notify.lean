import MeesignServer.State.Step
import MeesignServer.State.SpecTask

/-! Notification never decides anything. The only place a call reads the subscribers or the channels
    is `send_updates`, which changes nothing but the subscribers, so what a call returns and what it
    does to the devices, groups and tasks depend on neither; by induction, two runs of the same calls
    whose channels differ agree on all of it. `send_updates` itself removes exactly the devices whose
    `try_send` failed, all of them devices of the notified task with a subscriber. A call notifies only
    when its answer reports a change, so a call that panics or reports none sends nothing; only a
    failed `try_send` drops a subscriber, so none whose channel has a free place for every device of
    the notified task is dropped. A call sends only to subscribers of the devices of the task it
    adds, updates or decides. A call that panics leaves everything as it was but the task an
    `update_task` updated before panicking. -/

namespace MeesignServer

variable {T : Type}

namespace State

@[simp] theorem core_with_subscribers (s : State T) (subscribers : Map Bytes Sender) :
    ({ s with subscribers := subscribers } : State T).core = s.core := rfl

/-! ### `send_updates` -/

theorem lookup_foldl_removeSubscriber (k : Bytes) :
    ∀ (l : List Bytes) (s : State T),
      (l.foldl removeSubscriber s).subscribers.lookup k = if k ∈ l then none else s.subscribers.lookup k
  | [], s => by simp
  | d :: l, s => by
    rw [List.foldl_cons, lookup_foldl_removeSubscriber k l]
    by_cases hk : k = d
    · subst hk; simp [removeSubscriber, AList.lookup_erase]
    · simp [removeSubscriber, hk, AList.lookup_erase_ne hk]

/-- A channel that is closed or full. -/
theorem trySend_of_failing {net : Net} {tx : Sender} (h : net tx.channel = .closed ∨ net tx.channel = .open 0) :
    net.trySend tx = (net, false) := by
  rcases h with h | h <;> simp [Net.trySend, h]

/-- A channel that is closed or full stays so through any `try_send`. -/
theorem trySend_keeps_failing {net : Net} {c : Nat} (h : net c = .closed ∨ net c = .open 0) (tx : Sender) :
    (net.trySend tx).1 c = .closed ∨ (net.trySend tx).1 c = .open 0 := by
  unfold Net.trySend
  split
  · rename_i room hroom
    by_cases hc : c = tx.channel
    · subst hc
      rw [hroom] at h
      simp at h
    · dsimp only
      rwa [Function.update_noteq hc]
  · exact h

/-- The `try_send` of the first loop of `send_updates` fails for a listed device whose subscriber's
    channel is closed or full when the loop starts. -/
theorem mem_trySends_failed {subscribers : Map Bytes Sender} {d : Bytes} {tx : Sender}
    (hsub : subscribers.lookup d = some tx) :
    ∀ {net : Net} {deviceIds : List Bytes}, (net tx.channel = .closed ∨ net tx.channel = .open 0) →
      d ∈ deviceIds → d ∈ (trySends subscribers net deviceIds).2
  | _, [], _, hd => absurd hd (List.not_mem_nil d)
  | net, d' :: ds, hfail, hd => by
    unfold trySends
    split
    · rename_i hnone
      have hne : d ≠ d' := by
        rintro rfl
        rw [hsub] at hnone
        cases hnone
      exact mem_trySends_failed hsub hfail (List.mem_of_ne_of_mem hne hd)
    · rename_i tx' htx'
      by_cases hd' : d = d'
      · subst hd'
        obtain rfl : tx' = tx := Option.some.inj (htx'.symm.trans hsub)
        simp [trySend_of_failing hfail]
      · have hrest := mem_trySends_failed hsub (trySend_keeps_failing hfail tx') (List.mem_of_ne_of_mem hd' hd)
        dsimp only
        split <;> simp [hrest]

theorem trySend_of_room {net : Net} {tx : Sender} {room : Nat} (h : net tx.channel = .open (room + 1)) :
    net.trySend tx = (Function.update net tx.channel (.open room), true) := by
  simp [Net.trySend, h]

theorem trySend_other {net : Net} {tx : Sender} {c : Nat} (hc : c ≠ tx.channel) : (net.trySend tx).1 c = net c := by
  unfold Net.trySend
  split
  · exact Function.update_noteq hc _ _
  · rfl

/-- The first loop of `send_updates` never fails on a channel with a free place for every listed
    device: each `try_send` takes at most one place of it. -/
theorem not_mem_trySends_failed {subscribers : Map Bytes Sender} {d : Bytes} {tx : Sender}
    (hsub : subscribers.lookup d = some tx) :
    ∀ {net : Net} {deviceIds : List Bytes} {room : Nat}, net tx.channel = .open room → deviceIds.length ≤ room →
      d ∉ (trySends subscribers net deviceIds).2
  | _, [], _, _, _ => List.not_mem_nil d
  | net, d' :: ds, room, hroom, hlen => by
    rw [List.length_cons] at hlen
    unfold trySends
    split
    · exact not_mem_trySends_failed hsub hroom (by omega)
    · rename_i tx' htx'
      dsimp only
      by_cases hc : tx'.channel = tx.channel
      · obtain ⟨r, rfl⟩ : ∃ r, room = r + 1 := ⟨room - 1, by omega⟩
        have hroom' : Function.update net tx'.channel (.open r) tx.channel = .open r := by
          rw [hc, Function.update_same]
        rw [trySend_of_room (hc ▸ hroom)]
        exact not_mem_trySends_failed hsub hroom' (by omega)
      · have hd' : d ≠ d' := by
          rintro rfl
          exact hc (congrArg Sender.channel (Option.some.inj (htx'.symm.trans hsub)))
        have hroom' : (net.trySend tx').1 tx.channel = .open room := by rw [trySend_other (Ne.symm hc), hroom]
        have hrest : d ∉ (trySends subscribers (net.trySend tx').1 ds).2 := not_mem_trySends_failed hsub hroom' (by omega)
        split <;> simp [hrest, hd']

/-- The first loop of `send_updates` changes only the channels of subscribers of listed devices. -/
theorem trySends_channel {subscribers : Map Bytes Sender} {c : Nat} :
    ∀ {net : Net} {deviceIds : List Bytes}, (trySends subscribers net deviceIds).1 c ≠ net c →
      ∃ d ∈ deviceIds, ∃ tx, subscribers.lookup d = some tx ∧ tx.channel = c
  | _, [], h => absurd rfl h
  | net, d :: ds, h => by
    unfold trySends at h
    split at h
    · obtain ⟨d', hd', hrest⟩ := trySends_channel h
      exact ⟨d', List.mem_cons_of_mem d hd', hrest⟩
    · rename_i tx htx
      dsimp only at h
      by_cases hrest : (trySends subscribers (net.trySend tx).1 ds).1 c = (net.trySend tx).1 c
      · refine ⟨d, List.mem_cons_self d ds, tx, htx, ?_⟩
        by_contra hc
        exact h (hrest.trans (trySend_other (Ne.symm hc)))
      · obtain ⟨d', hd', hsub⟩ := trySends_channel hrest
        exact ⟨d', List.mem_cons_of_mem d hd', hsub⟩

/-- The first loop of `send_updates` over two lists runs the second from the channels the first
    leaves, and fails on the devices of both. -/
theorem trySends_append (subscribers : Map Bytes Sender) :
    ∀ (net : Net) (pre rest : List Bytes), trySends subscribers net (pre ++ rest) =
      ((trySends subscribers (trySends subscribers net pre).1 rest).1,
        (trySends subscribers net pre).2 ++ (trySends subscribers (trySends subscribers net pre).1 rest).2)
  | _, [], _ => rfl
  | net, d :: pre, rest => by
    simp only [List.cons_append, trySends]
    split
    · exact trySends_append subscribers net pre rest
    · simp only [List.append_eq, trySends_append subscribers _ pre rest]
      split <;> rfl

/-- A device is on the failed list of the first loop of `send_updates` exactly when it is listed,
    has a subscriber, and the `try_send` to that subscriber, made on the channels the loop left
    before it, fails. -/
theorem mem_trySends_failed_iff {subscribers : Map Bytes Sender} {k : Bytes} :
    ∀ {net : Net} {deviceIds : List Bytes}, k ∈ (trySends subscribers net deviceIds).2 ↔
      ∃ pre post tx, deviceIds = pre ++ k :: post ∧ subscribers.lookup k = some tx ∧
        ((trySends subscribers net pre).1.trySend tx).2 = false
  | _, [] => by simp [trySends]
  | net, d :: ds => by
    constructor
    · intro h
      unfold trySends at h
      split at h
      · rename_i hnone
        obtain ⟨pre, post, tx, rfl, hk, hsend⟩ := mem_trySends_failed_iff.mp h
        exact ⟨d :: pre, post, tx, rfl, hk, by simpa [trySends, hnone] using hsend⟩
      · rename_i tx htx
        have hlater : k ∈ (trySends subscribers (net.trySend tx).1 ds).2 →
            ∃ pre post tx', d :: ds = pre ++ k :: post ∧ subscribers.lookup k = some tx' ∧
              ((trySends subscribers net pre).1.trySend tx').2 = false := fun h' => by
          obtain ⟨pre, post, tx', rfl, hk, hsend⟩ := mem_trySends_failed_iff.mp h'
          exact ⟨d :: pre, post, tx', rfl, hk, by simpa [trySends, htx] using hsend⟩
        dsimp only at h
        split at h
        · exact hlater h
        · rename_i hfail
          rcases List.mem_cons.mp h with rfl | h
          · exact ⟨[], ds, tx, rfl, htx, by simpa [trySends] using hfail⟩
          · exact hlater h
    · rintro ⟨pre, post, tx, heq, hk, hsend⟩
      rw [heq, trySends_append, List.mem_append]
      right
      simp [trySends, hk, hsend]

variable [Task T]

/-! ### One call -/

/-- A call on two states that differ only in their subscribers, with the channels in any two
    conditions, returns the same value and leaves the same devices, groups and tasks. Each branch of
    the call is chosen by the devices, groups and tasks only, and its `send_updates` keeps them and
    answers from the tasks. -/
theorem exec_core_congr (op : Op) (s : State T) (subscribers : Map Bytes Sender) (net₁ net₂ : Net) :
    (op.exec s net₁).state.1.core = (op.exec { s with subscribers := subscribers } net₂).state.1.core ∧
      (op.exec s net₁).value = (op.exec { s with subscribers := subscribers } net₂).value := by
  cases op with
  | addDevice identifier name =>
    -- the name and the devices
    simp only [Op.exec, addDevice]
    split_ifs <;> exact ⟨rfl, rfl⟩
  | addGroupTask name devices threshold protocol keyType uuid =>
    -- the name, the devices and `GroupTask::new`
    simp only [Op.exec, addGroupTask]
    split_ifs
    · exact ⟨rfl, rfl⟩
    split
    · exact ⟨rfl, rfl⟩
    split
    · exact ⟨rfl, rfl⟩
    · simp only [outcome_map_state, outcome_map_value, core_sendUpdates, value_sendUpdates]
      exact ⟨rfl, rfl⟩
  | addSignTask group name data uuid =>
    -- the request and the groups
    simp only [Op.exec, addSignTask]
    split_ifs
    · exact ⟨rfl, rfl⟩
    split
    · exact ⟨rfl, rfl⟩
    · simp only [outcome_map_state, outcome_map_value, core_sendUpdates, value_sendUpdates]
      exact ⟨rfl, rfl⟩
  | updateTask taskId device data =>
    -- the task, its status before and after, and its result
    simp only [Op.exec, updateTask]
    split
    · exact ⟨rfl, rfl⟩
    split_ifs
    · split <;> simp only [outcome_map_state, outcome_map_value, core_notify, value_notify, and_true] <;> rfl
    · simp only [outcome_map_state, outcome_map_value, core_notify, value_notify, and_true]
      rfl
  | decideTask taskId device decision =>
    -- the task
    simp only [Op.exec, decideTask]
    split
    · exact ⟨rfl, rfl⟩
    · simp only [outcome_map_state, outcome_map_value, core_notify, value_notify, and_true]
      rfl
  | acknowledgeTask taskId device =>
    -- the task
    simp only [Op.exec, acknowledgeTask]
    split <;> exact ⟨rfl, rfl⟩
  | restartTask taskId =>
    -- the task
    simp only [Op.exec, restartTask]
    split <;> exact ⟨rfl, rfl⟩
  | addSubscriber deviceId tx => exact ⟨rfl, rfl⟩
  | removeSubscriber deviceId => exact ⟨rfl, rfl⟩

/-- `send_updates` on a task of the state keeps its devices, groups and tasks, and removes the
    subscribers of exactly the devices whose `try_send` failed. -/
theorem sendUpdates_subscribers (s : State T) (taskId : Uuid) (task : T) (net : Net)
    (h : s.tasks.lookup taskId = some task) :
    (s.sendUpdates taskId net).state.1.core = s.core ∧
      ∀ k, (s.sendUpdates taskId net).state.1.subscribers.lookup k =
        if k ∈ (trySends s.subscribers net ((Task.getDevices task).map (·.identifier))).2 then none
        else s.subscribers.lookup k := by
  have hs : s.sendUpdates taskId net = ⟨((trySends s.subscribers net
      ((Task.getDevices task).map (·.identifier))).2.foldl removeSubscriber s,
      (trySends s.subscribers net ((Task.getDevices task).map (·.identifier))).1), some ()⟩ := by
    simp [sendUpdates, getTask, h]
  rw [hs]
  exact ⟨core_foldl_removeSubscriber _ _, fun k => lookup_foldl_removeSubscriber k _ _⟩

/-- `send_updates` on a task of the state drops the subscriber of each device of the task whose
    channel is closed or full. -/
theorem sendUpdates_drops_failing {s : State T} {taskId : Uuid} {task : T} (ht : s.tasks.lookup taskId = some task)
    {net : Net} {d : Bytes} {tx : Sender} (hsub : s.subscribers.lookup d = some tx)
    (hfail : net tx.channel = .closed ∨ net tx.channel = .open 0) (hd : d ∈ (Task.getDevices task).map (·.identifier)) :
    (s.sendUpdates taskId net).state.1.subscribers.lookup d = none := by
  rw [(sendUpdates_subscribers s taskId task net ht).2 d, if_pos (mem_trySends_failed hsub hfail hd)]

/-- `send_updates` changes only the channels of subscribers of devices of the task. -/
theorem sendUpdates_channel {s : State T} {taskId : Uuid} {task : T} (ht : s.tasks.lookup taskId = some task)
    {net : Net} {c : Nat} (h : (s.sendUpdates taskId net).state.2 c ≠ net c) :
    ∃ d ∈ (Task.getDevices task).map (·.identifier), ∃ tx, s.subscribers.lookup d = some tx ∧ tx.channel = c := by
  simp only [sendUpdates, getTask, ht] at h
  exact trySends_channel h

/-- `update_task` on a task of the state replaces the task by its update, on a state with the same
    subscribers, and then either panics, leaving the channels, or makes the `send_updates` that the
    update asks for. -/
theorem updateTask_of_lookup {s : State T} {taskId : Uuid} {task : T} (ht : s.tasks.lookup taskId = some task)
    (device data : Bytes) (net : Net) :
    ∃ s₁ : State T, s₁.subscribers = s.subscribers ∧ s₁.tasks.lookup taskId = some (Task.update task device data).1 ∧
      (s.updateTask taskId device data net = ⟨(s₁, net), none⟩ ∨
        s.updateTask taskId device data net =
          (s₁.notify taskId (okTrue (Task.update task device data).2) net).map fun _ => (Task.update task device data).2) := by
  unfold updateTask
  simp only [ht]
  split
  · split
    · refine ⟨_, ?_, ?_, .inl rfl⟩ <;> simp
    all_goals refine ⟨_, ?_, ?_, .inr rfl⟩ <;> simp
  · refine ⟨_, ?_, ?_, .inr rfl⟩ <;> simp

/-- `decide_task` on a task of the state replaces the task by its decision and makes the
    `send_updates` that the decision asks for. -/
theorem decideTask_of_lookup {s : State T} {taskId : Uuid} {task : T} (ht : s.tasks.lookup taskId = some task)
    (device : Bytes) (decision : Bool) (net : Net) :
    s.decideTask taskId device decision net =
      ({ s with tasks := s.tasks.insert taskId (Task.decide task device decision).1 }.notify taskId
        (Task.decide task device decision).2 net).map fun _ => (Task.decide task device decision).2 := by
  simp [decideTask, ht]

/-- `update_task` panics on a task of the state only when the update turns it `Finished` with no
    result, whose unwrapping panics after the task has been updated in place. -/
theorem updateTask_of_panic {s : State T} {taskId : Uuid} {task : T} (ht : s.tasks.lookup taskId = some task)
    {device data : Bytes} {net : Net} (h : (s.updateTask taskId device data net).value = none) :
    Task.getStatus task ≠ .finished ∧ Task.getStatus (Task.update task device data).1 = .finished ∧
      Task.getResult (Task.update task device data).1 = none ∧
      s.updateTask taskId device data net =
        ⟨({ s with tasks := s.tasks.insert taskId (Task.update task device data).1 }, net), none⟩ := by
  unfold updateTask at h ⊢
  simp only [ht] at h ⊢
  split_ifs at h ⊢ with hflip
  · simp only [Bool.and_eq_true, bne_iff_ne, ne_eq, beq_iff_eq] at hflip
    split at h
    · rename_i hres
      exact ⟨hflip.1, hflip.2, hres, by simp only [hres]⟩
    all_goals simp at h
  · simp at h

end State

variable [Task T]

/-! ### Runs -/

/-- The values and the final state of the calls `ops` made one after another from `s`, the `i`-th
    with the channels in the condition `nets i`. -/
def runCalls (nets : Nat → Net) : List Op → State T → List (Option Ret) × State T
  | [], s => ([], s)
  | op :: ops, s =>
    let rest := runCalls (fun i => nets (i + 1)) ops (op.exec s (nets 0)).state.1
    ((op.exec s (nets 0)).value :: rest.1, rest.2)

theorem exec_congr (op : Op) {s₁ s₂ : State T} (h : s₁.core = s₂.core) (net₁ net₂ : Net) :
    (op.exec s₁ net₁).state.1.core = (op.exec s₂ net₂).state.1.core ∧
      (op.exec s₁ net₁).value = (op.exec s₂ net₂).value := by
  rw [State.core_eq_iff.mp h]
  exact State.exec_core_congr op s₁ s₂.subscribers net₁ net₂

theorem runCalls_congr (ops : List Op) :
    ∀ {s₁ s₂ : State T} (nets₁ nets₂ : Nat → Net), s₁.core = s₂.core →
      (runCalls nets₁ ops s₁).1 = (runCalls nets₂ ops s₂).1 ∧
        (runCalls nets₁ ops s₁).2.core = (runCalls nets₂ ops s₂).2.core := by
  induction ops with
  | nil => exact fun _ _ h => ⟨rfl, h⟩
  | cons op ops ih =>
    intro s₁ s₂ nets₁ nets₂ h
    obtain ⟨hcore, hvalue⟩ := exec_congr op h (nets₁ 0) (nets₂ 0)
    obtain ⟨hrest, hfinal⟩ := ih (fun i => nets₁ (i + 1)) (fun i => nets₂ (i + 1)) hcore
    simp only [runCalls, hvalue, hrest, hfinal, and_self]

/-- Channel conditions decide nothing: a call, or a run of calls, on states that agree but for
    their subscribers returns the same values and leaves the same devices, groups and tasks
    whatever condition the channels are in; and `send_updates` changes the subscribers only by
    removing the devices of the notified task whose `try_send` failed, where a device is on that
    list exactly when the `try_send` to its subscriber, made on the channels the earlier sends of
    the loop left, returned false. -/
theorem channels_decide_nothing :
    (∀ (op : Op) (s₁ s₂ : State T) (net₁ net₂ : Net), s₁.core = s₂.core →
      (op.exec s₁ net₁).state.1.core = (op.exec s₂ net₂).state.1.core ∧
        (op.exec s₁ net₁).value = (op.exec s₂ net₂).value) ∧
    (∀ (ops : List Op) (s₁ s₂ : State T) (nets₁ nets₂ : Nat → Net), s₁.core = s₂.core →
      (runCalls nets₁ ops s₁).1 = (runCalls nets₂ ops s₂).1 ∧
        (runCalls nets₁ ops s₁).2.core = (runCalls nets₂ ops s₂).2.core) ∧
    (∀ (s : State T) (taskId : Uuid) (task : T) (net : Net), s.tasks.lookup taskId = some task →
      (s.sendUpdates taskId net).state.1.core = s.core ∧
        (∀ k, (s.sendUpdates taskId net).state.1.subscribers.lookup k =
          if k ∈ (State.trySends s.subscribers net ((Task.getDevices task).map (·.identifier))).2 then none
          else s.subscribers.lookup k) ∧
        ∀ k, k ∈ (State.trySends s.subscribers net ((Task.getDevices task).map (·.identifier))).2 ↔
          ∃ pre post tx, (Task.getDevices task).map (·.identifier) = pre ++ k :: post ∧
            s.subscribers.lookup k = some tx ∧ ((State.trySends s.subscribers net pre).1.trySend tx).2 = false) :=
  ⟨fun op _ _ net₁ net₂ h => exec_congr op h net₁ net₂, fun ops _ _ => runCalls_congr ops,
    fun s taskId task net h => ⟨(State.sendUpdates_subscribers s taskId task net h).1,
      (State.sendUpdates_subscribers s taskId task net h).2, fun _ => State.mem_trySends_failed_iff⟩⟩

/-- The group task over device `[1]`, created once with a subscriber of `[1]` on a full channel and
    once without subscribers: the same answer and the same devices, groups and tasks, and its
    announcement keeps them. -/
theorem channels_decide_nothing_for_group_task :
    let s : State SpecTask := (State.new.addDevice [1] "a").1
    let op : Op := .addGroupTask "a" [[1]] 1 .gg18 ⟨0⟩ ⟨0⟩
    let s' : State SpecTask := (op.exec (s.addSubscriber [1] ⟨0⟩) fun _ => .open 0).state.1
    s.core = (s.addSubscriber [1] ⟨0⟩).core ∧
      (op.exec s fun _ => .closed).value = (op.exec (s.addSubscriber [1] ⟨0⟩) fun _ => .open 0).value ∧
      s'.tasks.lookup ⟨0⟩ = some ⟨.group "a" 1, [⟨[1], "a"⟩], [], [], [], none, none⟩ ∧
      (s'.sendUpdates ⟨0⟩ fun _ => .open 1).state.1.core = s'.core := by
  intro s op s'
  have hs : s.core = (s.addSubscriber [1] ⟨0⟩).core := rfl
  have ht : s'.tasks.lookup ⟨0⟩ = some ⟨.group "a" 1, [⟨[1], "a"⟩], [], [], [], none, none⟩ := by decide
  exact ⟨hs, ((@channels_decide_nothing SpecTask _).1 op _ _ _ _ hs).2, ht,
    ((@channels_decide_nothing SpecTask _).2.2 s' ⟨0⟩ _ _ ht).1⟩

/-! ### What a call sends -/

/-- The task a call announces through `send_updates`: the task it adds, updates or decides. -/
def Op.announced : Op → Option Uuid
  | .addGroupTask _ _ _ _ _ uuid => some uuid
  | .addSignTask _ _ _ uuid => some uuid
  | .updateTask taskId _ _ => some taskId
  | .decideTask taskId _ _ => some taskId
  | _ => none

/-- An answer that reports a change to a task: a new task, an update or a decision that changed its
    task. These are the answers of the calls that make `send_updates`. -/
def Ret.reportsChange : Ret → Bool
  | .created (some _) => true
  | .updated (.ok true) => true
  | .decided true => true
  | _ => false

@[simp] theorem Ret.reportsChange_updated (r : Except String Bool) :
    (Ret.updated r).reportsChange = State.okTrue r := by
  rcases r with _ | _ | _ <;> rfl

@[simp] theorem Ret.reportsChange_decided (b : Bool) : (Ret.decided b).reportsChange = b := by
  cases b <;> rfl

/-- Every call either leaves the channels, and the subscribers but for the one that
    `add_subscriber` or `remove_subscriber` sets or removes, or is one `send_updates` of the
    task it announces, on a state with the same subscribers that holds the task, and then answers
    that the task changed. -/
theorem exec_notifies_or_keeps (op : Op) (s : State T) (net : Net) :
    ((op.exec s net).state.2 = net ∧ (op.exec s net).state.1.subscribers = match op with
      | .addSubscriber deviceId tx => s.subscribers.insert deviceId tx
      | .removeSubscriber deviceId => s.subscribers.erase deviceId
      | _ => s.subscribers) ∨
    ∃ (s₁ : State T) (taskId : Uuid) (task : T), op.announced = some taskId ∧ s₁.subscribers = s.subscribers ∧
      s₁.tasks.lookup taskId = some task ∧ (op.exec s net).state = (s₁.sendUpdates taskId net).state ∧
      (op.exec s net).value.map Ret.reportsChange = some true := by
  cases op with
  | addDevice identifier name =>
    refine .inl ⟨rfl, ?_⟩
    simp only [Op.exec, State.addDevice]
    split_ifs <;> rfl
  | addGroupTask name devices threshold protocol keyType uuid =>
    rcases State.addGroupTask_cases s name devices threshold protocol keyType uuid net with
      ⟨h, -⟩ | ⟨h, -⟩ | ⟨-, task, -, -, -, hvalue, hstate⟩
    · exact .inl (by simp [Op.exec, h])
    · exact .inl (by simp [Op.exec, h])
    · exact .inr ⟨s.addTask task uuid, uuid, task, rfl, rfl, AList.lookup_insert _,
        by simp only [Op.exec, State.outcome_map_state, hstate], by simp [Op.exec, hvalue, Ret.reportsChange]⟩
  | addSignTask group name data uuid =>
    rcases State.addSignTask_cases s group name data uuid net with ⟨h, -⟩ | ⟨g, -, -, hvalue, hstate⟩
    · exact .inl (by simp [Op.exec, h])
    · exact .inr ⟨s.addTask (Task.newSignPDFTask g name data) uuid, uuid, _, rfl, rfl, AList.lookup_insert _,
        by simp only [Op.exec, State.outcome_map_state, hstate], by simp [Op.exec, hvalue, Ret.reportsChange]⟩
  | updateTask taskId device data =>
    cases ht : s.tasks.lookup taskId with
    | none => exact .inl (by simp [Op.exec, State.updateTask, ht])
    | some task =>
      obtain ⟨s₁, hsubs, ht₁, hpanic | heq⟩ := State.updateTask_of_lookup ht device data net
      · exact .inl (by simp [Op.exec, hpanic, hsubs])
      · cases hchanged : State.okTrue (Task.update task device data).2
        · exact .inl (by simp [Op.exec, heq, State.notify, hchanged, hsubs])
        · exact .inr ⟨s₁, taskId, _, rfl, hsubs, ht₁, by simp [Op.exec, heq, State.notify, hchanged],
            by simp [Op.exec, heq, ht₁, hchanged]⟩
  | decideTask taskId device decision =>
    cases ht : s.tasks.lookup taskId with
    | none => exact .inl (by simp [Op.exec, State.decideTask, ht])
    | some task =>
      cases hchanged : (Task.decide task device decision).2
      · exact .inl (by simp [Op.exec, State.decideTask_of_lookup ht, State.notify, hchanged])
      · exact .inr ⟨{ s with tasks := s.tasks.insert taskId (Task.decide task device decision).1 }, taskId, _, rfl, rfl,
          AList.lookup_insert _, by simp [Op.exec, State.decideTask_of_lookup ht, State.notify, hchanged],
          by simp [Op.exec, State.decideTask_of_lookup ht, hchanged]⟩
  | acknowledgeTask taskId device =>
    refine .inl ⟨rfl, ?_⟩
    simp only [Op.exec, State.acknowledgeTask]
    split <;> rfl
  | restartTask taskId =>
    refine .inl ⟨rfl, ?_⟩
    simp only [Op.exec, State.restartTask]
    split <;> rfl
  | addSubscriber deviceId tx => exact .inl ⟨rfl, rfl⟩
  | removeSubscriber deviceId => exact .inl ⟨rfl, rfl⟩

/-- A call that panics, or whose answer reports no change to a task, sends nothing: it leaves the
    channels as they were, and the subscribers too, but for the one that `add_subscriber` or
    `remove_subscriber` sets or removes. -/
theorem silent_calls_send_nothing (op : Op) (s : State T) (net : Net)
    (hsilent : ∀ r, (op.exec s net).value = some r → r.reportsChange = false) :
    (op.exec s net).state.2 = net ∧
      (op.exec s net).state.1.subscribers = match op with
        | .addSubscriber deviceId tx => s.subscribers.insert deviceId tx
        | .removeSubscriber deviceId => s.subscribers.erase deviceId
        | _ => s.subscribers := by
  rcases exec_notifies_or_keeps op s net with h | ⟨-, -, -, -, -, -, -, hreport⟩
  · cases op <;> exact h
  · obtain ⟨r, hr, hchange⟩ := Option.map_eq_some'.mp hreport
    exact absurd hchange (by simp [hsilent r hr])

/-- The second update of device `[1]` to the group task over `[1]` and `[2]` changes nothing: with a
    subscriber of `[1]` on a full channel, it leaves the channels and keeps the subscriber. -/
theorem repeated_update_sends_nothing :
    let net : Net := fun _ => .open 0
    let s : State SpecTask := execAll net [.addDevice [1] "a", .addDevice [2] "b",
      .addGroupTask "g" [[1], [2]] 2 .gg18 ⟨0⟩ ⟨0⟩, .updateTask ⟨0⟩ [1] [], .addSubscriber [1] ⟨0⟩] State.new
    let op : Op := .updateTask ⟨0⟩ [1] []
    (op.exec s net).value = some (.updated (.ok false)) ∧ (op.exec s net).state.2 = net ∧
      (op.exec s net).state.1.subscribers = s.subscribers := by
  intro net s op
  have hvalue : (op.exec s net).value = some (.updated (.ok false)) := rfl
  exact ⟨hvalue, silent_calls_send_nothing op s net fun r hr => by
    rw [hvalue] at hr
    cases hr
    rfl⟩

/-- After any call the subscriber of a device is as the call sets it (kept, unless
    `add_subscriber` or `remove_subscriber` of that device sets or removes it), or it is gone
    because the call announced a task that lists the device and the `try_send` to its subscriber,
    made on the channels the earlier sends of `send_updates` left, failed. -/
theorem subscriber_kept_or_send_failed (op : Op) (s : State T) (net : Net) (d : Bytes) (tx : Sender)
    (hsub : s.subscribers.lookup d = some tx) :
    (op.exec s net).state.1.subscribers.lookup d = (match op with
        | .addSubscriber deviceId tx' => (s.subscribers.insert deviceId tx').lookup d
        | .removeSubscriber deviceId => (s.subscribers.erase deviceId).lookup d
        | _ => some tx) ∨
      ∃ taskId task pre post, op.announced = some taskId ∧ (op.exec s net).state.1.tasks.lookup taskId = some task ∧
        (Task.getDevices task).map (·.identifier) = pre ++ d :: post ∧
        ((State.trySends s.subscribers net pre).1.trySend tx).2 = false ∧
        (op.exec s net).state.1.subscribers.lookup d = none := by
  rcases exec_notifies_or_keeps op s net with ⟨-, hsubs⟩ | ⟨s₁, taskId, task, hann, hsubs, ht₁, hstate, -⟩
  · left
    rw [hsubs]
    cases op <;> first | exact hsub | rfl
  · have hlookup := (State.sendUpdates_subscribers s₁ taskId task net ht₁).2 d
    rw [← hstate, hsubs, hsub] at hlookup
    by_cases hfailed : d ∈ (State.trySends s.subscribers net ((Task.getDevices task).map (·.identifier))).2
    · obtain ⟨pre, post, tx', hids, hsub', hsend⟩ := State.mem_trySends_failed_iff.mp hfailed
      obtain rfl : tx' = tx := Option.some.inj (hsub'.symm.trans hsub)
      exact .inr ⟨taskId, task, pre, post, hann, by rw [hstate, State.tasks_sendUpdates, ht₁], hids, hsend,
        by rw [hlookup, if_pos hfailed]⟩
    · left
      rw [hlookup, if_neg hfailed]
      cases op <;> first | rfl | cases hann

/-- Only a `try_send` that fails drops a subscriber: a subscriber is kept as the call sets it, or
    a `try_send` to it failed (`subscriber_kept_or_send_failed`). So a call drops no subscriber
    whose channel has a free place for a message to each device of every task of the state it
    leaves, even when subscribers share a channel. -/
theorem subscribers_dropped_only_on_failed_send (op : Op) (s : State T) (net : Net) (d : Bytes) (tx : Sender)
    (hsub : s.subscribers.lookup d = some tx) :
    ((op.exec s net).state.1.subscribers.lookup d = (match op with
        | .addSubscriber deviceId tx' => (s.subscribers.insert deviceId tx').lookup d
        | .removeSubscriber deviceId => (s.subscribers.erase deviceId).lookup d
        | _ => some tx) ∨
      ∃ taskId task pre post, op.announced = some taskId ∧ (op.exec s net).state.1.tasks.lookup taskId = some task ∧
        (Task.getDevices task).map (·.identifier) = pre ++ d :: post ∧
        ((State.trySends s.subscribers net pre).1.trySend tx).2 = false ∧
        (op.exec s net).state.1.subscribers.lookup d = none) ∧
    ∀ room, net tx.channel = .open room →
      (∀ taskId task, (op.exec s net).state.1.tasks.lookup taskId = some task → (Task.getDevices task).length ≤ room) →
      (op.exec s net).state.1.subscribers.lookup d = match op with
        | .addSubscriber deviceId tx' => (s.subscribers.insert deviceId tx').lookup d
        | .removeSubscriber deviceId => (s.subscribers.erase deviceId).lookup d
        | _ => some tx := by
  have hkept := subscriber_kept_or_send_failed op s net d tx hsub
  refine ⟨hkept, fun room hroom hlen => hkept.resolve_right ?_⟩
  rintro ⟨taskId, task, pre, post, -, htask, hids, hsend, -⟩
  exact State.not_mem_trySends_failed hsub hroom (by simpa using hlen taskId task htask)
    (State.mem_trySends_failed_iff.mpr ⟨pre, post, tx, hids, hsub, hsend⟩)

/-- Devices `[1]` and `[2]`, a group task over both, and subscribers of both on channel zero. With
    two free places the update of `[1]` notifies both and keeps both. With one, the send to `[1]`
    takes it and the send to `[2]` fails, so `[2]`, and only `[2]`, is dropped. -/
theorem update_on_shared_channel :
    let s : State SpecTask := execAll (fun _ => .open 2) [.addDevice [1] "a", .addDevice [2] "b",
      .addGroupTask "g" [[1], [2]] 2 .gg18 ⟨0⟩ ⟨0⟩, .addSubscriber [1] ⟨0⟩, .addSubscriber [2] ⟨0⟩] State.new
    let op : Op := .updateTask ⟨0⟩ [1] []
    let roomy : Net := fun _ => .open 2
    let tight : Net := fun _ => .open 1
    s.subscribers.lookup [1] = some ⟨0⟩ ∧ s.subscribers.lookup [2] = some ⟨0⟩ ∧
      (∀ taskId task, (op.exec s roomy).state.1.tasks.lookup taskId = some task → (Task.getDevices task).length ≤ 2) ∧
      (op.exec s roomy).state.1.subscribers.lookup [1] = some ⟨0⟩ ∧
      (op.exec s tight).state.1.subscribers.lookup [1] = some ⟨0⟩ ∧
      ∃ taskId task pre post, op.announced = some taskId ∧ (op.exec s tight).state.1.tasks.lookup taskId = some task ∧
        (Task.getDevices task).map (·.identifier) = pre ++ [2] :: post ∧
        ((State.trySends s.subscribers tight pre).1.trySend ⟨0⟩).2 = false ∧
        (op.exec s tight).state.1.subscribers.lookup [2] = none := by
  intro s op roomy tight
  have hsub₁ : s.subscribers.lookup [1] = some ⟨0⟩ := by decide
  have hsub₂ : s.subscribers.lookup [2] = some ⟨0⟩ := by decide
  have hall : ∀ e ∈ (op.exec s roomy).state.1.tasks.entries, (Task.getDevices e.2).length ≤ 2 := by decide
  have hlen : ∀ taskId task, (op.exec s roomy).state.1.tasks.lookup taskId = some task → (Task.getDevices task).length ≤ 2 :=
    fun taskId task h => hall ⟨taskId, task⟩ (AList.mem_lookup_iff.mp h)
  exact ⟨hsub₁, hsub₂, hlen, (subscribers_dropped_only_on_failed_send op s roomy [1] ⟨0⟩ hsub₁).2 2 rfl hlen,
    by decide, (subscribers_dropped_only_on_failed_send op s tight [2] ⟨0⟩ hsub₂).1.resolve_left (by decide)⟩

/-- A call sends only to the subscribers of the devices of the task it announces: a channel whose
    condition the call changes is that of the subscriber of a device of the task it adds, updates or
    decides, as that task is in the state the call leaves. -/
theorem messages_reach_only_task_devices (op : Op) (s : State T) (net : Net) (c : Nat)
    (hc : (op.exec s net).state.2 c ≠ net c) :
    ∃ taskId task, op.announced = some taskId ∧ (op.exec s net).state.1.tasks.lookup taskId = some task ∧
      ∃ d ∈ (Task.getDevices task).map (·.identifier), ∃ tx, s.subscribers.lookup d = some tx ∧ tx.channel = c := by
  rcases exec_notifies_or_keeps op s net with ⟨hnet, -⟩ | ⟨s₁, taskId, task, hann, hsubs, ht₁, hstate, -⟩
  · exact absurd (congrFun hnet c) hc
  · rw [hstate] at hc ⊢
    refine ⟨taskId, task, hann, by rw [State.tasks_sendUpdates, ht₁], ?_⟩
    rw [← hsubs]
    exact State.sendUpdates_channel ht₁ hc

/-- Devices `[1]`, `[2]` and `[3]`, a group task over the first two, and subscribers of `[1]`
    and `[3]` on channels zero and one: the update of `[1]` takes a place of channel zero, the
    channel of a device of the task, and leaves channel one. -/
theorem update_reaches_task_subscribers_only :
    let net : Net := fun _ => .open 1
    let s : State SpecTask := execAll net [.addDevice [1] "a", .addDevice [2] "b", .addDevice [3] "c",
      .addGroupTask "g" [[1], [2]] 2 .gg18 ⟨0⟩ ⟨0⟩, .addSubscriber [1] ⟨0⟩, .addSubscriber [3] ⟨1⟩] State.new
    let op : Op := .updateTask ⟨0⟩ [1] []
    (op.exec s net).state.2 0 ≠ net 0 ∧ (op.exec s net).state.2 1 = net 1 ∧
      ∃ taskId task, op.announced = some taskId ∧ (op.exec s net).state.1.tasks.lookup taskId = some task ∧
        ∃ d ∈ (Task.getDevices task).map (·.identifier), ∃ tx, s.subscribers.lookup d = some tx ∧ tx.channel = 0 := by
  intro net s op
  have hc : (op.exec s net).state.2 0 ≠ net 0 := by decide
  exact ⟨hc, by decide, messages_reach_only_task_devices op s net 0 hc⟩

/-! ### Closed and full channels -/

/-- An `update_task` or a `decide_task` whose task reports a change returns that it changed, also
    when a subscriber's channel is closed or full (for `update_task`, on a task that has a result
    once it is `Finished`, so that the unwrapping of the result does not panic), and it drops the
    subscriber of every device of its task whose channel is closed or full, so that the device gets
    no later update. -/
theorem failing_subscribers_dropped (s : State T) (taskId : Uuid) (task : T) (net : Net)
    (ht : s.tasks.lookup taskId = some task) (d : Bytes) (tx : Sender)
    (hsub : s.subscribers.lookup d = some tx) (hfail : net tx.channel = .closed ∨ net tx.channel = .open 0) :
    (∀ device data, (Task.update task device data).2 = .ok true →
      (Task.getStatus (Task.update task device data).1 = .finished →
        (Task.getResult (Task.update task device data).1).isSome) →
      (s.updateTask taskId device data net).value = some (.ok true) ∧
        (d ∈ (Task.getDevices (Task.update task device data).1).map (·.identifier) →
          (s.updateTask taskId device data net).state.1.subscribers.lookup d = none)) ∧
    (∀ device decision, (Task.decide task device decision).2 = true →
      (s.decideTask taskId device decision net).value = some true ∧
        (d ∈ (Task.getDevices (Task.decide task device decision).1).map (·.identifier) →
          (s.decideTask taskId device decision net).state.1.subscribers.lookup d = none)) := by
  refine ⟨fun device data hok hresult => ?_, fun device decision hchanged => ?_⟩
  · obtain ⟨s₁, hsubs, ht₁, hpanic | heq⟩ := State.updateTask_of_lookup ht device data net
    · obtain ⟨-, hfinished, hno, -⟩ := State.updateTask_of_panic ht (by rw [hpanic])
      exact absurd (hresult hfinished) (by simp [hno])
    · simp only [heq, State.outcome_map_state, State.outcome_map_value, hok, State.okTrue, State.notify,
        ↓reduceIte, State.value_sendUpdates, ht₁, Option.map_some']
      exact ⟨trivial, State.sendUpdates_drops_failing ht₁ (hsubs ▸ hsub) hfail⟩
  · simp only [State.decideTask_of_lookup ht, State.outcome_map_state, State.outcome_map_value, State.notify,
      hchanged, ↓reduceIte, State.value_sendUpdates, AList.lookup_insert, Option.map_some']
    exact ⟨trivial, State.sendUpdates_drops_failing (by simp) hsub hfail⟩

/-- Devices `[1]` and `[2]`, a group task over both, and a subscriber of `[1]` whose channel is full:
    the update of `[1]` reports a change and drops that subscriber. -/
theorem update_drops_full_subscriber :
    let net : Net := fun _ => .open 0
    let s : State SpecTask := execAll net [.addDevice [1] "a", .addDevice [2] "b",
      .addGroupTask "g" [[1], [2]] 2 .gg18 ⟨0⟩ ⟨0⟩, .addSubscriber [1] ⟨0⟩] State.new
    let task : SpecTask := ⟨.group "g" 2, [⟨[1], "a"⟩, ⟨[2], "b"⟩], [], [], [], none, none⟩
    s.tasks.lookup ⟨0⟩ = some task ∧ s.subscribers.lookup [1] = some ⟨0⟩ ∧
      (s.updateTask ⟨0⟩ [1] [] net).value = some (.ok true) ∧
      (s.updateTask ⟨0⟩ [1] [] net).state.1.subscribers.lookup [1] = none := by
  intro net s task
  have ht : s.tasks.lookup ⟨0⟩ = some task := by decide
  have hsub : s.subscribers.lookup [1] = some ⟨0⟩ := by decide
  have hresult : Task.getStatus (Task.update task [1] []).1 = .finished →
      (Task.getResult (Task.update task [1] []).1).isSome := fun h => absurd h (by decide)
  obtain ⟨hvalue, hdrop⟩ := (failing_subscribers_dropped s ⟨0⟩ task net ht [1] ⟨0⟩ hsub (.inr rfl)).1 [1] [] rfl hresult
  exact ⟨ht, hsub, hvalue, hdrop (by decide)⟩

/-! ### Panics -/

end MeesignServer
