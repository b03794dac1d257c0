import MeesignServer.State.Listing
import MeesignServer.State.Groups

/-! Runs as histories. A run is a list of calls, each with the condition of the channels, and
    `visits` pairs each call with the state it is made on. When the calls draw fresh identifiers,
    a run turns each task `Finished` at most once, and the only calls that change the groups are
    `update_task`s that turn their task `Finished`, so the groups change at most once for each task
    (§3, invariant (c)). The identifiers that the create calls answer are new, pairwise distinct and
    stay in the state (§3, invariant (d)). Both come from one fact: what a run records of a call
    only when the call makes a property of an identifier true that no call makes false again is
    recorded at most once. -/

namespace MeesignServer

/-- A call of a run: the state it is made on, the call, and the condition of the channels. -/
structure Visit (T : Type) where
  state : State T
  op : Op
  net : Net

variable {T : Type} [Task T]

/-- The calls `calls` made one after another from `s`, each with the state it is made on. -/
def visits : State T → List (Op × Net) → List (Visit T)
  | _, [] => []
  | s, (op, net) :: calls => ⟨s, op, net⟩ :: visits (op.exec s net).state.1 calls

/-- The state that the calls `calls` leave, made one after another from `s`. -/
def execCalls : State T → List (Op × Net) → State T
  | s, [] => s
  | s, (op, net) :: calls => execCalls (op.exec s net).state.1 calls

/-- The task `taskId` is `Finished` in `s`. -/
def State.finished (s : State T) (taskId : Uuid) : Bool :=
  (s.tasks.lookup taskId).any (Task.getStatus · == .finished)

namespace Visit

/-- The state the call leaves. -/
def after (v : Visit T) : State T :=
  (v.op.exec v.state v.net).state.1

/-- The tasks the call turns `Finished`: finished after it and not before. -/
def finishes (v : Visit T) : List Uuid :=
  v.after.tasks.keys.filter fun taskId => !v.state.finished taskId && v.after.finished taskId

/-- The task of an `update_task` that changes the groups. -/
def stores (v : Visit T) : List Uuid :=
  match v.op with
  | .updateTask taskId _ _ => if v.after.groups.entries = v.state.groups.entries then [] else [taskId]
  | _ => []

/-- The identifier the call answers for the task it adds. -/
def answers (v : Visit T) : List Uuid :=
  match (v.op.exec v.state v.net).value with
  | some (.created (some taskId)) => [taskId]
  | _ => []

end Visit

theorem State.finished_iff {s : State T} {taskId : Uuid} :
    s.finished taskId = true ↔ ∃ task, s.tasks.lookup taskId = some task ∧ Task.getStatus task = .finished := by
  unfold State.finished
  cases s.tasks.lookup taskId <;> simp

/-! ### One call -/

namespace Visit

theorem stores_eq_nil {v : Visit T} (h : v.after.groups = v.state.groups) : v.stores = [] := by
  unfold stores
  split <;> simp [h]

/-- A call records a task in `finishes` only when it turns the task `Finished`. -/
theorem turns_finished {v : Visit T} {taskId : Uuid} (h : taskId ∈ v.finishes) :
    ¬v.state.finished taskId = true ∧ v.after.finished taskId = true := by
  simpa [finishes] using (List.mem_filter.mp h).2

/-- A call that changes the groups turns the task it updates `Finished`. -/
theorem stores_sublist : ∀ v : Visit T, v.stores.Sublist v.finishes
  | ⟨s, op, net⟩ => by
    have h := effect op s net
    generalize hc : (op.exec s net).state.1.core = c at h
    cases h with
    | @establish taskId device data task g htask hnot hfin _ =>
      obtain ⟨-, -, htasks⟩ := State.core_eq_mk.mp hc
      simp only [stores]
      split_ifs
      · exact List.nil_sublist _
      · have hlookup : ((Op.updateTask taskId device data).exec s net).state.1.tasks.lookup taskId = some (Task.update task device data).1 := by
          rw [htasks, AList.lookup_insert]
        rw [List.singleton_sublist, finishes, List.mem_filter, ← AList.mem_keys, ← AList.lookup_isSome]
        simp [after, State.finished, hlookup, htask, hnot, hfin]
    | _ =>
      rw [stores_eq_nil (congrArg (fun c => c.2.1) hc)]
      exact List.nil_sublist _

/-- A call that changes the groups is an `update_task` that records its task in `stores` and turns
    it `Finished`. -/
theorem groups_changed : ∀ {v : Visit T}, v.after.groups ≠ v.state.groups →
    ∃ taskId device data, v.op = .updateTask taskId device data ∧ v.stores = [taskId] ∧ taskId ∈ v.finishes
  | ⟨s, op, net⟩, h => by
    rcases groups_cases op s net with hg | ⟨taskId, device, data, -, -, rfl, -⟩
    · exact absurd hg h
    · have hstores : Visit.stores ⟨s, .updateTask taskId device data, net⟩ = [taskId] := by
        simp only [stores]
        rw [if_neg fun he => h (AList.ext he)]
      exact ⟨taskId, device, data, rfl, hstores, List.singleton_sublist.mp (hstores ▸ stores_sublist _)⟩

/-- Every call keeps the identifiers of the tasks: it adds or replaces tasks, and removes none. -/
theorem mem_tasks_after : ∀ {v : Visit T} {taskId : Uuid}, taskId ∈ v.state.tasks → taskId ∈ v.after.tasks
  | ⟨s, op, net⟩, taskId, h => by
    have he := effect op s net
    generalize hc : (op.exec s net).state.1.core = c at he
    have htasks : (op.exec s net).state.1.tasks = c.2.2 := congrArg (fun c => c.2.2) hc
    show taskId ∈ (op.exec s net).state.1.tasks
    rw [htasks]
    cases he <;> first | exact h | exact (AList.mem_insert _).mpr (.inr h)

/-- A call answers an identifier only for a task it adds under the identifier it draws. -/
theorem mem_answers : ∀ {v : Visit T} {taskId : Uuid}, taskId ∈ v.answers → v.op.draw = some taskId ∧ taskId ∈ v.after.tasks
  | ⟨s, op, net⟩, taskId, h => by
    cases op with
    | addGroupTask name devices threshold protocol keyType uuid =>
      rcases State.addGroupTask_cases s name devices threshold protocol keyType uuid net with
        ⟨hcall, -⟩ | ⟨hcall, -⟩ | ⟨-, task, -, -, -, hvalue, hstate⟩
      · simp [answers, Op.exec, hcall] at h
      · simp [answers, Op.exec, hcall] at h
      · simp only [answers, Op.exec, State.outcome_map_value, hvalue, Option.map_some', List.mem_singleton] at h
        subst h
        simp only [after, Op.exec, State.outcome_map_state, hstate, State.tasks_sendUpdates]
        exact ⟨rfl, (AList.mem_insert _).mpr (.inl rfl)⟩
    | addSignTask group name data uuid =>
      rcases State.addSignTask_cases s group name data uuid net with ⟨hcall, -⟩ | ⟨g, -, -, hvalue, hstate⟩
      · simp [answers, Op.exec, hcall] at h
      · simp only [answers, Op.exec, State.outcome_map_value, hvalue, Option.map_some', List.mem_singleton] at h
        subst h
        simp only [after, Op.exec, State.outcome_map_state, hstate, State.tasks_sendUpdates]
        exact ⟨rfl, (AList.mem_insert _).mpr (.inl rfl)⟩
    | _ => simp [answers, Op.exec] at h

section
variable [LawfulTask T]

/-- A call that draws a fresh identifier keeps every task, continued. -/
theorem follows_after {v : Visit T} (fresh : v.op.Fresh v.state) {taskId : Uuid} {task : T}
    (ht : v.state.tasks.lookup taskId = some task) :
    ∃ task', v.after.tasks.lookup taskId = some task' ∧ Task.Follows task task' :=
  (effect v.op v.state v.net).follows fresh ht

theorem finished_after {v : Visit T} (fresh : v.op.Fresh v.state) {taskId : Uuid}
    (h : v.state.finished taskId = true) : v.after.finished taskId = true := by
  obtain ⟨task, ht, hfin⟩ := State.finished_iff.mp h
  obtain ⟨task', ht', hf⟩ := follows_after fresh ht
  exact State.finished_iff.mpr ⟨task', ht', hf.finished hfin⟩

end

end Visit

/-! ### Runs -/

section
variable (P : State T → Uuid → Prop) (record : Visit T → List Uuid)

/-- A property of identifiers that every fresh call keeps holds after a run of fresh calls. -/
theorem holds_execCalls (keeps : ∀ v : Visit T, v.op.Fresh v.state → ∀ u, P v.state u → P v.after u) :
    ∀ (s : State T) (calls : List (Op × Net)), (∀ v ∈ visits s calls, v.op.Fresh v.state) →
      ∀ u, P s u → P (execCalls s calls) u
  | _, [], _, _, h => h
  | s, (op, net) :: calls, fresh, u, h =>
    holds_execCalls keeps _ calls (fun v hv => fresh v (List.mem_cons_of_mem _ hv)) u
      (keeps ⟨s, op, net⟩ (fresh _ (List.mem_cons_self _ _)) u h)

/-- Say every fresh call keeps `P`, and records only identifiers for which it makes `P` true. Then
    a run of fresh calls records each identifier at most once, and each was without `P` in the
    first state and has it in the last. -/
theorem recorded_once (keeps : ∀ v : Visit T, v.op.Fresh v.state → ∀ u, P v.state u → P v.after u)
    (turns : ∀ v : Visit T, v.op.Fresh v.state → ∀ u ∈ record v, ¬P v.state u ∧ P v.after u)
    (nodup : ∀ v, (record v).Nodup) :
    ∀ (s : State T) (calls : List (Op × Net)), (∀ v ∈ visits s calls, v.op.Fresh v.state) →
      ((visits s calls).flatMap record).Nodup ∧
        ∀ u ∈ (visits s calls).flatMap record, ¬P s u ∧ P (execCalls s calls) u
  | _, [], _ => ⟨List.nodup_nil, fun _ h => by simp [visits] at h⟩
  | s, (op, net) :: calls, fresh => by
    have first := fresh ⟨s, op, net⟩ (List.mem_cons_self _ _)
    have restFresh : ∀ v ∈ visits (op.exec s net).state.1 calls, v.op.Fresh v.state :=
      fun v hv => fresh v (List.mem_cons_of_mem _ hv)
    obtain ⟨restNodup, rest⟩ := recorded_once keeps turns nodup _ calls restFresh
    simp only [visits, List.flatMap_cons]
    refine ⟨List.nodup_append.mpr ⟨nodup _, restNodup, fun u here there =>
      (rest u there).1 (turns _ first u here).2⟩, fun u hu => ?_⟩
    rcases List.mem_append.mp hu with here | there
    · exact ⟨(turns _ first u here).1, holds_execCalls P keeps _ calls restFresh u (turns _ first u here).2⟩
    · exact ⟨fun h => (rest u there).1 (keeps _ first u h), (rest u there).2⟩

end

/-- In every run whose calls draw fresh identifiers, the identifiers that `add_group_task` and
    `add_sign_task` answer are pairwise distinct, none names a task of the first state, and each
    names a task of the state the run leaves. -/
theorem task_identifiers_unique (s : State T) (calls : List (Op × Net))
    (fresh : ∀ v ∈ visits s calls, v.op.Fresh v.state) :
    ((visits s calls).flatMap Visit.answers).Nodup ∧
      ∀ taskId ∈ (visits s calls).flatMap Visit.answers, taskId ∉ s.tasks ∧ taskId ∈ (execCalls s calls).tasks :=
  recorded_once (fun s u => u ∈ s.tasks) Visit.answers (fun _ _ _ => Visit.mem_tasks_after)
    (fun _ fresh _ hu => ⟨fresh.not_mem (Visit.mem_answers hu).1, (Visit.mem_answers hu).2⟩)
    (fun v => by unfold Visit.answers; split <;> simp) s calls fresh

/-- A run that registers device `[1]`, creates two group tasks over it and one over an unknown
    device: the first two answer their identifiers, which the last state holds. -/
theorem group_tasks_answer_distinct_identifiers :
    let net : Net := fun _ => .closed
    let calls : List (Op × Net) := [(.addDevice [1] "a", net), (.addGroupTask "g" [[1]] 1 .gg18 ⟨0⟩ ⟨0⟩, net),
      (.addGroupTask "h" [[1]] 1 .gg18 ⟨0⟩ ⟨1⟩, net), (.addGroupTask "i" [[2]] 1 .gg18 ⟨0⟩ ⟨2⟩, net)]
    (∀ v ∈ visits (State.new : State SpecTask) calls, v.op.Fresh v.state) ∧
      (visits (State.new : State SpecTask) calls).flatMap Visit.answers = [⟨0⟩, ⟨1⟩] ∧
      ((visits (State.new : State SpecTask) calls).flatMap Visit.answers).Nodup ∧
      ∀ taskId ∈ (visits (State.new : State SpecTask) calls).flatMap Visit.answers,
        taskId ∉ (State.new : State SpecTask).tasks ∧ taskId ∈ (execCalls (State.new : State SpecTask) calls).tasks := by
  intro net calls
  have fresh : ∀ v ∈ visits (State.new : State SpecTask) calls, v.op.Fresh v.state := by decide
  exact ⟨fresh, by decide, task_identifiers_unique State.new calls fresh⟩

section
variable [LawfulTask T]

/-- In every run whose calls draw fresh identifiers, each task turns `Finished` at most once; a
    call that changes the groups is an `update_task` that turns its task `Finished` and records
    that task in `stores`; and no task is recorded twice, so the groups change at most once for
    each task. -/
theorem tasks_finish_once (s : State T) (calls : List (Op × Net))
    (fresh : ∀ v ∈ visits s calls, v.op.Fresh v.state) :
    ((visits s calls).flatMap Visit.finishes).Nodup ∧
      (∀ v ∈ visits s calls, v.after.groups ≠ v.state.groups →
        ∃ taskId device data, v.op = .updateTask taskId device data ∧ v.stores = [taskId] ∧ taskId ∈ v.finishes) ∧
      ((visits s calls).flatMap Visit.stores).Nodup := by
  have keeps : ∀ v : Visit T, v.op.Fresh v.state → ∀ u, v.state.finished u = true → v.after.finished u = true :=
    fun _ fresh _ => Visit.finished_after fresh
  refine ⟨(recorded_once (fun s u => s.finished u = true) Visit.finishes keeps (fun _ _ _ => Visit.turns_finished)
      (fun _ => (AList.keys_nodup _).filter _) s calls fresh).1, fun _ _ => Visit.groups_changed,
    (recorded_once (fun s u => s.finished u = true) _ keeps (fun v _ _ hu => Visit.turns_finished (v.stores_sublist.subset hu))
      (fun v => v.stores_sublist.nodup ((AList.keys_nodup _).filter _)) s calls fresh).1⟩

/-- A run that registers device `[1]`, creates a group task over it and updates the task twice: the
    first update turns the task `Finished` and stores its group, the second does neither. -/
theorem group_task_finishes_once :
    let net : Net := fun _ => .closed
    let calls : List (Op × Net) := [(.addDevice [1] "a", net), (.addGroupTask "g" [[1]] 1 .gg18 ⟨0⟩ ⟨0⟩, net),
      (.updateTask ⟨0⟩ [1] [], net), (.updateTask ⟨0⟩ [1] [], net)]
    (∀ v ∈ visits (State.new : State SpecTask) calls, v.op.Fresh v.state) ∧
      (visits (State.new : State SpecTask) calls).flatMap Visit.finishes = [⟨0⟩] ∧
      (visits (State.new : State SpecTask) calls).flatMap Visit.stores = [⟨0⟩] ∧
      ((visits (State.new : State SpecTask) calls).flatMap Visit.finishes).Nodup ∧
      (∀ v ∈ visits (State.new : State SpecTask) calls, v.after.groups ≠ v.state.groups →
        ∃ taskId device data, v.op = .updateTask taskId device data ∧ v.stores = [taskId] ∧ taskId ∈ v.finishes) ∧
      ((visits (State.new : State SpecTask) calls).flatMap Visit.stores).Nodup := by
  intro net calls
  have fresh : ∀ v ∈ visits (State.new : State SpecTask) calls, v.op.Fresh v.state := by decide
  exact ⟨fresh, by decide, by decide, tasks_finish_once State.new calls fresh⟩

end

end MeesignServer
