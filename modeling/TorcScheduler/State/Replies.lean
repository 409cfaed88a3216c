import TorcScheduler.State.Actor

/-!
# What one iteration of the serving loop guarantees

Facts about `serve` over every state and every request, each proved by one case split over the
request kinds, the writing ones named:

* `serve_getNode_absent` — `GetNode` for a node the table lacks aborts the actor instead of
  answering;
* `serve_frame` — a request leaves every task record and every node record it does not name as it
  was (`StateRequestMsg.writesTask`, `StateRequestMsg.writesNode`; read one table at a time as
  `serve_getTask_frame` and `serve_getNode_frame`);
* `serve_getNode_isSome` — no request removes a node record;
* `serve_new_running` — a task becomes `Running` only through `UpdateTaskState`, which registers it,
  or through `StartTask` carrying a `Running` record, which registers nothing.
-/

namespace TorcScheduler

namespace StateRequestMsg

/-- Whether a request may write the task record named `n`: the one it names. -/
def writesTask : StateRequestMsg → String → Bool
  | .updateTaskState m _, n => m = n
  | .updateTaskNodeName m _, n => m = n
  | .updateTaskInfo m .., n => m = n
  | .updateTaskLastUpdate m, n => m = n
  | .startTask t, n => t.name = n
  | .restartTask m, n => m = n
  | .removeTask m, n => m = n
  | _, _ => false

/-- Whether a request may write the node record named `n`: the one it names. -/
def writesNode : StateRequestMsg → String → Bool
  | .addNode node, n => node.name = n
  | .updateNode m .., n => m = n
  | .setNodeInactive m, n => m = n
  | _, _ => false

end StateRequestMsg

variable {now : BitVec 64} {s : State} {msg : StateRequestMsg} {o : Outcome}

/-- `GetNode` for a name the node table lacks makes the actor panic: no reply is sent. -/
theorem serve_getNode_absent (now : BitVec 64) (s : State) (n : String)
    (h : s.nodeList.getNode n = none) : serve now s (.getNode n) = none := by
  simp [serve, h]

/-- The actor right after `StateManager::new` with no configured node aborts on `GetNode "n1"`. -/
theorem serve_getNode_unconfigured :
    NodeList.new.getNode "n1" = none ∧
      serve 0 ⟨"10.0.0.1", "C1", TaskList.new, NodeList.new⟩ (.getNode "n1") = none :=
  ⟨rfl, serve_getNode_absent 0 _ "n1" rfl⟩

/-- What a served request leaves alone: every task record and every node record it does not name.
The writers of a task record are the setters of `TaskList`, the removal and `StartTask`; the writers
of a node record are `AddNode`, `UpdateNode` and `SetNodeInactive`; every other request only
reads. -/
theorem serve_frame (h : serve now s msg = some o) :
    (∀ n, msg.writesTask n = false → o.state.taskList.getTask n = s.taskList.getTask n) ∧
      ∀ n, msg.writesNode n = false → o.state.nodeList.getNode n = s.nodeList.getNode n := by
  cases msg with
  | updateTaskState _ _ | updateTaskNodeName _ _ | updateTaskInfo _ _ _ _ | updateTaskLastUpdate _
  | startTask _ | restartTask _ | removeTask _ =>
    cases h
    exact ⟨fun n hn => by simp [of_decide_eq_false hn], fun _ _ => rfl⟩
  | addNode _ | updateNode _ _ _ _ | setNodeInactive _ =>
    cases h
    exact ⟨fun _ _ => rfl, fun n hn => by simp [of_decide_eq_false hn]⟩
  | getNode m =>
    simp only [serve, StateManager.getNode] at h
    split at h <;> cases h
    exact ⟨fun _ _ => rfl, fun _ _ => rfl⟩
  | ping | getTaskState _ | getTaskIP _ | getTaskNameById _ | getIsRestartableTask _
  | getRequestedTasks | getRunningTasks | getRestartTasks | getIsNodeActive _ | getNodes =>
    cases h
    exact ⟨fun _ _ => rfl, fun _ _ => rfl⟩

/-- **Frame.** A request leaves the task record named `n` as it was unless it names `n`. -/
theorem serve_getTask_frame {n : String} (h : serve now s msg = some o)
    (hw : msg.writesTask n = false) : o.state.taskList.getTask n = s.taskList.getTask n :=
  (serve_frame h).1 n hw

/-- **Frame.** A request leaves the node record named `n` as it was unless it names `n`. -/
theorem serve_getNode_frame {n : String} (h : serve now s msg = some o)
    (hw : msg.writesNode n = false) : o.state.nodeList.getNode n = s.nodeList.getNode n :=
  (serve_frame h).2 n hw

/-- **No node is removed** (§3, node invariant 3). A request that names a node adds, updates or
deactivates it, so a name that has a record keeps one. -/
theorem serve_getNode_isSome {n : String} (h : serve now s msg = some o)
    (hn : (s.nodeList.getNode n).isSome) : (o.state.nodeList.getNode n).isSome := by
  cases hw : msg.writesNode n
  · rwa [serve_getNode_frame h hw]
  · cases msg with
    | addNode x =>
      cases h
      simp [of_decide_eq_true hw]
    | updateNode m _ _ _ | setNodeInactive m =>
      cases h
      simpa [of_decide_eq_true hw] using hn
    | _ => simp [StateRequestMsg.writesNode] at hw

/-- **Entering `Running`.** If a request leaves the task named `n` `Running` where no task named
`n` was `Running` before, then either it was `UpdateTaskState(n, Running)` and the handler made
exactly one call, registering the record as it stands after the request, or it was a `StartTask`
carrying that `Running` record and the handler made no call. -/
theorem serve_new_running {n : String} {t : Task} (h : serve now s msg = some o)
    (hafter : o.state.taskList.getTask n = some t) (hrun : t.state = .running)
    (hbefore : ∀ r, s.taskList.getTask n = some r → r.state ≠ .running) :
    (msg = .updateTaskState n .running ∧ o.calls = [registerRunningTask s.masterIp t]) ∨
      (msg = .startTask t ∧ o.calls = []) := by
  by_cases hw : msg.writesTask n
  · cases msg with
    | updateTaskState m st =>
      obtain rfl : m = n := of_decide_eq_true hw
      simp only [serve, Option.some.injEq] at h
      subst h
      simp only [StateManager.updateTaskState, TaskList.getTask_setTaskState, if_pos,
        Option.map_eq_some'] at hafter
      obtain ⟨a, ha, rfl⟩ := hafter
      subst hrun
      simp [ha]
    | updateTaskNodeName m _ | updateTaskInfo m _ _ _ | updateTaskLastUpdate m =>
      -- these setters keep the record's state, which was not `Running`
      obtain rfl : m = n := of_decide_eq_true hw
      cases h
      obtain ⟨r, hr, rfl⟩ := Option.map_eq_some'.1 (by simpa using hafter)
      exact absurd hrun (hbefore r hr)
    | restartTask m =>
      -- the record is left in `Restart`
      obtain rfl : m = n := of_decide_eq_true hw
      cases h
      obtain ⟨r, -, rfl⟩ := Option.map_eq_some'.1 (by simpa using hafter)
      cases hrun
    | removeTask m =>
      obtain rfl : m = n := of_decide_eq_true hw
      cases h
      simp at hafter
    | startTask u =>
      -- the record is the one the request carries
      obtain rfl : u.name = n := of_decide_eq_true hw
      cases h
      obtain rfl : u = t := by simpa using hafter
      exact .inr ⟨rfl, rfl⟩
    | _ => simp [StateRequestMsg.writesTask] at hw
  · rw [serve_getTask_frame h (by simpa using hw)] at hafter
    exact absurd hrun (hbefore t hafter)

/-- A `Requested` task set `Running` by `UpdateTaskState` is registered as it stands after. -/
theorem serve_new_running_on_update :
    let t : Task := ⟨"api", "C1", "z-1", "n1", false, false, false, "192.168.0.7", "", .requested, 0⟩
    let s : State := ⟨"10.0.0.1", "C1", TaskList.new.addNewTask t, NodeList.new⟩
    let o := StateManager.updateTaskState s "api" .running
    s.taskList.getTask "api" = some t ∧
      o.state.taskList.getTask "api" = some { t with state := .running } ∧
      ((StateRequestMsg.updateTaskState "api" .running = .updateTaskState "api" .running ∧
          o.calls = [registerRunningTask s.masterIp { t with state := .running }]) ∨
        (StateRequestMsg.updateTaskState "api" .running = .startTask { t with state := .running } ∧
          o.calls = [])) := by
  intro t s o
  have hs : s.taskList.getTask "api" = some t := by decide
  have ho : o.state.taskList.getTask "api" = some { t with state := .running } := by decide
  exact ⟨hs, ho, @serve_new_running 0 s _ o _ _ rfl ho rfl fun r hr => by cases hs ▸ hr; decide⟩

/-- A peer's `Running` replica inserted by `StartTask` into a table without it ends `Running`
with no registration. -/
theorem startTask_running_replica_unregistered :
    TaskList.new.getTask "api" = none ∧
      (serve 0 ⟨"10.0.0.1", "C1", TaskList.new, NodeList.new⟩
          (.startTask ⟨"api", "C2", "z-1", "n1", false, false, false, "192.168.0.7", "", .running, 0⟩)).map
        (fun o => (o.state.taskList.getTaskState "api", o.calls)) = some (.running, []) := by
  decide

end TorcScheduler
