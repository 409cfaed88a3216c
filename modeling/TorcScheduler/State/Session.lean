import TorcScheduler.State.Replies

/-!
# Clients of the actor, run alone

A `StateManager` method sends requests to the actor and blocks on each reply.  Run with no other
client in between, it is a `Session`: from the actor's state and the clock it gives a result, the
state after, and the collaborator calls made — by the handlers it triggered and by itself — in
order.  `none` is the actor panicking (the client's `recv().unwrap()` then panics as well).

The clock is a `Clock`, the values `UTC::now()` returns at successive reads: the client reads it
where the code calls `UTC::now()`, and the actor reads it once per request it serves.  Nothing is
assumed of the values, so one session covers every timing of its reads; `Clock.const now` is a
clock fixed at `now`.

The client methods of `state.rs` come in two families.  Every `request_*` method is `request`
applied to its message and to its reply `match`: the one named arm `read` and the `_ =>` default;
every `send_*` method is `sendAndWait` applied to its message.  `request_apply` and
`sendAndWait_apply` say once what each family does.  `send_add_node` and `send_start_task` build a
record stamped with the clock first, and keep their own bodies.  `sendAnnounceTask_apply` says once
what `send_announce_task` does to the task table and which route calls it makes; the loops and the
route invariant use it instead of unfolding the method.
-/

namespace TorcScheduler

/-- What `UTC::now()` returns at each read, in the order of the reads. -/
def Clock : Type := Nat → BitVec 64

namespace Clock

/-- The clock after one read. -/
def tail (σ : Clock) : Clock := fun i => σ (i + 1)

/-- A clock that reads `now` every time. -/
def const (now : BitVec 64) : Clock := fun _ => now

@[simp] theorem tail_apply (σ : Clock) (i : Nat) : σ.tail i = σ (i + 1) := rfl

@[simp] theorem const_apply (now : BitVec 64) (i : Nat) : const now i = now := rfl

@[simp] theorem tail_const (now : BitVec 64) : (const now).tail = const now := rfl

end Clock

/-- A client running alone: clock and actor state in, result, clock, actor state and calls out. -/
def Session (α : Type) : Type :=
  Clock → State → Option (α × Clock × State × List Call)

namespace Session

variable {α β : Type}

/-- Return `a`, touching nothing. -/
protected def pure (a : α) : Session α :=
  fun σ s => some (a, σ, s, [])

/-- Run `x`, then `f` on its result; the calls of both, in order. -/
protected def bind (x : Session α) (f : α → Session β) : Session β :=
  fun σ s => (x σ s).bind fun (a, σ₁, s₁, c₁) =>
    (f a σ₁ s₁).map fun (b, σ₂, s₂, c₂) => (b, σ₂, s₂, c₁ ++ c₂)

instance : Monad Session where
  pure := Session.pure
  bind := Session.bind

/-- `self.sender.send(msg).unwrap()` and then `receiver.recv().unwrap()`: one blocking request,
served at the next clock reading. -/
def send (msg : StateRequestMsg) : Session StateResponseMsg :=
  fun σ s => (serve (σ 0) s msg).map fun o => (o.reply, σ.tail, o.state, o.calls)

/-- A collaborator call the client makes itself. -/
def call (c : Call) : Session Unit :=
  fun σ s => some ((), σ, s, [c])

/-- `UTC::now().timestamp()`. -/
def clock : Session (BitVec 64) :=
  fun σ s => some (σ 0, σ.tail, s, [])

@[simp] theorem pure_apply (a : α) (σ : Clock) (s : State) :
    (pure a : Session α) σ s = some (a, σ, s, []) := rfl

@[simp] theorem bind_apply (x : Session α) (f : α → Session β) (σ : Clock) (s : State) :
    (x >>= f) σ s = (x σ s).bind fun (a, σ₁, s₁, c₁) =>
      (f a σ₁ s₁).map fun (b, σ₂, s₂, c₂) => (b, σ₂, s₂, c₁ ++ c₂) :=
  rfl

@[simp] theorem send_apply (msg : StateRequestMsg) (σ : Clock) (s : State) :
    send msg σ s = (serve (σ 0) s msg).map fun o => (o.reply, σ.tail, o.state, o.calls) := rfl

@[simp] theorem call_apply (c : Call) (σ : Clock) (s : State) :
    call c σ s = some ((), σ, s, [c]) := rfl

@[simp] theorem clock_apply (σ : Clock) (s : State) : clock σ s = some (σ 0, σ.tail, s, []) := rfl

@[simp] theorem forM_nil (f : α → Session Unit) : ([] : List α).forM f = pure () := rfl

@[simp] theorem forM_cons (f : α → Session Unit) (a : α) (l : List α) :
    (a :: l).forM f = f a >>= fun _ => l.forM f := rfl

/-- A loop whose every body ends with no call, moving the state along a preorder `R`, ends with no
call, moving it along `R`. -/
theorem forM_preorder {R : State → State → Prop} (hrefl : ∀ s, R s s)
    (htrans : ∀ {s₁ s₂ s₃}, R s₁ s₂ → R s₂ s₃ → R s₁ s₃) {body : α → Session Unit} (l : List α)
    (hbody : ∀ a ∈ l, ∀ σ s, ∃ σ' s', body a σ s = some ((), σ', s', []) ∧ R s s')
    (σ : Clock) (s : State) : ∃ σ' s', l.forM body σ s = some ((), σ', s', []) ∧ R s s' := by
  induction l generalizing σ s with
  | nil => exact ⟨σ, s, rfl, hrefl s⟩
  | cons a l ih =>
    obtain ⟨σ₁, s₁, h₁, r₁⟩ := hbody a (List.mem_cons_self _ _) σ s
    obtain ⟨σ₂, s₂, h₂, r₂⟩ := ih (fun b hb => hbody b (List.mem_cons_of_mem _ hb)) σ₁ s₁
    exact ⟨σ₂, s₂, by simp [h₁, h₂], htrans r₁ r₂⟩

theorem pure_bind (a : α) (f : α → Session β) : pure a >>= f = f a := by
  funext σ s
  simp only [bind_apply, pure_apply, Option.some_bind, List.nil_append]
  cases f a σ s with
  | none => rfl
  | some r => rfl

/-- A sequence that ends is its first part ending, then its second part ending from there. -/
theorem bind_eq_some {x : Session α} {f : α → Session β} {σ σ₂ : Clock} {s s₂ : State} {b : β}
    {cs : List Call} :
    (x >>= f) σ s = some (b, σ₂, s₂, cs) ↔
      ∃ a σ₁ s₁ c₁ c₂, x σ s = some (a, σ₁, s₁, c₁) ∧ f a σ₁ s₁ = some (b, σ₂, s₂, c₂) ∧
        cs = c₁ ++ c₂ := by
  simp only [bind_apply, Option.bind_eq_some, Option.map_eq_some', Prod.mk.injEq, Prod.exists]
  constructor
  · rintro ⟨a, σ₁, s₁, c₁, hx, b', σ₂', s₂', c₂, hf, rfl, rfl, rfl, rfl⟩
    exact ⟨a, σ₁, s₁, c₁, c₂, hx, hf, rfl⟩
  · rintro ⟨a, σ₁, s₁, c₁, c₂, hx, hf, rfl⟩
    exact ⟨a, σ₁, s₁, c₁, hx, b, σ₂, s₂, c₂, hf, rfl, rfl, rfl, rfl⟩

theorem ite_bind (c : Prop) [Decidable c] (x y : Session α) (f : α → Session β) :
    (if c then x else y) >>= f = if c then x >>= f else y >>= f := by
  split <;> rfl

theorem bind_assoc {γ : Type} (x : Session α) (f : α → Session β) (g : β → Session γ) :
    x >>= f >>= g = x >>= fun a => f a >>= g := by
  funext σ s
  simp only [bind_apply]
  cases x σ s with
  | none => rfl
  | some r =>
    simp only [Option.some_bind]
    cases f r.1 r.2.1 r.2.2.1 with
    | none => rfl
    | some r₂ =>
      simp only [Option.map_some', Option.some_bind]
      cases g r₂.1 r₂.2.1 r₂.2.2.1 with
      | none => rfl
      | some r₃ => simp

end Session

open Session

namespace StateManager

/-! ### Requests, each with the reply `match` of its method -/

/-- The shape of every `request_*` method: send `msg`, block on the reply, and read it with the
method's `match`, whose one named arm is `read` and whose `_ =>` arm gives `default`. -/
def request {α : Type} (msg : StateRequestMsg) (read : StateResponseMsg → Option α)
    (default : α) : Session α := do
  match read (← send msg) with
  | some a => pure a
  | none => pure default

/-- The shape of every `send_*` method: send `msg` and block on the reply, whatever it is. -/
def sendAndWait (msg : StateRequestMsg) : Session Unit := do
  let _ ← send msg

/-- A request returns what its named arm reads of the handler's reply, or its default. -/
@[simp] theorem request_apply {α : Type} (msg : StateRequestMsg)
    (read : StateResponseMsg → Option α) (default : α) (σ : Clock) (s : State) :
    request msg read default σ s =
      (serve (σ 0) s msg).map fun o => ((read o.reply).getD default, σ.tail, o.state, o.calls) := by
  simp only [request, bind_apply, send_apply]
  cases serve (σ 0) s msg with
  | none => rfl
  | some o => cases h : read o.reply <;> simp [h]

@[simp] theorem sendAndWait_apply (msg : StateRequestMsg) (σ : Clock) (s : State) :
    sendAndWait msg σ s = (serve (σ 0) s msg).map fun o => ((), σ.tail, o.state, o.calls) := by
  simp only [sendAndWait, bind_apply, send_apply]
  cases serve (σ 0) s msg <;> simp

/-- `send_ping`. -/
def sendPing : Session Unit :=
  sendAndWait .ping

/-- `request_task_state`. -/
def requestTaskState (taskName : String) : Session TaskState :=
  request (.getTaskState taskName) (fun | .taskState taskState => some taskState | _ => none)
    .notRunning

/-- `request_task_ip`. -/
def requestTaskIp (taskName : String) : Session String :=
  request (.getTaskIP taskName) (fun | .taskIP taskIp => some taskIp | _ => none) ""

/-- `request_task_name_by_id`. -/
def requestTaskNameById (idPrefix : String) : Session String :=
  request (.getTaskNameById idPrefix) (fun | .taskName taskName => some taskName | _ => none) ""

/-- `send_update_task_state`. -/
def sendUpdateTaskState (taskName : String) (taskState : TaskState) : Session Unit :=
  sendAndWait (.updateTaskState taskName taskState)

/-- `send_update_task_node_name`. -/
def sendUpdateTaskNodeName (taskName nodeName : String) : Session Unit :=
  sendAndWait (.updateTaskNodeName taskName nodeName)

/-- `send_update_task_info`. -/
def sendUpdateTaskInfo (taskName id ip slaveId : String) : Session Unit :=
  sendAndWait (.updateTaskInfo taskName id ip slaveId)

/-- `send_start_task`: a task this controller launches is its own, with no id, ip or slave id yet,
`Requested`, and `last_update` stamped now (the fields the model leaves out are passed through). -/
def sendStartTask (sm : StateManager) (name nodeName : String)
    (isMetered isSystemService isJob : Bool) : Session Unit := do
  let lastUpdate ← clock
  sendAndWait (.startTask ⟨name, sm.myName, "", nodeName, isMetered, isSystemService, isJob, "", "",
    .requested, lastUpdate⟩)

/-- `send_restart_task`. -/
def sendRestartTask (taskName : String) : Session Unit :=
  sendAndWait (.restartTask taskName)

/-- `request_is_restartable_task`. -/
def requestIsRestartableTask (taskName : String) : Session Bool :=
  request (.getIsRestartableTask taskName)
    (fun | .getIsRestartableTask isRestartableTask => some isRestartableTask | _ => none) false

/-- `send_remove_task_by_name`. -/
def sendRemoveTaskByName (taskName : String) : Session Unit :=
  sendAndWait (.removeTask taskName)

/-- `request_list_requested_tasks`. -/
def requestListRequestedTasks : Session (List Task) :=
  request .getRequestedTasks
    (fun | .getRequestedTasks requestedTasks => some requestedTasks | _ => none) []

/-- `request_list_running_tasks`. -/
def requestListRunningTasks : Session (List Task) :=
  request .getRunningTasks (fun | .getRunningTasks runningTasks => some runningTasks | _ => none) []

/-- `request_list_restart_tasks`. -/
def requestListRestartTasks : Session (List Task) :=
  request .getRestartTasks (fun | .getRestartTasks restartTasks => some restartTasks | _ => none) []

/-- `send_add_node`: a configured node starts inactive, with function `none`, no slave id, and
`last_seen` stamped now (its ip, management ip and port are not modelled). -/
def sendAddNode (name externalIp nodeType : String) : Session Unit := do
  let lastSeen ← clock
  sendAndWait (.addNode ⟨name, externalIp, nodeType, "none", false, "", lastSeen⟩)

/-- `request_is_node_active`. -/
def requestIsNodeActive (nodeName : String) : Session Bool :=
  request (.getIsNodeActive nodeName) (fun | .getIsNodeActive isActive => some isActive | _ => none)
    false

/-- `send_set_node_inactive`. -/
def sendSetNodeInactive (nodeName : String) : Session Unit :=
  sendAndWait (.setNodeInactive nodeName)

/-- `send_update_node`. -/
def sendUpdateNode (nodeName nodeType nodeFunction slaveId : String) : Session Unit :=
  sendAndWait (.updateNode nodeName nodeType nodeFunction slaveId)

/-- `request_node`. -/
def requestNode (nodeName : String) : Session (Option Node) :=
  request (.getNode nodeName) (fun | .getNode node => some (some node) | _ => none) none

/-- `request_list_nodes`. -/
def requestListNodes : Session (List Node) :=
  request .getNodes (fun | .getNodes nodes => some nodes | _ => none) []

/-- A `nodes` entry of the configuration, with the fields the model keeps. -/
structure NodeConfig where
  name : String
  externalIp : String
  nodeType : String

/-- `load_node_list`: each configured node, in order. -/
def loadNodeList (nodes : List NodeConfig) : Session Unit :=
  nodes.forM fun node => sendAddNode node.name node.externalIp node.nodeType

/-- The state `start_serving` gives the serving thread: the configuration and empty tables. -/
def initialState (sm : StateManager) : State :=
  ⟨sm.masterIp, sm.myName, TaskList.new, NodeList.new⟩

/-- `StateManager::new`, once the serving thread runs: load the configured nodes, then reset the
routing agent's table. -/
def new (sm : StateManager) (nodes : List NodeConfig) : Session Unit := do
  loadNodeList nodes
  call (.resetFib sm.networkAgentType sm.networkAgentConnection)

@[simp] theorem sendAddNode_apply (name externalIp nodeType : String) (σ : Clock) (s : State) :
    sendAddNode name externalIp nodeType σ s =
      some ((), σ.tail.tail,
        { s with nodeList :=
            (s.nodeList.addNewNode ⟨name, externalIp, nodeType, "none", false, "", σ 0⟩) },
        []) := by
  simp [sendAddNode, serve]

/-- Loading configured nodes ends, makes no call and writes only the node table: each configured
name gets a record, and every record is one the table held or a configured node's, inactive. -/
theorem loadNodeList_spec (nodes : List NodeConfig) (σ : Clock) (s : State) :
    ∃ σ' nl, loadNodeList nodes σ s = some ((), σ', { s with nodeList := nl }, []) ∧
      (∀ n, (s.nodeList.getNode n).isSome → (nl.getNode n).isSome) ∧
      (∀ c ∈ nodes, (nl.getNode c.name).isSome) ∧
      ∀ n x, nl.getNode n = some x → s.nodeList.getNode n = some x ∨
        ∃ c ∈ nodes, x = ⟨c.name, c.externalIp, c.nodeType, "none", false, "", x.lastSeen⟩ := by
  induction nodes generalizing σ s with
  | nil => exact ⟨σ, s.nodeList, rfl, fun _ => id, by simp, fun _ _ h => .inl h⟩
  | cons c cs ih =>
    obtain ⟨σ', nl, hrun, hkeep, hall, hfrom⟩ := ih σ.tail.tail
      { s with nodeList :=
          (s.nodeList.addNewNode ⟨c.name, c.externalIp, c.nodeType, "none", false, "", σ 0⟩) }
    refine ⟨σ', nl, ?_, fun n hn => hkeep n ?_, fun c' hc' => ?_, fun n x hx => ?_⟩
    · simp only [loadNodeList, forM_cons, bind_apply, sendAddNode_apply, Option.some_bind] at hrun ⊢
      simp [hrun]
    · simp only [NodeList.getNode_addNewNode]
      split <;> simp_all
    · rcases List.mem_cons.1 hc' with rfl | hc'
      · exact hkeep _ (by simp)
      · exact hall c' hc'
    · rcases hfrom n x hx with h | ⟨c', hc', hx'⟩
      · simp only [NodeList.getNode_addNewNode] at h
        split at h
        · cases h
          exact .inr ⟨c, List.mem_cons_self _ _, rfl⟩
        · exact .inl h
      · exact .inr ⟨c', List.mem_cons_of_mem _ hc', hx'⟩

/-- **Initialisation.** `StateManager::new` ends from the serving thread's initial state: the
task table is empty, each configured node has a record, every record is a configured node's,
inactive with function `none` and no slave id, and the one collaborator call is `reset_fib`, made
after the nodes are loaded. -/
theorem new_spec (sm : StateManager) (nodes : List NodeConfig) (σ : Clock) :
    ∃ σ' nl, sm.new nodes σ sm.initialState =
        some ((), σ', { sm.initialState with nodeList := nl },
          [.resetFib sm.networkAgentType sm.networkAgentConnection]) ∧
      (∀ c ∈ nodes, (nl.getNode c.name).isSome) ∧
      ∀ n x, nl.getNode n = some x →
        ∃ c ∈ nodes, x = ⟨c.name, c.externalIp, c.nodeType, "none", false, "", x.lastSeen⟩ := by
  obtain ⟨σ', nl, hrun, -, hall, hfrom⟩ := loadNodeList_spec nodes σ sm.initialState
  refine ⟨σ', nl, ?_, hall, fun n x hx => (hfrom n x hx).resolve_left (by simp [initialState])⟩
  simp [new, hrun]

@[simp] theorem requestTaskNameById_apply (idPrefix : String) (σ : Clock) (s : State) :
    requestTaskNameById idPrefix σ s =
      some (s.taskList.getTaskNameById idPrefix, σ.tail, s, []) :=
  rfl

@[simp] theorem requestTaskIp_apply (taskName : String) (σ : Clock) (s : State) :
    requestTaskIp taskName σ s = some (taskIp s taskName, σ.tail, s, []) :=
  rfl

@[simp] theorem requestNode_apply (nodeName : String) (σ : Clock) (s : State) :
    requestNode nodeName σ s =
      (s.nodeList.getNode nodeName).map fun node => (some node, σ.tail, s, []) := by
  cases h : s.nodeList.getNode nodeName <;> simp [requestNode, serve, h]

@[simp] theorem requestListRunningTasks_apply (σ : Clock) (s : State) :
    requestListRunningTasks σ s = some (s.taskList.getTasksWithState .running, σ.tail, s, []) :=
  rfl

@[simp] theorem requestListRestartTasks_apply (σ : Clock) (s : State) :
    requestListRestartTasks σ s = some (s.taskList.getTasksWithState .restart, σ.tail, s, []) :=
  rfl

/-- `send_start_task` reads the clock and inserts an owned `Requested` record with no id, ip or
slave id yet, stamped with that reading. -/
theorem sendStartTask_apply (sm : StateManager) (name nodeName : String)
    (isMetered isSystemService isJob : Bool) (σ : Clock) (s : State) :
    sm.sendStartTask name nodeName isMetered isSystemService isJob σ s =
      some ((), σ.tail.tail, { s with taskList := s.taskList.addNewTask (⟨name, sm.myName, "",
        nodeName, isMetered, isSystemService, isJob, "", "", .requested, σ 0⟩) }, []) :=
  rfl

@[simp] theorem requestListNodes_apply (σ : Clock) (s : State) :
    requestListNodes σ s = some (s.nodeList.getNodes, σ.tail, s, []) :=
  rfl

/-! ### Announcing a task -/

/-- `send_announce_task`: a task whose id the table already knows is a heartbeat, which stamps the
record of the announced name; otherwise a route to the task's node is installed, a route left by a
record of the same name is removed ("just in case it hasn't get cleaned up yet"), and the record is
inserted as announced. -/
def sendAnnounceTask (sm : StateManager) (task : Task) : Session Unit := do
  if (← requestTaskNameById task.id).length > 0 then
    let _ ← send (.updateTaskLastUpdate task.name)
  else
    match ← requestNode task.nodeName with
    | some node =>
      call (.addRoute sm.networkAgentType sm.networkAgentConnection task.ip node.externalIp)
    | none => pure ()
    let ip ← requestTaskIp task.name
    if ip.length > 0 then
      call (.deleteRoute sm.networkAgentType sm.networkAgentConnection ip)
    let _ ← send (.startTask task)

/-- **What an announce does**, run alone.  If the id lookup answers a name, only the record named
`task.name` is stamped, with the clock the actor reads for it.  Otherwise the announce needs
`task.nodeName` in the node table (else the actor aborts on `GetNode`); it then asks for a route to
the task via that node, asks to remove the route of the ip the old record of that name leaves
behind, and inserts `task`. -/
theorem sendAnnounceTask_apply (sm : StateManager) (task : Task) (σ : Clock) (s : State) :
    sm.sendAnnounceTask task σ s =
      if (s.taskList.getTaskNameById task.id).length > 0 then
        some ((), σ.tail.tail,
          { s with taskList := s.taskList.updateTaskLastUpdate task.name (σ 1) }, [])
      else
        (s.nodeList.getNode task.nodeName).map fun node =>
          ((), σ.tail.tail.tail.tail, { s with taskList := s.taskList.addNewTask task },
            .addRoute sm.networkAgentType sm.networkAgentConnection task.ip node.externalIp ::
              if (taskIp s task.name).length > 0 then
                [.deleteRoute sm.networkAgentType sm.networkAgentConnection (taskIp s task.name)]
              else []) := by
  simp only [sendAnnounceTask, bind_apply, requestTaskNameById_apply, Option.some_bind]
  split
  · simp [serve]
  · by_cases hip : 0 < (taskIp s task.name).length <;>
      cases hn : s.nodeList.getNode task.nodeName <;> simp [hn, hip, serve]

/-- An announce whose id is a proper prefix of another task's id is taken for that task's heartbeat:
the announced task is not inserted and nothing changes. -/
theorem sendAnnounceTask_prefix_collision :
    let x : Task := ⟨"x", "C2", "z-12", "n1", false, false, false, "192.168.0.8", "", .running, 0⟩
    let y : Task := ⟨"y", "C2", "z-1", "n1", false, false, false, "192.168.0.7", "", .running, 5⟩
    let s : State := ⟨"10.0.0.1", "C1", TaskList.new.addNewTask x,
      NodeList.new.addNewNode ⟨"n1", "10.0.0.11", "slave", "none", true, "s1", 0⟩⟩
    (sendAnnounceTask ⟨"10.0.0.1", "C1", "fboss", "10.0.0.1"⟩ y (Clock.const 7) s).map
        (fun r => (r.2.2.1.taskList.getTask "y", r.2.2.1.taskList.getTask "x", r.2.2.2)) =
      some (none, some x, []) := by
  decide

end StateManager

end TorcScheduler
