import TorcScheduler.State.Session

/-!
# The sync and clean loops, one tick run alone

`start_syncing` and `start_cleaning` each spawn a thread that sleeps, then runs one tick, forever.
A tick is a `Session`: `syncTick` and `cleanTick` below, their loop bodies written as in `state.rs`
(a `continue` is the `pure ()` branch).  The clock is read once per loop iteration, as the code
does; the closed forms below are for a clock fixed at `now`, which every read then gives.

* `forM_guarded_apply` — a loop whose body either makes one update or nothing;
* `expireTask_apply`, `promoteTask_apply`, `deactivateNode_apply` — the three loop bodies, at any
  clock;
* `cleanTick_postcondition` — what one clean tick does to every task, every node, and which route
  calls it makes;
* `syncTick_isSome_iff` — when a sync tick ends, and when its announces make the actor panic;
* `syncTick_registers` — a sync tick registers every task running at its snapshot.
-/

namespace TorcScheduler

open Session

namespace StateManager

/-! ### The clean loop -/

/-- The first loop of `start_cleaning`, on one running task: skip an owned task; expire a stale
one, removing its record and then its route. -/
def expireTask (sm : StateManager) (timeout : BitVec 64) (task : Task) : Session Unit := do
  if task.controller = sm.myName then pure ()
  else
    let now ← clock
    if expired task.lastUpdate timeout now then
      sendRemoveTaskByName task.name
      call (.deleteRoute sm.networkAgentType sm.networkAgentConnection task.ip)

/-- The second loop, on one task in `Restart`: skip a foreign task; set a due one `Requested`. -/
def promoteTask (sm : StateManager) (restartDelay : BitVec 64) (task : Task) : Session Unit := do
  if task.controller ≠ sm.myName then pure ()
  else
    let now ← clock
    if expired task.lastUpdate restartDelay now then
      sendUpdateTaskState task.name .requested

/-- The third loop, on one node: skip an inactive node; deactivate a stale one. -/
def deactivateNode (timeout : BitVec 64) (node : Node) : Session Unit := do
  if node.active = false then pure ()
  else
    let now ← clock
    if expired node.lastSeen timeout now then
      sendSetNodeInactive node.name

/-- One tick of `start_cleaning`: each loop over its own snapshot, taken when the loop starts. -/
def cleanTick (sm : StateManager) (timeout restartDelay : BitVec 64) : Session Unit := do
  let runningTasks ← requestListRunningTasks
  runningTasks.forM (sm.expireTask timeout)
  let restartTasks ← requestListRestartTasks
  restartTasks.forM (sm.promoteTask restartDelay)
  let nodes ← requestListNodes
  nodes.forM (deactivateNode timeout)

/-! ### The sync loop -/

/-- `start_syncing`'s loop on one running task: register it, and re-announce it when owned. -/
def syncTask (sm : StateManager) (task : Task) : Session Unit := do
  call (registerRunningTask sm.masterIp task)
  if task.controller = sm.myName then
    sm.sendAnnounceTask task

/-- One tick of `start_syncing`. -/
def syncTick (sm : StateManager) : Session Unit := do
  let runningTasks ← requestListRunningTasks
  runningTasks.forM sm.syncTask

/-! ### The tests of the clean loop -/

/-- The first loop's test: a task of another controller whose `last_update + timeout < now`. -/
def IsExpiredForeign (sm : StateManager) (timeout now : BitVec 64) (task : Task) : Bool :=
  task.controller ≠ sm.myName && expired task.lastUpdate timeout now

/-- The second loop's test: an owned task whose `last_update + restart_delay < now`. -/
def IsDueRestart (sm : StateManager) (restartDelay now : BitVec 64) (task : Task) : Bool :=
  task.controller = sm.myName && expired task.lastUpdate restartDelay now

/-- The third loop's test: an active node whose `last_seen + timeout < now`. -/
def IsStaleNode (timeout now : BitVec 64) (node : Node) : Bool :=
  node.active && expired node.lastSeen timeout now

/-! ### The loop bodies -/

variable (sm : StateManager) (s : State)

/-- The first loop's body at any clock: an owned task reads no clock; a foreign one reads it once
and, if stale by that reading, is removed and its route deleted. -/
theorem expireTask_apply (σ : Clock) (timeout : BitVec 64) (task : Task) :
    sm.expireTask timeout task σ s =
      if sm.IsExpiredForeign timeout (σ 0) task then
        some ((), σ.tail.tail, { s with taskList := s.taskList.removeTaskByName task.name },
          [.deleteRoute sm.networkAgentType sm.networkAgentConnection task.ip])
      else some ((), if task.controller = sm.myName then σ else σ.tail, s, []) := by
  by_cases hc : task.controller = sm.myName <;>
    by_cases he : expired task.lastUpdate timeout (σ 0) <;>
    simp [expireTask, IsExpiredForeign, sendRemoveTaskByName, serve, hc, he]

/-- The second loop's body at any clock. -/
theorem promoteTask_apply (σ : Clock) (restartDelay : BitVec 64) (task : Task) :
    sm.promoteTask restartDelay task σ s =
      if sm.IsDueRestart restartDelay (σ 0) task then
        some ((), σ.tail.tail, { s with taskList := s.taskList.setTaskState task.name .requested },
          [])
      else some ((), if task.controller = sm.myName then σ.tail else σ, s, []) := by
  by_cases hc : task.controller = sm.myName <;>
    by_cases he : expired task.lastUpdate restartDelay (σ 0) <;>
    simp [promoteTask, IsDueRestart, sendUpdateTaskState, serve, hc, he]

/-- The third loop's body at any clock. -/
theorem deactivateNode_apply (σ : Clock) (timeout : BitVec 64) (node : Node) :
    deactivateNode timeout node σ s =
      if IsStaleNode timeout (σ 0) node then
        some ((), σ.tail.tail, { s with nodeList := s.nodeList.setNodeInactive node.name }, [])
      else some ((), if node.active then σ.tail else σ, s, []) := by
  by_cases ha : node.active <;> by_cases he : expired node.lastSeen timeout (σ 0) <;>
    simp [deactivateNode, IsStaleNode, sendSetNodeInactive, serve, ha, he]

end StateManager

/-- A loop whose body, on each element, either makes one update with some calls or does nothing:
it makes the updates of the elements that pass, in order, and their calls. -/
theorem forM_guarded_apply {α : Type} (body : α → Session Unit) (P : α → Bool)
    (upd : α → State → State) (c : α → List Call) (now : BitVec 64)
    (hbody : ∀ x s, body x (Clock.const now) s =
      if P x then some ((), Clock.const now, upd x s, c x) else some ((), Clock.const now, s, []))
    (l : List α) (s : State) :
    l.forM body (Clock.const now) s =
      some ((), Clock.const now, (l.filter P).foldl (fun s x => upd x s) s,
        (l.filter P).flatMap c) := by
  induction l generalizing s with
  | nil => rfl
  | cons x l ih => by_cases hx : P x <;> simp [hbody, hx, ih]

namespace StateManager

/-! ### One clean tick -/

/-- A loop of task-table writes, seen on the task table. -/
theorem foldl_taskList {α : Type} (g : α → TaskList → TaskList) (l : List α) (s : State) :
    l.foldl (fun s x => { s with taskList := g x s.taskList }) s =
      { s with taskList := l.foldl (fun tl x => g x tl) s.taskList } := by
  induction l generalizing s with
  | nil => rfl
  | cons x l ih => exact ih _

/-- A loop of node-table writes, seen on the node table. -/
theorem foldl_nodeList {α : Type} (g : α → NodeList → NodeList) (l : List α) (s : State) :
    l.foldl (fun s x => { s with nodeList := g x s.nodeList }) s =
      { s with nodeList := l.foldl (fun nl x => g x nl) s.nodeList } := by
  induction l generalizing s with
  | nil => rfl
  | cons x l ih => exact ih _

/-- What a clean tick leaves of the task record it finds under a name. -/
def cleanTask (sm : StateManager) (timeout restartDelay now : BitVec 64) (t : Task) :
    Option Task :=
  if t.state = .running ∧ sm.IsExpiredForeign timeout now t then none
  else if t.state = .restart ∧ sm.IsDueRestart restartDelay now t then
    some { t with state := .requested }
  else some t

/-- What a clean tick leaves of a node record. -/
def cleanNode (timeout now : BitVec 64) (x : Node) : Node :=
  if IsStaleNode timeout now x then { x with active := false } else x

/-- One call per element, flattened. -/
theorem flatten_map_singleton {α β : Type} (f : α → β) (l : List α) :
    (l.map fun x => [f x]).flatten = l.map f := by
  induction l with
  | nil => rfl
  | cons x l ih => simp [ih]

/-- **One clean tick**, run alone at clock `now`: the expired foreign running tasks are removed and
their routes asked to be removed, then the due owned restarts of the table left are set `Requested`,
then the stale active nodes are deactivated. -/
theorem cleanTick_apply (sm : StateManager) (timeout restartDelay now : BitVec 64) (s : State) :
    sm.cleanTick timeout restartDelay (Clock.const now) s =
      let l₁ := (s.taskList.getTasksWithState .running).filter (sm.IsExpiredForeign timeout now)
      let tl₁ := l₁.foldl (fun tl t => tl.removeTaskByName t.name) s.taskList
      let l₂ := (tl₁.getTasksWithState .restart).filter (sm.IsDueRestart restartDelay now)
      let l₃ := s.nodeList.getNodes.filter (IsStaleNode timeout now)
      some ((), Clock.const now, { s with
          taskList := l₂.foldl (fun tl t => tl.setTaskState t.name .requested) tl₁
          nodeList := l₃.foldl (fun nl x => nl.setNodeInactive x.name) s.nodeList },
        l₁.map fun t => .deleteRoute sm.networkAgentType sm.networkAgentConnection t.ip) := by
  simp [cleanTick,
    forM_guarded_apply (sm.expireTask timeout) _ _ _ now
      (fun x s => by simpa using expireTask_apply sm s (Clock.const now) timeout x),
    forM_guarded_apply (sm.promoteTask restartDelay) _ _ _ now
      (fun x s => by simpa using promoteTask_apply sm s (Clock.const now) restartDelay x),
    forM_guarded_apply (deactivateNode timeout) _ _ _ now
      (fun x s => by simpa using deactivateNode_apply s (Clock.const now) timeout x),
    foldl_taskList (fun (t : Task) (tl : TaskList) => tl.removeTaskByName t.name),
    foldl_taskList (fun (t : Task) (tl : TaskList) => tl.setTaskState t.name .requested),
    foldl_nodeList (fun (x : Node) (nl : NodeList) => nl.setNodeInactive x.name), List.flatMap,
    flatten_map_singleton]

/-- The records a clean tick at `now` leaves, read by name: each task record through `cleanTask`,
each node through `cleanNode`. -/
theorem cleanTick_lookup {sm : StateManager} {timeout restartDelay now : BitVec 64} {s s' : State}
    {σ' : Clock} {cs : List Call}
    (h : sm.cleanTick timeout restartDelay (Clock.const now) s = some ((), σ', s', cs)) :
    (∀ n, s'.taskList.getTask n =
      (s.taskList.getTask n).bind (sm.cleanTask timeout restartDelay now)) ∧
      ∀ n, s'.nodeList.getNode n = (s.nodeList.getNode n).map (cleanNode timeout now) := by
  rw [cleanTick_apply] at h
  simp only [Option.some.injEq, Prod.mk.injEq] at h
  obtain ⟨-, -, rfl, -⟩ := h
  refine ⟨fun n => ?_, fun n => ?_⟩
  · simp only [TaskList.getTask_foldl_setTaskState, TaskList.any_filter_getTasksWithState,
      TaskList.getTask_foldl_removeTaskByName]
    cases h : s.taskList.getTask n with
    | none => simp
    | some r =>
      simp only [Bool.and_eq_true, decide_eq_true_eq, Option.some_bind, cleanTask]
      by_cases h1 : r.state = .running ∧ sm.IsExpiredForeign timeout now r
      · simp [h1]
      · by_cases h2 : r.state = .restart ∧ sm.IsDueRestart restartDelay now r <;> simp [h1, h2]
  · simp only [NodeList.getNode_foldl_setNodeInactive, NodeList.any_filter_getNodes]
    cases h : s.nodeList.getNode n with
    | none => simp
    | some x => by_cases hx : IsStaleNode timeout now x <;> simp [hx, cleanNode]

/-- **Clean tick postcondition.** A clean tick run alone with clock `now` ends; every task record
becomes what `cleanTask` makes of it (expired foreign running tasks gone, due owned restarts
`Requested`, every other record unchanged), every node what `cleanNode` makes of it, and the calls
are exactly one `delete_route` per expired foreign running task, with its ip, in table order. -/
theorem cleanTick_postcondition (sm : StateManager) (timeout restartDelay now : BitVec 64)
    (s : State) :
    ∃ s', sm.cleanTick timeout restartDelay (Clock.const now) s =
        some ((), Clock.const now, s', ((s.taskList.getTasksWithState .running).filter
          (sm.IsExpiredForeign timeout now)).map fun t =>
            .deleteRoute sm.networkAgentType sm.networkAgentConnection t.ip) ∧
      (∀ n, s'.taskList.getTask n =
        (s.taskList.getTask n).bind (sm.cleanTask timeout restartDelay now)) ∧
      ∀ n, s'.nodeList.getNode n = (s.nodeList.getNode n).map (cleanNode timeout now) :=
  let ⟨ht, hn⟩ := cleanTick_lookup (cleanTick_apply sm timeout restartDelay now s)
  ⟨_, cleanTick_apply sm timeout restartDelay now s, ht, hn⟩

/-! ### When a sync tick ends -/

variable {sm : StateManager}

/-- The sync loop over a list of records the table holds, with distinct names, in a table where no
record has the empty name, ends exactly when every owned record with an empty id has its node in
the table. -/
theorem forM_syncTask_isSome {l : List Task} {s : State}
    (hcur : ∀ t ∈ l, s.taskList.getTask t.name = some t) (hnd : (l.map Task.name).Nodup)
    (hnamed : s.taskList.getTask "" = none) (σ : Clock) :
    (l.forM sm.syncTask σ s).isSome ↔
      ∀ t ∈ l, t.controller = sm.myName → t.id = "" → (s.nodeList.getNode t.nodeName).isSome := by
  induction l generalizing σ s with
  | nil => simp
  | cons t l ih =>
    have ht := hcur t (List.mem_cons_self _ _)
    have hname := TaskList.ne_empty_of_getTask hnamed ht
    have hlid :=
      TaskList.getTaskNameById_length_pos_iff ((s.taskList.getTask_eq_some_iff).1 ht).1 hnamed
    -- the iteration on `t` leaves the other records and the node table as they were
    have rest : ∀ {s' : State} (σ' : Clock),
        (∀ n, t.name ≠ n → s'.taskList.getTask n = s.taskList.getTask n) →
        s'.nodeList = s.nodeList → ((l.forM sm.syncTask σ' s').isSome ↔
          ∀ x ∈ l, x.controller = sm.myName → x.id = "" →
            (s.nodeList.getNode x.nodeName).isSome) := by
      intro s' σ' hf hN
      obtain ⟨hcur', hnd'⟩ :=
        Table.forall_tail_of_nodup hcur hnd fun u hne hu => (hf _ hne).trans hu
      rw [← hN]
      exact ih hcur' hnd' ((hf "" hname).trans hnamed) σ'
    rw [List.forall_mem_cons]
    simp only [forM_cons, syncTask, bind_apply, call_apply, Option.some_bind, Option.map_some',
      Option.isSome_map']
    by_cases ho : t.controller = sm.myName
    · simp only [ho, if_true, sendAnnounceTask_apply, true_implies]
      by_cases hid : t.id = ""
      · -- the lookup misses: the announce asks for the node
        simp only [show ¬ (s.taskList.getTaskNameById t.id).length > 0 from
          fun hl => hlid.1 hl hid, if_false]
        simp only [hid, true_implies]
        cases hn : s.nodeList.getNode t.nodeName with
        | none => simp
        | some node =>
          simp only [Option.map_some', Option.some_bind, Option.isSome_map', Option.isSome_some,
            true_and]
          exact rest _ (fun n hn => by simp [hn]) rfl
      · -- a heartbeat: the id finds a name, and the record is only stamped
        simp only [show (s.taskList.getTaskNameById t.id).length > 0 from hlid.2 hid, if_true,
          Option.some_bind, Option.map_some', Option.isSome_map', hid, false_implies, true_and]
        exact rest _ (fun n hn => by simp [hn]) rfl
    · simp only [ho, if_false, pure_apply, Option.some_bind, Option.map_some', Option.isSome_map',
        false_implies, true_and]
      exact rest σ (fun _ _ => rfl) rfl

/-- **When the sync thread brings the actor down.** In a table where no record has the empty name,
a sync tick run alone ends exactly when every owned `Running` task with an empty id has its node
in the node table.  An owned task with an id is found by it and only stamped; one without an id
misses the lookup, and its announce asks for its node with `GetNode`, which aborts the actor when
the node is missing. -/
theorem syncTick_isSome_iff {s : State} (hnamed : s.taskList.getTask "" = none) (σ : Clock) :
    (sm.syncTick σ s).isSome ↔
      ∀ t ∈ s.taskList.getTasksWithState .running, t.controller = sm.myName → t.id = "" →
        (s.nodeList.getNode t.nodeName).isSome := by
  simp only [syncTick, bind_apply, requestListRunningTasks_apply, Option.some_bind,
    Option.isSome_map']
  exact forM_syncTask_isSome (fun t ht => ((s.taskList.mem_getTasksWithState _ t).1 ht).1)
    (s.taskList.nodup_getTasksWithState _) hnamed σ.tail

/-! ### What a sync tick registers -/

/-- One iteration of the sync loop registers its task first. -/
theorem syncTask_registers {t : Task} {σ σ' : Clock} {s s' : State} {cs : List Call}
    (h : sm.syncTask t σ s = some ((), σ', s', cs)) : registerRunningTask sm.masterIp t ∈ cs := by
  obtain ⟨_, _, _, c₁, c₂, h₁, -, rfl⟩ := bind_eq_some.1 h
  cases h₁
  exact List.mem_append_left _ (List.mem_singleton_self _)

/-- The sync loop registers every task of its list. -/
theorem forM_syncTask_registers (l : List Task) {σ σ' : Clock} {s s' : State} {cs : List Call}
    (h : l.forM sm.syncTask σ s = some ((), σ', s', cs)) :
    ∀ t ∈ l, registerRunningTask sm.masterIp t ∈ cs := by
  induction l generalizing σ s cs with
  | nil => simp
  | cons t l ih =>
    rw [forM_cons] at h
    obtain ⟨_, _, _, c₁, c₂, h₁, h₂, rfl⟩ := bind_eq_some.1 h
    intro u hu
    rcases List.mem_cons.1 hu with rfl | hu
    · exact List.mem_append_left _ (syncTask_registers h₁)
    · exact List.mem_append_right _ (ih h₂ u hu)

/-- **A sync tick registers every running task.** Every task `Running` in the table when the tick
takes its snapshot, this controller's or a peer's, is registered with the master during the tick,
under its name and ip. -/
theorem syncTick_registers {σ σ' : Clock} {s s' : State} {cs : List Call}
    (h : sm.syncTick σ s = some ((), σ', s', cs)) (t : Task) (ht : t ∈ s.taskList.tasks)
    (hrun : t.state = .running) : registerRunningTask sm.masterIp t ∈ cs := by
  obtain ⟨l, _, _, c₁, c₂, h₁, h₂, rfl⟩ := bind_eq_some.1 h
  rw [requestListRunningTasks_apply] at h₁
  cases h₁
  exact List.mem_append_right _ (forM_syncTask_registers _ h₂ t
    ((TaskList.mem_getTasksWithState _ _ t).2 ⟨TaskList.getTask_of_mem ht, hrun⟩))

/-- A peer's running replica is registered by the tick, though this controller does not own it. -/
theorem syncTick_registers_replica :
    let sm : StateManager := ⟨"10.0.0.1", "C1", "fboss", "10.0.0.1"⟩
    let api : Task := ⟨"api", "C2", "z-1", "n1", false, false, false, "192.168.0.7", "", .running, 0⟩
    let s : State := ⟨"10.0.0.1", "C1", TaskList.new.addNewTask api, NodeList.new⟩
    sm.syncTick (Clock.const 0) s =
        some ((), Clock.const 0, s, [registerRunningTask "10.0.0.1" api]) ∧
      api ∈ s.taskList.tasks ∧ api.state = .running ∧
      registerRunningTask sm.masterIp api ∈ [registerRunningTask "10.0.0.1" api] := by
  intro sm api s
  have h : sm.syncTick (Clock.const 0) s =
      some ((), Clock.const 0, s, [registerRunningTask "10.0.0.1" api]) := rfl
  have ht : api ∈ s.taskList.tasks := List.mem_singleton_self _
  exact ⟨h, ht, rfl, syncTick_registers h api ht rfl⟩

end StateManager

end TorcScheduler
