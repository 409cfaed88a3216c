import TorcScheduler.State.Loops
import TorcScheduler.Threads.System

/-!
# The clean thread, interleaved

`start_cleaning`'s tick as a program counter: each value stands before one request of the tick to
the actor (or before a clock read), and carries the snapshot still to visit together with what
the tick has read of the clock.

* `cleanCont_step` — the code still to run from each counter value is its action followed by the
  code from the next one, and from `listRunning` it is `cleanTick`: run with nothing in between,
  the actions are the tick;
* `cleanTick_iff_runsAlone` — so the actions run alone from `listRunning` to `done` are exactly the
  runs of `cleanTick`;
* `clean_mutation_justified` — under any interleaving, a mutation the tick is about to apply finds
  its record still passing the tick's test, unless another client wrote that name after the
  snapshot;
* `clean_heartbeat_undone` — a heartbeat landing between the test and the removal is undone;
* `interleaving_keeps_nodes` — each action changes the actor's state only by the request it has
  served (`cleanAction_served`), so under any interleaving no node record is ever removed.
-/

namespace TorcScheduler

/-- Where the clean thread stands in one tick. -/
inductive CleanPc
  /-- Before `request_list_running_tasks`. -/
  | listRunning
  /-- At the head of the first loop, with the running tasks not yet visited. -/
  | expireNext (tasks : List Task)
  /-- Before removing `task`, found stale at `now`, and deleting its route. -/
  | expireRemove (task : Task) (now : BitVec 64) (tasks : List Task)
  /-- Before `request_list_restart_tasks`. -/
  | listRestart
  /-- At the head of the second loop. -/
  | promoteNext (tasks : List Task)
  /-- Before setting `task`, found due at `now`, `Requested`. -/
  | promoteSet (task : Task) (now : BitVec 64) (tasks : List Task)
  /-- Before `request_list_nodes`. -/
  | listNodes
  /-- At the head of the third loop. -/
  | deactivateNext (nodes : List Node)
  /-- Before deactivating `node`, found stale at `now`. -/
  | deactivateSet (node : Node) (now : BitVec 64) (nodes : List Node)
  /-- The tick is over. -/
  | done

/-- The counter values whose action is a snapshot request. -/
def CleanPc.snapshot : CleanPc → Bool
  | .listRunning | .listRestart | .listNodes => true
  | _ => false

/-- A rank every action of the tick lowers: the phase (three snapshots, three loops), then twice
the length of the snapshot still to visit, and one more before a mutation. -/
def CleanPc.rank : CleanPc → Nat × Nat
  | .listRunning => (6, 0)
  | .expireNext l => (5, 2 * l.length)
  | .expireRemove _ _ l => (5, 2 * l.length + 1)
  | .listRestart => (4, 0)
  | .promoteNext l => (3, 2 * l.length)
  | .promoteSet _ _ l => (3, 2 * l.length + 1)
  | .listNodes => (2, 0)
  | .deactivateNext l => (1, 2 * l.length)
  | .deactivateSet _ _ l => (1, 2 * l.length + 1)
  | .done => (0, 0)

open Session

namespace StateManager

variable (sm : StateManager) (timeout restartDelay : BitVec 64)

/-- The clean thread's action at each counter value: the code of `start_cleaning` up to its next
request to the actor. -/
def cleanAction : CleanPc → Session CleanPc
  | .listRunning => do
    let runningTasks ← requestListRunningTasks
    pure (.expireNext runningTasks)
  | .expireNext [] => pure .listRestart
  | .expireNext (task :: tasks) =>
    if task.controller = sm.myName then pure (.expireNext tasks)
    else do
      let now ← clock
      if expired task.lastUpdate timeout now then pure (.expireRemove task now tasks)
      else pure (.expireNext tasks)
  | .expireRemove task _ tasks => do
    sendRemoveTaskByName task.name
    call (.deleteRoute sm.networkAgentType sm.networkAgentConnection task.ip)
    pure (.expireNext tasks)
  | .listRestart => do
    let restartTasks ← requestListRestartTasks
    pure (.promoteNext restartTasks)
  | .promoteNext [] => pure .listNodes
  | .promoteNext (task :: tasks) =>
    if task.controller ≠ sm.myName then pure (.promoteNext tasks)
    else do
      let now ← clock
      if expired task.lastUpdate restartDelay now then pure (.promoteSet task now tasks)
      else pure (.promoteNext tasks)
  | .promoteSet task _ tasks => do
    sendUpdateTaskState task.name .requested
    pure (.promoteNext tasks)
  | .listNodes => do
    let nodes ← requestListNodes
    pure (.deactivateNext nodes)
  | .deactivateNext [] => pure .done
  | .deactivateNext (node :: nodes) =>
    if node.active = false then pure (.deactivateNext nodes)
    else do
      let now ← clock
      if expired node.lastSeen timeout now then pure (.deactivateSet node now nodes)
      else pure (.deactivateNext nodes)
  | .deactivateSet node _ nodes => do
    sendSetNodeInactive node.name
    pure (.deactivateNext nodes)
  | .done => pure .done

/-! The actions with no branch, each in one equation. -/

theorem cleanAction_listRunning (σ : Clock) (s : State) :
    sm.cleanAction timeout restartDelay .listRunning σ s =
      some (.expireNext (s.taskList.getTasksWithState .running), σ.tail, s, []) := rfl

theorem cleanAction_listRestart (σ : Clock) (s : State) :
    sm.cleanAction timeout restartDelay .listRestart σ s =
      some (.promoteNext (s.taskList.getTasksWithState .restart), σ.tail, s, []) := rfl

theorem cleanAction_listNodes (σ : Clock) (s : State) :
    sm.cleanAction timeout restartDelay .listNodes σ s =
      some (.deactivateNext s.nodeList.getNodes, σ.tail, s, []) := rfl

theorem cleanAction_expireRemove (t : Task) (now : BitVec 64) (l : List Task) (σ : Clock)
    (s : State) :
    sm.cleanAction timeout restartDelay (.expireRemove t now l) σ s =
      some (.expireNext l, σ.tail, { s with taskList := s.taskList.removeTaskByName t.name },
        [.deleteRoute sm.networkAgentType sm.networkAgentConnection t.ip]) := rfl

theorem cleanAction_promoteSet (t : Task) (now : BitVec 64) (l : List Task) (σ : Clock)
    (s : State) :
    sm.cleanAction timeout restartDelay (.promoteSet t now l) σ s =
      some (.promoteNext l, σ.tail,
        { s with taskList := s.taskList.setTaskState t.name .requested }, []) := rfl

theorem cleanAction_deactivateSet (x : Node) (now : BitVec 64) (l : List Node) (σ : Clock)
    (s : State) :
    sm.cleanAction timeout restartDelay (.deactivateSet x now l) σ s =
      some (.deactivateNext l, σ.tail,
        { s with nodeList := s.nodeList.setNodeInactive x.name }, []) := rfl

/-- The clean tick's code after its second snapshot. -/
def cleanAfterPromote : Session Unit := do
  let nodes ← requestListNodes
  nodes.forM (deactivateNode timeout)

/-- The clean tick's code after its first loop. -/
def cleanAfterExpire : Session Unit := do
  let restartTasks ← requestListRestartTasks
  restartTasks.forM (sm.promoteTask restartDelay)
  cleanAfterPromote timeout

/-- The code of the tick still to run from each counter value. -/
def cleanCont : CleanPc → Session Unit
  | .listRunning => sm.cleanTick timeout restartDelay
  | .expireNext tasks => do
    tasks.forM (sm.expireTask timeout)
    sm.cleanAfterExpire timeout restartDelay
  | .expireRemove task _ tasks => do
    (do sendRemoveTaskByName task.name
        call (.deleteRoute sm.networkAgentType sm.networkAgentConnection task.ip) : Session Unit)
    tasks.forM (sm.expireTask timeout)
    sm.cleanAfterExpire timeout restartDelay
  | .listRestart => sm.cleanAfterExpire timeout restartDelay
  | .promoteNext tasks => do
    tasks.forM (sm.promoteTask restartDelay)
    cleanAfterPromote timeout
  | .promoteSet task _ tasks => do
    sendUpdateTaskState task.name .requested
    tasks.forM (sm.promoteTask restartDelay)
    cleanAfterPromote timeout
  | .listNodes => cleanAfterPromote timeout
  | .deactivateNext nodes => nodes.forM (deactivateNode timeout)
  | .deactivateSet node _ nodes => do
    sendSetNodeInactive node.name
    nodes.forM (deactivateNode timeout)
  | .done => pure ()

/-- **The actions are the tick.** From every counter value but `done`, the code still to run is
the action there followed by the code from the value it gives. -/
theorem cleanCont_step (pc : CleanPc) (hpc : pc ≠ .done) :
    sm.cleanCont timeout restartDelay pc =
      sm.cleanAction timeout restartDelay pc >>= sm.cleanCont timeout restartDelay := by
  cases pc with
  | listRunning | listRestart | listNodes =>
    simp only [cleanCont, cleanAction, Session.bind_assoc, Session.pure_bind]
    rfl
  | expireNext l | promoteNext l | deactivateNext l =>
    cases l with
    | nil => simp [cleanCont, cleanAction, Session.pure_bind]
    | cons t l =>
      simp only [cleanCont, cleanAction, forM_cons, Session.bind_assoc, expireTask, promoteTask,
        deactivateNode]
      split
      · simp [cleanCont, Session.pure_bind]
      · simp only [Session.bind_assoc]
        congr 1
        funext now
        split <;> simp [cleanCont, Session.pure_bind, Session.bind_assoc]
  | done => exact absurd rfl hpc
  | _ => simp [cleanCont, cleanAction, Session.bind_assoc, Session.pure_bind]

/-- Every action but the last lowers the rank. -/
theorem cleanAction_rank {pc pc₁ : CleanPc} {σ σ₁ : Clock} {s s₁ : State} {cs : List Call}
    (hpc : pc ≠ .done) (h : sm.cleanAction timeout restartDelay pc σ s = some (pc₁, σ₁, s₁, cs)) :
    Prod.Lex (· < ·) (· < ·) pc₁.rank pc.rank := by
  rw [Prod.lex_def]
  cases pc with
  | expireNext l | promoteNext l | deactivateNext l =>
    cases l with
    | nil => cases h; simp [CleanPc.rank]
    | cons t l =>
      simp only [cleanAction] at h
      split at h
      · cases h; simp [CleanPc.rank]
      · simp only [bind_apply, clock_apply, Option.some_bind] at h
        split at h <;> cases h <;> simp [CleanPc.rank, Nat.mul_succ]
  | done => exact absurd rfl hpc
  | _ =>
    simp only [cleanAction_listRunning, cleanAction_listRestart, cleanAction_listNodes,
      cleanAction_expireRemove, cleanAction_promoteSet, cleanAction_deactivateSet] at h
    cases h
    simp [CleanPc.rank]

/-- **The interleaving model refines the tick.** Run with no other client in between, the clean
thread's actions from `listRunning` to `done` are exactly the runs of `cleanTick`. -/
theorem cleanTick_iff_runsAlone (σ σ' : Clock) (s s' : State) (cs : List Call) :
    sm.cleanTick timeout restartDelay σ s = some ((), σ', s', cs) ↔
      RunsAlone (sm.cleanAction timeout restartDelay) .done .listRunning σ s σ' s' cs :=
  cont_eq_some_iff_runsAlone (show sm.cleanCont timeout restartDelay .done = pure () from rfl)
    (sm.cleanCont_step timeout restartDelay) CleanPc.rank (sm.cleanAction_rank timeout restartDelay)
    .listRunning σ σ' s s' cs

/-! ### What the clean thread can rely on -/

/-- What holds at each counter value, given which snapshot records the actor still holds (`K`
for tasks, `N` for nodes): the snapshot left to visit is kept and in the state it was listed in,
its names are distinct, and a pending mutation passed the tick's test at the clock it read. -/
def cleanPcInv (K : Task → Prop) (N : Node → Prop) : CleanPc → Prop
  | .expireNext l => (∀ t ∈ l, K t ∧ t.state = .running) ∧ (l.map Task.name).Nodup
  | .expireRemove t now l => (∀ u ∈ t :: l, K u ∧ u.state = .running) ∧
      ((t :: l).map Task.name).Nodup ∧ t.controller ≠ sm.myName ∧
      expired t.lastUpdate timeout now = true
  | .promoteNext l => (∀ t ∈ l, K t ∧ t.state = .restart) ∧ (l.map Task.name).Nodup
  | .promoteSet t now l => (∀ u ∈ t :: l, K u ∧ u.state = .restart) ∧
      ((t :: l).map Task.name).Nodup ∧ t.controller = sm.myName ∧
      expired t.lastUpdate restartDelay now = true
  | .deactivateNext l => (∀ x ∈ l, N x) ∧ (l.map Node.name).Nodup
  | .deactivateSet x now l => (∀ y ∈ x :: l, N y) ∧ ((x :: l).map Node.name).Nodup ∧
      x.active = true ∧ expired x.lastSeen timeout now = true
  | _ => True

variable {sm timeout restartDelay}

theorem cleanPcInv_mono {K K' : Task → Prop} {N N' : Node → Prop} (hK : ∀ t, K t → K' t)
    (hN : ∀ x, N x → N' x) {pc : CleanPc} (h : sm.cleanPcInv timeout restartDelay K N pc) :
    sm.cleanPcInv timeout restartDelay K' N' pc := by
  cases pc <;> simp only [cleanPcInv] at h ⊢ <;> aesop

/-- **Own step.** Each action of the clean thread keeps the invariant: a snapshot request lists
records the actor holds, a test records the clock it read, and a mutation writes only the record
it names, which the rest of the snapshot does not name. -/
theorem cleanPcInv_own {S : Sys CleanPc} {σ σ' : Clock} {pc' : CleanPc} {s' : State}
    {cs : List Call} (h : sm.cleanPcInv timeout restartDelay S.KeptTask S.KeptNode S.pc)
    (hrun : sm.cleanAction timeout restartDelay S.pc σ S.state = some (pc', σ', s', cs)) :
    sm.cleanPcInv timeout restartDelay
      (Sys.KeptTask ⟨s', pc', if S.pc.snapshot then fun _ => false else S.dirtyTasks,
        if S.pc.snapshot then fun _ => false else S.dirtyNodes⟩)
      (Sys.KeptNode ⟨s', pc', if S.pc.snapshot then fun _ => false else S.dirtyTasks,
        if S.pc.snapshot then fun _ => false else S.dirtyNodes⟩) pc' := by
  obtain ⟨s, pc, dt, dn⟩ := S
  have snapshot : ∀ st, ∀ t ∈ s.taskList.getTasksWithState st,
      (fun _ => s.taskList.getTask t.name = some t) t ∧ t.state = st := fun st t ht =>
    (s.taskList.mem_getTasksWithState st t).1 ht
  cases pc with
  | listRunning | listRestart =>
    simp only [cleanAction_listRunning, cleanAction_listRestart] at hrun
    cases hrun
    exact ⟨fun t ht => ⟨fun _ => (snapshot _ t ht).1, (snapshot _ t ht).2⟩,
      TaskList.nodup_getTasksWithState _ _⟩
  | listNodes =>
    rw [cleanAction_listNodes] at hrun
    cases hrun
    exact ⟨fun x hx _ => NodeList.getNode_of_mem hx, NodeList.nodup _⟩
  | expireNext l | promoteNext l | deactivateNext l =>
    cases l with
    | nil => cases hrun; trivial
    | cons t l =>
      obtain ⟨hl, hnd⟩ := h
      simp only [cleanAction] at hrun
      split at hrun
      · cases hrun
        exact Table.forall_tail_of_nodup hl hnd fun _ _ => id
      · rename_i hguard
        simp only [bind_apply, clock_apply, Option.some_bind] at hrun
        split at hrun <;> cases hrun
        · exact ⟨hl, hnd, by simpa using hguard, ‹_›⟩
        · exact Table.forall_tail_of_nodup hl hnd fun _ _ => id
  | expireRemove t now l =>
    rw [cleanAction_expireRemove] at hrun
    cases hrun
    exact Table.forall_tail_of_nodup h.1 h.2.1 fun u hne hu =>
      ⟨Sys.keptTask_frame hu.1 rfl (by simp [hne]), hu.2⟩
  | promoteSet t now l =>
    rw [cleanAction_promoteSet] at hrun
    cases hrun
    exact Table.forall_tail_of_nodup h.1 h.2.1 fun u hne hu =>
      ⟨Sys.keptTask_frame hu.1 rfl (by simp [hne]), hu.2⟩
  | deactivateSet x now l =>
    rw [cleanAction_deactivateSet] at hrun
    cases hrun
    exact Table.forall_tail_of_nodup h.1 h.2.1 fun y hne hy => Sys.keptNode_frame hy rfl (by simp [hne])
  | done => cases hrun; trivial

variable {S : Sys CleanPc}

/-- The invariant holds in every interleaving of the clean thread with other clients. -/
theorem cleanPcInv_reachable
    (h : Reachable (sm.cleanAction timeout restartDelay) CleanPc.snapshot .listRunning S) :
    sm.cleanPcInv timeout restartDelay S.KeptTask S.KeptNode S.pc := by
  induction h with
  | init => trivial
  | step _ hstep ih =>
    cases hstep with
    | own σ σ' pc' s' cs hrun => exact cleanPcInv_own ih hrun
    | other msg now o ho =>
      exact cleanPcInv_mono (fun _ => Sys.keptTask_other ho) (fun _ => Sys.keptNode_other ho) ih

/-- **Clean mutations under interleaving.** Whenever the clean thread is about to have the actor
apply one of its mutations to the record named `n` (remove a task, set it `Requested`, deactivate
a node), and no other client's request wrote `n` since the snapshot the tick took it from, that
record passes, at that moment, the test the tick made at the clock it read. -/
theorem clean_mutation_justified
    (h : Reachable (sm.cleanAction timeout restartDelay) CleanPc.snapshot .listRunning S) :
    (∀ t now l, S.pc = .expireRemove t now l → S.dirtyTasks t.name = false →
      ∃ r, S.state.taskList.getTask t.name = some r ∧ r.controller ≠ sm.myName ∧
        r.state = .running ∧ expired r.lastUpdate timeout now = true) ∧
    (∀ t now l, S.pc = .promoteSet t now l → S.dirtyTasks t.name = false →
      ∃ r, S.state.taskList.getTask t.name = some r ∧ r.controller = sm.myName ∧
        r.state = .restart ∧ expired r.lastUpdate restartDelay now = true) ∧
    (∀ x now l, S.pc = .deactivateSet x now l → S.dirtyNodes x.name = false →
      ∃ r, S.state.nodeList.getNode x.name = some r ∧ r.active = true ∧
        expired r.lastSeen timeout now = true) := by
  have hinv := cleanPcInv_reachable h
  refine ⟨fun t now l hpc hd => ?_, fun t now l hpc hd => ?_, fun x now l hpc hd => ?_⟩ <;>
    rw [hpc] at hinv
  · obtain ⟨hl, -, hc, he⟩ := hinv
    exact ⟨t, (hl t (List.mem_cons_self _ _)).1 hd, hc, (hl t (List.mem_cons_self _ _)).2, he⟩
  · obtain ⟨hl, -, hc, he⟩ := hinv
    exact ⟨t, (hl t (List.mem_cons_self _ _)).1 hd, hc, (hl t (List.mem_cons_self _ _)).2, he⟩
  · obtain ⟨hl, -, ha, he⟩ := hinv
    exact ⟨x, hl x (List.mem_cons_self _ _) hd, ha, he⟩

/-- A stale peer task, snapshotted and tested at clock 50, is about to be removed, and no other
client touched it: the actor still holds it stale. -/
theorem clean_mutation_justified_stale :
    let sm : StateManager := ⟨"10.0.0.1", "C1", "fboss", "10.0.0.1"⟩
    let api : Task := ⟨"api", "C2", "z-1", "n1", false, false, false, "192.168.0.7", "", .running, 0⟩
    let S : Sys CleanPc := ⟨⟨"10.0.0.1", "C1", TaskList.new.addNewTask api, NodeList.new⟩,
      .expireRemove api 50 [], fun _ => false, fun _ => false⟩
    Reachable (sm.cleanAction 30 60) CleanPc.snapshot .listRunning S ∧
      (∀ t now l, S.pc = .expireRemove t now l → S.dirtyTasks t.name = false →
        ∃ r, S.state.taskList.getTask t.name = some r ∧ r.controller ≠ sm.myName ∧
          r.state = .running ∧ expired r.lastUpdate 30 now = true) ∧
      (∀ t now l, S.pc = .promoteSet t now l → S.dirtyTasks t.name = false →
        ∃ r, S.state.taskList.getTask t.name = some r ∧ r.controller = sm.myName ∧
          r.state = .restart ∧ expired r.lastUpdate 60 now = true) ∧
      (∀ x now l, S.pc = .deactivateSet x now l → S.dirtyNodes x.name = false →
        ∃ r, S.state.nodeList.getNode x.name = some r ∧ r.active = true ∧
          expired r.lastSeen 30 now = true) := by
  intro sm api S
  have h : Reachable (sm.cleanAction 30 60) CleanPc.snapshot .listRunning S :=
    .step (.step (.init S.state) (.own (Clock.const 50) (Clock.const 50) _ _ [] rfl))
      (.own (Clock.const 50) (Clock.const 50) _ _ [] rfl)
  exact ⟨h, clean_mutation_justified h⟩

/-- A heartbeat landing between the tick's test and its removal: the peer re-stamps `api` at 45,
and the thread, about to remove `api` as stale at 50, removes a record that is not stale. -/
theorem clean_heartbeat_undone :
    let sm : StateManager := ⟨"10.0.0.1", "C1", "fboss", "10.0.0.1"⟩
    let api : Task := ⟨"api", "C2", "z-1", "n1", false, false, false, "192.168.0.7", "", .running, 0⟩
    ∃ S : Sys CleanPc, Reachable (sm.cleanAction 30 60) CleanPc.snapshot .listRunning S ∧
      S.pc = .expireRemove api 50 [] ∧
      S.state.taskList.getTask "api" = some { api with lastUpdate := 45 } ∧
      expired 45 30 50 = false ∧
      (sm.cleanAction 30 60 S.pc (Clock.const 50) S.state).map
        (fun r => r.2.2.1.taskList.getTask "api") = some none := by
  intro sm api
  have h₁ : Reachable (sm.cleanAction 30 60) CleanPc.snapshot .listRunning
      ⟨⟨"10.0.0.1", "C1", TaskList.new.addNewTask api, NodeList.new⟩, .expireRemove api 50 [],
        fun _ => false, fun _ => false⟩ :=
    .step (.step (.init ⟨"10.0.0.1", "C1", TaskList.new.addNewTask api, NodeList.new⟩)
      (.own (Clock.const 50) (Clock.const 50) _ _ [] rfl))
      (.own (Clock.const 50) (Clock.const 50) _ _ [] rfl)
  exact ⟨_, .step h₁ (.other (.updateTaskLastUpdate "api") 45 _ rfl), rfl, by decide, by decide,
    by decide⟩

/-! ### Nodes under interleaving -/

/-- Each action of the clean thread changes the actor's state only by the request it has served. -/
theorem cleanAction_served {pc pc' : CleanPc} {σ σ' : Clock} {s s' : State} {cs : List Call}
    (hrun : sm.cleanAction timeout restartDelay pc σ s = some (pc', σ', s', cs)) :
    Served s s' := by
  cases pc with
  | listRunning | listRestart | listNodes =>
    simp only [cleanAction_listRunning, cleanAction_listRestart, cleanAction_listNodes] at hrun
    cases hrun
    exact .refl
  | expireNext l | promoteNext l | deactivateNext l =>
    cases l with
    | nil => cases hrun; exact .refl
    | cons t l =>
      simp only [cleanAction] at hrun
      split at hrun
      · cases hrun; exact .refl
      · simp only [bind_apply, clock_apply, Option.some_bind] at hrun
        split at hrun <;> cases hrun <;> exact .refl
  | expireRemove t now l =>
    rw [cleanAction_expireRemove] at hrun
    cases hrun
    exact .single ⟨σ 0, .removeTask t.name, _, rfl, rfl⟩
  | promoteSet t now l =>
    rw [cleanAction_promoteSet] at hrun
    cases hrun
    exact .single ⟨σ 0, .updateTaskState t.name .requested, _, rfl, rfl⟩
  | deactivateSet x now l =>
    rw [cleanAction_deactivateSet] at hrun
    cases hrun
    exact .single ⟨σ 0, .setNodeInactive x.name, _, rfl, rfl⟩
  | done => cases hrun; exact .refl

/-- **No node is ever removed** (§3, node invariant 3). Along every interleaving of the clean
thread, the one thread that writes nodes, with any requests of any other clients (the sync
thread's and the HTTP handlers' among them) at any clocks, a node name that has a record keeps
one. -/
theorem interleaving_keeps_nodes {S S' : Sys CleanPc}
    (h : Relation.ReflTransGen (Step (sm.cleanAction timeout restartDelay) CleanPc.snapshot) S S')
    {n : String} (hn : (S.state.nodeList.getNode n).isSome) :
    (S'.state.nodeList.getNode n).isSome :=
  (served_of_steps cleanAction_served h).stable serve_getNode_isSome hn

/-- The tick lists a stale node, tests it at clock 50 and deactivates it: the record stays. -/
theorem interleaving_keeps_nodes_deactivated :
    let sm : StateManager := ⟨"10.0.0.1", "C1", "fboss", "10.0.0.1"⟩
    let x : Node := ⟨"n1", "10.0.0.11", "slave", "none", true, "", 0⟩
    let S : Sys CleanPc := ⟨⟨"10.0.0.1", "C1", TaskList.new, NodeList.new.addNewNode x⟩,
      .listNodes, fun _ => false, fun _ => false⟩
    let S' : Sys CleanPc := ⟨⟨"10.0.0.1", "C1", TaskList.new,
      (NodeList.new.addNewNode x).setNodeInactive "n1"⟩, .deactivateNext [], fun _ => false,
      fun _ => false⟩
    Relation.ReflTransGen (Step (sm.cleanAction 30 60) CleanPc.snapshot) S S' ∧
      (S.state.nodeList.getNode "n1").isSome ∧ (S'.state.nodeList.getNode "n1").isSome := by
  intro sm x S S'
  have h : Relation.ReflTransGen (Step (sm.cleanAction 30 60) CleanPc.snapshot) S S' :=
    .tail (.tail (.single (.own (Clock.const 50) (Clock.const 50) _ _ [] rfl))
      (.own (Clock.const 50) (Clock.const 50) _ _ [] rfl))
      (.own (Clock.const 50) (Clock.const 50) _ _ [] rfl)
  have hn : (S.state.nodeList.getNode "n1").isSome := by decide
  exact ⟨h, hn, interleaving_keeps_nodes h hn⟩

end StateManager

end TorcScheduler
