import TorcScheduler.State.Loops
import TorcScheduler.Threads.System

/-!
# The sync thread, interleaved

`start_syncing`'s tick as a program counter, one value before each of its requests to the actor,
those of `send_announce_task` included.

* `syncCont_step` — the code still to run from each counter value is its action followed by the
  code from the next one, and from `listRunning` it is `syncTick`;
* `syncTick_iff_runsAlone` — so the actions run alone from `listRunning` to `done` are exactly the
  runs of `syncTick`;
* `sync_step_refreshes` — under any interleaving, a step of the tick changes the record named `n`
  at most by stamping its `last_update` with the clock the actor reads, unless another client
  wrote `n` after the snapshot;
* `syncTick_refreshes` — a tick run alone therefore changes records only by their `last_update`;
* `sync_tick_recreates_removed` — a task removed after the snapshot is re-created.
-/

namespace TorcScheduler

/-- Where the sync thread stands in one tick. -/
inductive SyncPc
  /-- Before `request_list_running_tasks`. -/
  | listRunning
  /-- At the head of the loop, with the running tasks not yet visited. -/
  | next (tasks : List Task)
  /-- In `send_announce_task(task)`, before `request_task_name_by_id(task.id)`. -/
  | lookupId (task : Task) (tasks : List Task)
  /-- Before the heartbeat `UpdateTaskLastUpdate(task.name)`. -/
  | heartbeat (task : Task) (tasks : List Task)
  /-- Before `request_node(task.node_name)`. -/
  | lookupNode (task : Task) (tasks : List Task)
  /-- Before `request_task_ip(task.name)`. -/
  | lookupIp (task : Task) (tasks : List Task)
  /-- Before `StartTask(task)`. -/
  | start (task : Task) (tasks : List Task)
  /-- The tick is over. -/
  | done

/-- The counter value whose action is the snapshot request. -/
def SyncPc.snapshot : SyncPc → Bool
  | .listRunning => true
  | _ => false

/-- The snapshot records the tick has still to announce, the one being announced first. -/
def SyncPc.pending : SyncPc → List Task
  | .next tasks => tasks
  | .lookupId task tasks | .heartbeat task tasks | .lookupNode task tasks | .lookupIp task tasks
  | .start task tasks => task :: tasks
  | .listRunning | .done => []

/-- A rank every action of the tick lowers: the snapshot first, then five steps per record still
to announce. -/
def SyncPc.rank : SyncPc → Nat × Nat
  | .listRunning => (1, 0)
  | .next l => (0, 5 * l.length + 1)
  | .lookupId _ l => (0, 5 * l.length + 5)
  | .lookupNode _ l => (0, 5 * l.length + 4)
  | .lookupIp _ l => (0, 5 * l.length + 3)
  | .heartbeat _ l | .start _ l => (0, 5 * l.length + 2)
  | .done => (0, 0)

open Session

namespace StateManager

variable (sm : StateManager)

/-- The sync thread's action at each counter value: the code of `start_syncing` and
`send_announce_task` up to the next request to the actor. -/
def syncAction : SyncPc → Session SyncPc
  | .listRunning => do
    let runningTasks ← requestListRunningTasks
    pure (.next runningTasks)
  | .next [] => pure .done
  | .next (task :: tasks) => do
    call (registerRunningTask sm.masterIp task)
    if task.controller = sm.myName then pure (.lookupId task tasks) else pure (.next tasks)
  | .lookupId task tasks => do
    if (← requestTaskNameById task.id).length > 0 then pure (.heartbeat task tasks)
    else pure (.lookupNode task tasks)
  | .heartbeat task tasks => do
    let _ ← send (.updateTaskLastUpdate task.name)
    pure (.next tasks)
  | .lookupNode task tasks => do
    match ← requestNode task.nodeName with
    | some node =>
      call (.addRoute sm.networkAgentType sm.networkAgentConnection task.ip node.externalIp)
    | none => pure ()
    pure (.lookupIp task tasks)
  | .lookupIp task tasks => do
    let ip ← requestTaskIp task.name
    if ip.length > 0 then
      call (.deleteRoute sm.networkAgentType sm.networkAgentConnection ip)
    pure (.start task tasks)
  | .start task tasks => do
    let _ ← send (.startTask task)
    pure (.next tasks)
  | .done => pure .done

/-! The actions with no branch, each in one equation. -/

theorem syncAction_listRunning (σ : Clock) (s : State) :
    sm.syncAction .listRunning σ s =
      some (.next (s.taskList.getTasksWithState .running), σ.tail, s, []) := rfl

theorem syncAction_heartbeat (t : Task) (l : List Task) (σ : Clock) (s : State) :
    sm.syncAction (.heartbeat t l) σ s =
      some (.next l, σ.tail,
        { s with taskList := s.taskList.updateTaskLastUpdate t.name (σ 0) }, []) := rfl

theorem syncAction_start (t : Task) (l : List Task) (σ : Clock) (s : State) :
    sm.syncAction (.start t l) σ s =
      some (.next l, σ.tail, { s with taskList := s.taskList.addNewTask t }, []) := rfl

/-- The code of the tick still to run from each counter value. -/
def syncCont : SyncPc → Session Unit
  | .listRunning => sm.syncTick
  | .next tasks => tasks.forM sm.syncTask
  | .lookupId task tasks => do
    sm.sendAnnounceTask task
    tasks.forM sm.syncTask
  | .heartbeat task tasks => do
    let _ ← send (.updateTaskLastUpdate task.name)
    tasks.forM sm.syncTask
  | .lookupNode task tasks => do
    match ← requestNode task.nodeName with
    | some node =>
      call (.addRoute sm.networkAgentType sm.networkAgentConnection task.ip node.externalIp)
    | none => pure ()
    let ip ← requestTaskIp task.name
    if ip.length > 0 then
      call (.deleteRoute sm.networkAgentType sm.networkAgentConnection ip)
    let _ ← send (.startTask task)
    tasks.forM sm.syncTask
  | .lookupIp task tasks => do
    let ip ← requestTaskIp task.name
    if ip.length > 0 then
      call (.deleteRoute sm.networkAgentType sm.networkAgentConnection ip)
    let _ ← send (.startTask task)
    tasks.forM sm.syncTask
  | .start task tasks => do
    let _ ← send (.startTask task)
    tasks.forM sm.syncTask
  | .done => pure ()

/-- **The actions are the tick.** From every counter value but `done`, the code still to run is
the action there followed by the code from the value it gives. -/
theorem syncCont_step (pc : SyncPc) (hpc : pc ≠ .done) :
    sm.syncCont pc = sm.syncAction pc >>= sm.syncCont := by
  cases pc with
  | listRunning => simp only [syncCont, syncAction, Session.bind_assoc, Session.pure_bind]; rfl
  | next tasks =>
    cases tasks with
    | nil => simp [syncCont, syncAction, Session.pure_bind]
    | cons t tasks =>
      simp only [syncCont, syncAction, forM_cons, syncTask, Session.bind_assoc]
      congr 1
      funext u
      split <;> simp [syncCont, Session.pure_bind, Session.bind_assoc]
  | lookupId t tasks =>
    simp only [syncCont, syncAction, sendAnnounceTask, Session.bind_assoc]
    congr 1
    funext name
    split
    · simp [syncCont, Session.pure_bind, Session.bind_assoc]
    · simp only [syncCont, Session.pure_bind, Session.bind_assoc]
      congr 1
      funext node
      cases node <;> simp [Session.bind_assoc, Session.pure_bind, Session.ite_bind]
  | heartbeat t tasks | start t tasks =>
    simp [syncCont, syncAction, Session.bind_assoc, Session.pure_bind]
  | lookupNode t tasks | lookupIp t tasks =>
    simp only [syncCont, syncAction, Session.bind_assoc]
    congr 1
    funext r
    split <;> simp [syncCont, Session.pure_bind, Session.bind_assoc]
  | done => exact absurd rfl hpc

/-! ### What one action does -/

variable {sm}

/-- **What a sync action does.** Every action but the last lowers the rank.  The snapshot
request lists the `Running` records; every other action but two only reads, and leaves a suffix
of the records still to announce; the heartbeat stamps the record of the task being announced with
the clock the actor reads, and `StartTask` inserts the snapshot record as it was listed. -/
theorem syncAction_spec {pc pc' : SyncPc} {σ σ' : Clock} {s s' : State} {cs : List Call}
    (hrun : sm.syncAction pc σ s = some (pc', σ', s', cs)) :
    (pc ≠ .done → Prod.Lex (· < ·) (· < ·) pc'.rank pc.rank) ∧
    ((pc = .listRunning ∧ s' = s ∧ pc' = .next (s.taskList.getTasksWithState .running)) ∨
      (pc.snapshot = false ∧ s' = s ∧ pc'.pending.Sublist pc.pending) ∨
      (∃ t, pc = .heartbeat t pc'.pending ∧
        s' = { s with taskList := s.taskList.updateTaskLastUpdate t.name (σ 0) }) ∨
      (∃ t, pc = .start t pc'.pending ∧ s' = { s with taskList := s.taskList.addNewTask t })) := by
  cases pc with
  | listRunning =>
    rw [syncAction_listRunning] at hrun
    cases hrun
    exact ⟨fun _ => .left _ _ Nat.one_pos, .inl ⟨rfl, rfl, rfl⟩⟩
  | next l =>
    cases l with
    | nil => cases hrun; exact ⟨fun _ => .right _ Nat.one_pos, .inr (.inl ⟨rfl, rfl, .refl _⟩)⟩
    | cons t l =>
      simp only [syncAction, bind_apply, call_apply, Option.some_bind] at hrun
      split at hrun <;> cases hrun
      · exact ⟨fun _ => .right _ (by simp only [List.length_cons]; omega),
          .inr (.inl ⟨rfl, rfl, .refl _⟩)⟩
      · exact ⟨fun _ => .right _ (by simp only [List.length_cons]; omega),
          .inr (.inl ⟨rfl, rfl, List.sublist_cons_self _ _⟩)⟩
  | lookupId t l =>
    simp only [syncAction, bind_apply, requestTaskNameById_apply, Option.some_bind] at hrun
    split at hrun <;> cases hrun <;>
      exact ⟨fun _ => .right _ (by omega), .inr (.inl ⟨rfl, rfl, .refl _⟩)⟩
  | heartbeat t l =>
    rw [syncAction_heartbeat] at hrun
    cases hrun
    exact ⟨fun _ => .right _ (by omega), .inr (.inr (.inl ⟨t, rfl, rfl⟩))⟩
  | lookupNode t l =>
    simp only [syncAction, bind_apply, requestNode_apply] at hrun
    cases hn : s.nodeList.getNode t.nodeName <;> simp [hn] at hrun
    obtain ⟨rfl, -, rfl, -⟩ := hrun
    exact ⟨fun _ => .right _ (by omega), .inr (.inl ⟨rfl, rfl, .refl _⟩)⟩
  | lookupIp t l =>
    simp only [syncAction, bind_apply, requestTaskIp_apply, Option.some_bind] at hrun
    split at hrun <;> simp at hrun <;> obtain ⟨rfl, -, rfl, -⟩ := hrun <;>
      exact ⟨fun _ => .right _ (by omega), .inr (.inl ⟨rfl, rfl, .refl _⟩)⟩
  | start t l =>
    rw [syncAction_start] at hrun
    cases hrun
    exact ⟨fun _ => .right _ (by omega), .inr (.inr (.inr ⟨t, rfl, rfl⟩))⟩
  | done => cases hrun; exact ⟨fun h => absurd rfl h, .inr (.inl ⟨rfl, rfl, .refl _⟩)⟩

/-- **The interleaving model refines the tick.** Run with no other client in between, the sync
thread's actions from `listRunning` to `done` are exactly the runs of `syncTick`. -/
theorem syncTick_iff_runsAlone (σ σ' : Clock) (s s' : State) (cs : List Call) :
    sm.syncTick σ s = some ((), σ', s', cs) ↔
      RunsAlone sm.syncAction .done .listRunning σ s σ' s' cs :=
  cont_eq_some_iff_runsAlone (show sm.syncCont .done = pure () from rfl) sm.syncCont_step
    SyncPc.rank (fun hpc h => (syncAction_spec h).1 hpc) .listRunning σ σ' s s' cs

/-! ### What the sync thread can rely on -/

/-- What holds at each counter value, given which snapshot records the actor still holds (`K`):
the records still to announce are kept, and their names are distinct. -/
def syncPcInv (K : Task → Prop) (pc : SyncPc) : Prop :=
  (∀ t ∈ pc.pending, K t) ∧ (pc.pending.map Task.name).Nodup

theorem syncPcInv_mono {K K' : Task → Prop} (hK : ∀ t, K t → K' t) {pc : SyncPc}
    (h : syncPcInv K pc) : syncPcInv K' pc :=
  ⟨fun t ht => hK t (h.1 t ht), h.2⟩

/-- A read that leaves a suffix of the records to announce keeps the invariant. -/
theorem syncPcInv_read {s : State} {dt dn : String → Bool} {pc pc' : SyncPc}
    (h : syncPcInv (Sys.KeptTask (⟨s, pc, dt, dn⟩ : Sys SyncPc)) pc)
    (hp : pc'.pending.Sublist pc.pending) :
    syncPcInv (Sys.KeptTask (⟨s, pc', dt, dn⟩ : Sys SyncPc)) pc' :=
  ⟨fun t ht => h.1 t (hp.subset ht), h.2.sublist (hp.map _)⟩

/-- A write to the record being announced, which then leaves the list, keeps the invariant. -/
theorem syncPcInv_write {s s' : State} {dt dn : String → Bool} {t : Task} {pc pc' : SyncPc}
    (h : syncPcInv (Sys.KeptTask (⟨s, pc, dt, dn⟩ : Sys SyncPc)) pc)
    (hpc : pc.pending = t :: pc'.pending)
    (hf : ∀ n, t.name ≠ n → s'.taskList.getTask n = s.taskList.getTask n) :
    syncPcInv (Sys.KeptTask (⟨s', pc', dt, dn⟩ : Sys SyncPc)) pc' := by
  obtain ⟨hl, hnd⟩ := h
  rw [hpc] at hl hnd
  exact Table.forall_tail_of_nodup hl hnd fun u hne hu => Sys.keptTask_frame hu rfl (hf _ hne)

/-- **Own step.** Each action of the sync thread keeps the invariant. -/
theorem syncPcInv_own {S : Sys SyncPc} {σ σ' : Clock} {pc' : SyncPc} {s' : State}
    {cs : List Call} (h : syncPcInv S.KeptTask S.pc)
    (hrun : sm.syncAction S.pc σ S.state = some (pc', σ', s', cs)) :
    syncPcInv (Sys.KeptTask ⟨s', pc', if S.pc.snapshot then fun _ => false else S.dirtyTasks,
      if S.pc.snapshot then fun _ => false else S.dirtyNodes⟩) pc' := by
  obtain ⟨s, pc, dt, dn⟩ := S
  rcases (syncAction_spec hrun).2 with
    ⟨rfl, rfl, rfl⟩ | ⟨hsnap, rfl, hp⟩ | ⟨t, rfl, rfl⟩ | ⟨t, rfl, rfl⟩
  · exact ⟨fun t ht _ => ((TaskList.mem_getTasksWithState _ _ t).1 ht).1,
      TaskList.nodup_getTasksWithState _ _⟩
  · simp only [hsnap]
    exact syncPcInv_read h hp
  · exact syncPcInv_write h rfl fun n hn => by simp [hn]
  · exact syncPcInv_write h rfl fun n hn => by simp [hn]

variable {S : Sys SyncPc}

/-- The invariant holds in every interleaving of the sync thread with other clients. -/
theorem syncPcInv_reachable (h : Reachable sm.syncAction SyncPc.snapshot .listRunning S) :
    syncPcInv S.KeptTask S.pc := by
  induction h with
  | init => simp [syncPcInv, SyncPc.pending]
  | step _ hstep ih =>
    cases hstep with
    | own σ σ' pc' s' cs hrun => exact syncPcInv_own ih hrun
    | other msg now o ho => exact syncPcInv_mono (fun _ => Sys.keptTask_other ho) ih

/-- One action of the sync thread, from a counter value where the invariant holds, changes the
record named `n` at most by setting its `last_update` to the clock the actor reads, unless `n` is
dirty. -/
theorem syncAction_refreshes {σ σ' : Clock} {pc' : SyncPc} {s' : State} {cs : List Call}
    (hinv : syncPcInv S.KeptTask S.pc)
    (hrun : sm.syncAction S.pc σ S.state = some (pc', σ', s', cs)) (n : String)
    (hn : S.dirtyTasks n = false) :
    s'.taskList.getTask n = S.state.taskList.getTask n ∨
      s'.taskList.getTask n =
        (S.state.taskList.getTask n).map fun r => { r with lastUpdate := σ 0 } := by
  rcases (syncAction_spec hrun).2 with ⟨-, rfl, -⟩ | ⟨-, rfl, -⟩ | ⟨t, -, rfl⟩ | ⟨t, hpc, rfl⟩
  · exact .inl rfl
  · exact .inl rfl
  · by_cases he : t.name = n
    · exact .inr (by simp [he])
    · exact .inl (by simp [he])
  · have hk := hinv.1 t (by rw [hpc]; exact List.mem_cons_self _ _)
    refine .inl ?_
    simp only [TaskList.getTask_addNewTask]
    split
    · subst n
      exact (hk hn).symm
    · rfl

/-- **Sync steps under interleaving.** When the actor applies a request of the sync tick, the
record named `n` is left as it was or has its `last_update` set to the clock the actor reads,
provided no other client's request wrote `n` since the tick's snapshot. -/
theorem sync_step_refreshes {σ σ' : Clock} {pc' : SyncPc} {s' : State} {cs : List Call}
    (h : Reachable sm.syncAction SyncPc.snapshot .listRunning S)
    (hrun : sm.syncAction S.pc σ S.state = some (pc', σ', s', cs)) (n : String)
    (hn : S.dirtyTasks n = false) :
    s'.taskList.getTask n = S.state.taskList.getTask n ∨
      s'.taskList.getTask n =
        (S.state.taskList.getTask n).map fun r => { r with lastUpdate := σ 0 } :=
  syncAction_refreshes (syncPcInv_reachable h) hrun n hn

/-- Refreshing twice is refreshing once. -/
theorem refresh_trans {a b c : Option Task}
    (h₁ : b = a ∨ ∃ τ, b = a.map fun r => { r with lastUpdate := τ })
    (h₂ : c = b ∨ ∃ τ, c = b.map fun r => { r with lastUpdate := τ }) :
    c = a ∨ ∃ τ, c = a.map fun r => { r with lastUpdate := τ } := by
  rcases h₂ with rfl | ⟨τ, rfl⟩
  · exact h₁
  · rcases h₁ with rfl | ⟨τ', rfl⟩
    · exact .inr ⟨τ, rfl⟩
    · exact .inr ⟨τ, by rw [Option.map_map]; rfl⟩

/-- A run of the sync thread alone, from a state it can reach with nothing dirty, changes each
record at most by its `last_update`. -/
theorem runsAlone_refreshes {pc : SyncPc} {σ σ' : Clock} {s s' : State} {cs : List Call}
    (h : RunsAlone sm.syncAction .done pc σ s σ' s' cs)
    (hr : Reachable sm.syncAction SyncPc.snapshot .listRunning
      ⟨s, pc, fun _ => false, fun _ => false⟩) (n : String) :
    s'.taskList.getTask n = s.taskList.getTask n ∨
      ∃ τ, s'.taskList.getTask n =
        (s.taskList.getTask n).map fun r => { r with lastUpdate := τ } := by
  induction h with
  | stop => exact .inl rfl
  | step _ ha _ ih =>
    have hr₁ := hr.step (.own _ _ _ _ _ ha)
    simp only [ite_self] at hr₁
    exact refresh_trans ((syncAction_refreshes (syncPcInv_reachable hr) ha n rfl).imp_right
      fun h => ⟨_, h⟩) (ih hr₁)

/-- **A sync tick run alone only refreshes.** With no other client in between, a sync tick
changes each record of the task table at most by setting its `last_update`. -/
theorem syncTick_refreshes {σ σ' : Clock} {s s' : State} {cs : List Call}
    (hrun : sm.syncTick σ s = some ((), σ', s', cs)) (n : String) :
    s'.taskList.getTask n = s.taskList.getTask n ∨
      ∃ τ, s'.taskList.getTask n = (s.taskList.getTask n).map fun r => { r with lastUpdate := τ } :=
  runsAlone_refreshes ((cont_eq_some_iff_runsAlone (show sm.syncCont .done = pure () from rfl)
    sm.syncCont_step SyncPc.rank (fun hpc h => (syncAction_spec h).1 hpc) .listRunning
    σ σ' s s' cs).1 hrun) (.init s) n

/-- An own task whose id the table knows: a tick at clock 5 registers it and stamps it. -/
theorem syncTick_refreshes_heartbeat :
    let sm : StateManager := ⟨"10.0.0.1", "C1", "fboss", "10.0.0.1"⟩
    let db : Task := ⟨"db", "C1", "z-9", "n1", false, false, false, "192.168.0.9", "", .running, 0⟩
    let s : State := ⟨"10.0.0.1", "C1", TaskList.new.addNewTask db, NodeList.new⟩
    let s' : State := { s with taskList := s.taskList.updateTaskLastUpdate "db" 5 }
    sm.syncTick (Clock.const 5) s =
        some ((), Clock.const 5, s', [registerRunningTask "10.0.0.1" db]) ∧
      (s'.taskList.getTask "db" = s.taskList.getTask "db" ∨
        ∃ τ, s'.taskList.getTask "db" =
          (s.taskList.getTask "db").map fun r => { r with lastUpdate := τ }) := by
  intro sm db s s'
  have hrun : sm.syncTick (Clock.const 5) s =
      some ((), Clock.const 5, s', [registerRunningTask "10.0.0.1" db]) := rfl
  exact ⟨hrun, syncTick_refreshes hrun "db"⟩

/-- An own task with an empty id, announced with nobody in between: its id lookup misses, and
`StartTask` re-inserts the record the actor holds. -/
theorem sync_step_refreshes_reinsert :
    let sm : StateManager := ⟨"10.0.0.1", "C1", "fboss", "10.0.0.1"⟩
    let n1 : Node := ⟨"n1", "10.0.0.11", "slave", "none", false, "", 0⟩
    let db : Task := ⟨"db", "C1", "", "n1", false, false, false, "192.168.0.9", "", .running, 0⟩
    let s : State := ⟨"10.0.0.1", "C1", TaskList.new.addNewTask db, NodeList.new.addNewNode n1⟩
    let S : Sys SyncPc := ⟨s, .start db [], fun _ => false, fun _ => false⟩
    let s' : State := { s with taskList := s.taskList.addNewTask db }
    Reachable sm.syncAction SyncPc.snapshot .listRunning S ∧
      sm.syncAction S.pc (Clock.const 0) S.state = some (.next [], Clock.const 0, s', []) ∧
      S.dirtyTasks "db" = false ∧
      (s'.taskList.getTask "db" = S.state.taskList.getTask "db" ∨
        s'.taskList.getTask "db" =
          (S.state.taskList.getTask "db").map fun r => { r with lastUpdate := 0 }) := by
  intro sm n1 db s S s'
  have h : Reachable sm.syncAction SyncPc.snapshot .listRunning S :=
    .step (.step (.step (.step (.step (.init s)
      (.own (Clock.const 0) (Clock.const 0) _ _ _ rfl))
      (.own (Clock.const 0) (Clock.const 0) _ _ _ rfl))
      (.own (Clock.const 0) (Clock.const 0) _ _ _ rfl))
      (.own (Clock.const 0) (Clock.const 0) _ _ _ rfl))
      (.own (Clock.const 0) (Clock.const 0) _ _ _ rfl)
  have hrun : sm.syncAction S.pc (Clock.const 0) S.state =
      some (.next [], Clock.const 0, s', []) := rfl
  exact ⟨h, hrun, rfl, sync_step_refreshes h hrun "db" rfl⟩

/-- Another client removes `db` after the tick listed it and before its id lookup: the lookup
misses, and the tick's `StartTask` re-creates the record. -/
theorem sync_tick_recreates_removed :
    let sm : StateManager := ⟨"10.0.0.1", "C1", "fboss", "10.0.0.1"⟩
    let db : Task := ⟨"db", "C1", "z-9", "n1", false, false, false, "192.168.0.9", "", .running, 0⟩
    ∃ S : Sys SyncPc, Reachable sm.syncAction SyncPc.snapshot .listRunning S ∧
      S.pc = .start db [] ∧ S.state.taskList.getTask "db" = none ∧
      (sm.syncAction S.pc (Clock.const 0) S.state).map
        (fun r => r.2.2.1.taskList.getTask "db") = some (some db) := by
  intro sm db
  let n1 : Node := ⟨"n1", "10.0.0.11", "slave", "none", false, "", 0⟩
  let s : State := ⟨"10.0.0.1", "C1", TaskList.new.addNewTask db, NodeList.new.addNewNode n1⟩
  have h₁ : Reachable sm.syncAction SyncPc.snapshot .listRunning
      ⟨s, .lookupId db [], fun _ => false, fun _ => false⟩ :=
    .step (.step (.init s) (.own (Clock.const 0) (Clock.const 0) _ _ _ rfl))
      (.own (Clock.const 0) (Clock.const 0) _ _ _ rfl)
  have h₂ := h₁.step (.other (.removeTask "db") 0 _ rfl)
  exact ⟨_, .step (.step (.step h₂ (.own (Clock.const 0) (Clock.const 0) _ _ _ rfl))
    (.own (Clock.const 0) (Clock.const 0) _ _ _ rfl))
    (.own (Clock.const 0) (Clock.const 0) _ _ _ rfl), rfl, by decide, by decide⟩

end StateManager

end TorcScheduler
