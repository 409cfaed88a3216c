import TorcScheduler.Routes.Invariant

/-!
# Routes over whole runs

A controller's run: `StateManager::new`, then any sequence of announces, sync ticks and clean
ticks, each run to completion with no other client in between, and each at any clock (`Reach`).
`Reach` carries a ghost flag `fresh`: whether every announce so far met `FreshAnnounce`.

* `syncTick_routeInv`, `cleanTick_routeInv` — each tick keeps the route invariant, whatever the
  clock reads at each of its iterations;
* `reach_routeInv` — so does every run;
* `reach_routes_agree` — every routed address is the ip of a task in the table, and on a fresh run
  every routable foreign task is routed;
* `reach_shared_ip_unrouted` — without freshness the second half fails: two replicas announced with
  one ip, the older expires, and its route is deleted under the younger.
-/

namespace TorcScheduler

open Session

namespace StateManager

variable {sm : StateManager} {b : Bool}

/-- The loop invariant over a snapshot of records: the route invariant, each record not yet
visited still the table's record of its name, and the names distinct. -/
def SnapshotInv (sm : StateManager) (b : Bool) (l : List Task) (s : State) (fib : Fib) : Prop :=
  sm.RouteInv b s fib ∧ (∀ t ∈ l, s.taskList.getTask t.name = some t) ∧ (l.map Task.name).Nodup

/-- A fresh snapshot of one state meets the loop invariant. -/
theorem snapshotInv_getTasksWithState {s : State} {fib : Fib} (st : TaskState)
    (h : sm.RouteInv b s fib) : sm.SnapshotInv b (s.taskList.getTasksWithState st) s fib :=
  ⟨h, fun t ht => ((s.taskList.mem_getTasksWithState st t).1 ht).1,
    s.taskList.nodup_getTasksWithState st⟩

/-- Visiting the head of a snapshot that leaves the rest of it in place keeps the loop invariant
for the rest. -/
theorem SnapshotInv.tail {t : Task} {l : List Task} {s s' : State} {fib fib' : Fib}
    (h : sm.SnapshotInv b (t :: l) s fib) (hinv : sm.RouteInv b s' fib')
    (hframe : ∀ n, t.name ≠ n → s'.taskList.getTask n = s.taskList.getTask n) :
    sm.SnapshotInv b l s' fib' := by
  obtain ⟨-, hcur, hnd⟩ := h
  exact ⟨hinv, Table.forall_tail_of_nodup hcur hnd fun u hne hu => (hframe _ hne).trans hu⟩

section Known

variable (hty : knownAgent sm.networkAgentType = true)
include hty

/-- `StateManager::new` leaves an empty task table and an empty forwarding table. -/
theorem new_routeInv (nodes : List NodeConfig) :
    Triple (fun s _ => s = sm.initialState) (sm.new nodes) fun _ => sm.RouteInv b := by
  refine Triple.bind (Q := fun _ s _ => ∀ n, s.taskList.getTask n = none) ?_ fun _ => ?_
  · refine (Triple.forM (fun _ s _ => ∀ n, s.taskList.getTask n = none) (fun node _ => ?_) nodes)
      |>.consequence (fun s _ hs => by simp [hs, initialState]) fun _ _ _ h => h
    rintro σ s fib a σ' s' cs hs hrun
    rw [sendAddNode_apply] at hrun
    cases hrun
    exact hs
  · rintro σ s fib a σ' s' cs hs ⟨⟩
    simpa [applyFib_resetFib hty] using RouteInv.of_empty hs

/-- **Sync tick.** One sync tick, at any clock, keeps the route invariant. -/
theorem syncTick_routeInv : Triple (sm.RouteInv b) sm.syncTick fun _ => sm.RouteInv b := by
  refine Triple.bind (Triple.query _ (fun σ s => ⟨_, requestListRunningTasks_apply σ s⟩)
    fun _ _ h => snapshotInv_getTasksWithState .running h) fun l => ?_
  refine (Triple.forM (sm.SnapshotInv b) (fun t l => ?_) l).consequence (fun _ _ h => h)
    fun _ _ _ h => h.1
  rintro σ s fib a σ' s' cs hI hrun
  simp only [syncTask, bind_apply, call_apply, Option.some_bind] at hrun
  split at hrun
  · obtain ⟨⟨_, σ₂, s₂, c₂⟩, ha, ⟨⟩⟩ := Option.map_eq_some'.1 hrun
    have hcur := hI.2.1 t (List.mem_cons_self _ _)
    have hinv := RouteInv.sendAnnounceTask hty ha hI.1
    have hf : (b && decide (sm.FreshAnnounce s t)) = b := by
      cases b
      · rfl
      · exact decide_eq_true (freshAnnounce_of_current hI.1 hcur ‹_›)
    rw [hf] at hinv
    exact hI.tail (by simpa using hinv) fun n hn => sendAnnounceTask_getTask ha hn
  · cases hrun
    exact hI.tail (by simpa using hI.1) fun _ _ => rfl

/-- **Clean tick.** One clean tick, at any clock, keeps the route invariant. -/
theorem cleanTick_routeInv (timeout restartDelay : BitVec 64) :
    Triple (sm.RouteInv b) (sm.cleanTick timeout restartDelay) fun _ => sm.RouteInv b := by
  have expire : ∀ t l, Triple (sm.SnapshotInv b (t :: l)) (sm.expireTask timeout t)
      fun _ => sm.SnapshotInv b l := by
    rintro t l σ s fib a σ' s' cs hI hrun
    rw [expireTask_apply] at hrun
    split at hrun <;> cases hrun
    · exact hI.tail (by simpa using hI.1.removeTask hty (hI.2.1 t (List.mem_cons_self _ _)))
        fun n hn => by simp [hn]
    · exact hI.tail hI.1 fun _ _ => rfl
  have promote : ∀ t (l : List Task), Triple (sm.RouteInv b) (sm.promoteTask restartDelay t)
      fun _ => sm.RouteInv b := by
    rintro t - σ s fib a σ' s' cs h hrun
    rw [promoteTask_apply] at hrun
    split at hrun <;> cases hrun
    · exact h.modifyTask _ fun _ => rfl
    · exact h
  have deactivate : ∀ x (l : List Node), Triple (sm.RouteInv b) (deactivateNode timeout x)
      fun _ => sm.RouteInv b := by
    rintro x - σ s fib a σ' s' cs h hrun
    rw [deactivateNode_apply] at hrun
    split at hrun <;> cases hrun
    · exact h.setNodeInactive _
    · exact h
  refine Triple.bind (Triple.query _ (fun σ s => ⟨_, requestListRunningTasks_apply σ s⟩)
    fun _ _ h => snapshotInv_getTasksWithState .running h) fun l₁ => ?_
  refine Triple.bind ((Triple.forM _ expire l₁).consequence (fun _ _ h => h) fun _ _ _ h => h.1)
    fun _ => ?_
  refine Triple.bind (Triple.query _ (fun σ s => ⟨_, requestListRestartTasks_apply σ s⟩)
    (fun _ _ h => h) : Triple (sm.RouteInv b) _ fun _ => sm.RouteInv b) fun l₂ => ?_
  refine Triple.bind (Triple.forM (fun _ => sm.RouteInv b) promote l₂) fun _ => ?_
  exact Triple.bind (Triple.query _ (fun σ s => ⟨_, requestListNodes_apply σ s⟩)
    (fun _ _ h => h) : Triple (sm.RouteInv b) _ fun _ => sm.RouteInv b) fun l₃ =>
      Triple.forM (fun _ => sm.RouteInv b) deactivate l₃

end Known

/-- The states a controller reaches: `new`, then announces, sync ticks and clean ticks, each run to
completion with no other client in between, and each at any clock.  The flag records whether
every announce met `FreshAnnounce`. -/
inductive Reach (sm : StateManager) : State → Fib → Bool → Prop
  | new (nodes : List NodeConfig) (σ σ' : Clock) (s : State) (cs : List Call) (fib : Fib) :
      sm.new nodes σ sm.initialState = some ((), σ', s, cs) → Reach sm s (applyCalls cs fib) true
  | announce {s : State} {fib : Fib} {fresh : Bool} (t : Task) (σ σ' : Clock) (s' : State)
      (cs : List Call) :
      Reach sm s fib fresh → sm.sendAnnounceTask t σ s = some ((), σ', s', cs) →
      Reach sm s' (applyCalls cs fib) (fresh && decide (sm.FreshAnnounce s t))
  | sync {s : State} {fib : Fib} {fresh : Bool} (σ σ' : Clock) (s' : State) (cs : List Call) :
      Reach sm s fib fresh → sm.syncTick σ s = some ((), σ', s', cs) →
      Reach sm s' (applyCalls cs fib) fresh
  | clean {s : State} {fib : Fib} {fresh : Bool} (timeout restartDelay : BitVec 64) (σ σ' : Clock)
      (s' : State) (cs : List Call) :
      Reach sm s fib fresh → sm.cleanTick timeout restartDelay σ s = some ((), σ', s', cs) →
      Reach sm s' (applyCalls cs fib) fresh

variable {s : State} {fib : Fib}

/-- Every reachable state meets the route invariant of its run's flag. -/
theorem reach_routeInv (hty : knownAgent sm.networkAgentType = true) (h : sm.Reach s fib b) :
    sm.RouteInv b s fib := by
  induction h with
  | new nodes σ σ' s cs fib hrun => exact new_routeInv hty nodes σ _ fib () σ' s cs rfl hrun
  | announce t σ σ' s' cs _ hrun ih => exact RouteInv.sendAnnounceTask hty hrun ih
  | sync σ σ' s' cs _ hrun ih => exact syncTick_routeInv hty σ _ _ () σ' s' cs ih hrun
  | clean timeout restartDelay σ σ' s' cs _ hrun ih =>
    exact cleanTick_routeInv hty timeout restartDelay σ _ _ () σ' s' cs ih hrun

/-- **Routes agree with the task table.** In every state a controller reaches, with a known agent
type, every routed address is the ip of a task in the table; and if every announce of the run met
`FreshAnnounce`, every foreign task the code can route has its ip routed. -/
theorem reach_routes_agree (hty : knownAgent sm.networkAgentType = true)
    (h : sm.Reach s fib b) :
    (∀ a ∈ fib, ∃ t ∈ s.taskList.tasks, t.ip = a) ∧
      (b = true → ∀ t ∈ s.taskList.tasks, t.controller ≠ sm.myName →
        sm.routable s t = true → t.ip ∈ fib) := by
  have hinv := reach_routeInv hty h
  refine ⟨fun a ha => ?_, fun hb t ht hc hr =>
    hinv.complete hb _ t (TaskList.getTask_of_mem ht) hc hr⟩
  obtain ⟨n, t, htn, rfl⟩ := hinv.sound a ha
  exact ⟨t, (s.taskList.getTask_eq_some_iff.1 htn).1, rfl⟩

/-- A peer's task announced right after start-up is routed. -/
theorem reach_routes_agree_after_announce :
    let sm : StateManager := ⟨"10.0.0.1", "C1", "fboss", "10.0.0.1"⟩
    let n1 : Node := ⟨"n1", "10.0.0.11", "slave", "none", false, "", 0⟩
    let api : Task := ⟨"api", "C2", "z-1", "n1", false, false, false, "192.168.0.7", "", .running, 0⟩
    let s : State := ⟨"10.0.0.1", "C1", TaskList.new.addNewTask api, NodeList.new.addNewNode n1⟩
    knownAgent sm.networkAgentType = true ∧ sm.Reach s {"192.168.0.7"} true ∧
      ((∀ a ∈ ({"192.168.0.7"} : Fib), ∃ t ∈ s.taskList.tasks, t.ip = a) ∧
        (true = true → ∀ t ∈ s.taskList.tasks, t.controller ≠ sm.myName →
          sm.routable s t = true → t.ip ∈ ({"192.168.0.7"} : Fib))) := by
  intro sm n1 api s
  have h₀ : sm.Reach ⟨"10.0.0.1", "C1", TaskList.new, NodeList.new.addNewNode n1⟩ ∅ true :=
    Reach.new [⟨"n1", "10.0.0.11", "slave"⟩] (Clock.const 0) (Clock.const 0) _
      [.resetFib "fboss" "10.0.0.1"] ∅ rfl
  have h₁ : sm.Reach s {"192.168.0.7"} true :=
    Reach.announce api (Clock.const 0) (Clock.const 0) s
      [.addRoute "fboss" "10.0.0.1" "192.168.0.7" "10.0.0.11"] h₀ rfl
  exact ⟨rfl, h₁, reach_routes_agree rfl h₁⟩

/-- Two replicas announced with one ip: when the older expires, the clean tick deletes the route
the younger still needs. -/
theorem reach_shared_ip_unrouted :
    let sm : StateManager := ⟨"10.0.0.1", "C1", "fboss", "10.0.0.1"⟩
    let n1 : Node := ⟨"n1", "10.0.0.11", "slave", "none", false, "", 0⟩
    let web : Task := ⟨"web", "C2", "z-2", "n1", false, false, false, "192.168.0.7", "", .running, 100⟩
    let s : State := ⟨"10.0.0.1", "C1", TaskList.new.addNewTask web, NodeList.new.addNewNode n1⟩
    sm.Reach s ∅ false ∧
      ¬ ∀ t ∈ s.taskList.tasks, t.controller ≠ sm.myName → sm.routable s t = true →
        t.ip ∈ (∅ : Fib) := by
  intro sm n1 web s
  let api : Task := ⟨"api", "C2", "z-1", "n1", false, false, false, "192.168.0.7", "", .running, 0⟩
  have h₀ : sm.Reach ⟨"10.0.0.1", "C1", TaskList.new, NodeList.new.addNewNode n1⟩ ∅ true :=
    Reach.new [⟨"n1", "10.0.0.11", "slave"⟩] (Clock.const 0) (Clock.const 0) _
      [.resetFib "fboss" "10.0.0.1"] ∅ rfl
  have h₁ : sm.Reach ⟨"10.0.0.1", "C1", TaskList.new.addNewTask api, NodeList.new.addNewNode n1⟩
      {"192.168.0.7"} true :=
    Reach.announce api (Clock.const 0) (Clock.const 0) _
      [.addRoute "fboss" "10.0.0.1" "192.168.0.7" "10.0.0.11"] h₀ rfl
  have h₂ : sm.Reach
      ⟨"10.0.0.1", "C1", (TaskList.new.addNewTask api).addNewTask web, NodeList.new.addNewNode n1⟩
      {"192.168.0.7"} false :=
    Reach.announce web (Clock.const 0) (Clock.const 0) _
      [.addRoute "fboss" "10.0.0.1" "192.168.0.7" "10.0.0.11"] h₁ rfl
  have h₃ : sm.Reach s ∅ false :=
    Reach.clean 30 60 (Clock.const 50) (Clock.const 50) s
      [.deleteRoute "fboss" "10.0.0.1" "192.168.0.7"] h₂ rfl
  exact ⟨h₃, by decide⟩

end StateManager

end TorcScheduler
