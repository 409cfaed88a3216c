import TorcScheduler.Api.RunApi
import TorcScheduler.Routes.Runs

/-!
# Runs with the admin surface

The clients of the actor under `src`: the sync thread, the clean thread and the HTTP handlers of
`run_api`.  `ReachApi` is a controller's run with all three: `StateManager::new`, then any
sequence of sync ticks, clean ticks and HTTP requests, each handled to completion with no other
client in between, each at any clock.  An HTTP request other than an announce writes at most new
owned `Requested` records with no ip, for the services `/start/group` starts (`handle_cases`).  Two
flags ride along a run: `fresh`, whether every announce met `FreshAnnounce`, and `clear`, whether
every `/start/group` started only names whose record carries no ip (`keepsClear`).

* `RouteInv.keeps` — such a write, over names whose record carries no ip, keeps the route
  invariant;
* `reachApi_routes_agree` — the routes agree with the task table along every clear run; a group
  that replaces a record whose ip is routed leaves that route behind (the `example` after it);
* `syncTick_ends`, `cleanTick_ends` — from a table whose every `Running` record sits on a node of
  the node table (`Placed`), both ticks end at any clock and keep it so;
* `reachApi_ticks_end` — every state of a run is placed, so the background threads never bring
  the actor down.
-/

namespace TorcScheduler

open Session

/-- Every `Running` task record sits on a node the node table holds. -/
def Placed (s : State) : Prop :=
  ∀ n t, s.taskList.getTask n = some t → t.state = .running →
    (s.nodeList.getNode t.nodeName).isSome

namespace Placed

variable {s : State}

/-- A setter that leaves a record `Running` only if it was, on the same node, keeps the placement. -/
theorem modifyTask {m : String} {f : Task → Task} (hf : ∀ t, (f t).name = t.name)
    (hk : ∀ t, (f t).state = .running → t.state = .running ∧ (f t).nodeName = t.nodeName)
    (h : Placed s) : Placed { s with taskList := s.taskList.modifyTask m f hf } := by
  intro n t ht hrun
  rw [TaskList.getTask_modifyTask] at ht
  split_ifs at ht
  · obtain ⟨r, hr, rfl⟩ := Option.map_eq_some'.1 ht
    obtain ⟨hr', hnode⟩ := hk r hrun
    simpa [hnode] using h n r hr hr'
  · exact h n t ht hrun

theorem removeTaskByName (m : String) (h : Placed s) :
    Placed { s with taskList := s.taskList.removeTaskByName m } := by
  intro n t ht
  simp only [TaskList.getTask_removeTaskByName] at ht
  split_ifs at ht
  exact h n t ht

/-- Inserting a record that, if `Running`, sits on a node of the table keeps the placement. -/
theorem addNewTask {t : Task} (hn : t.state = .running → (s.nodeList.getNode t.nodeName).isSome)
    (h : Placed s) : Placed { s with taskList := s.taskList.addNewTask t } := by
  intro n r hr
  simp only [TaskList.getTask_addNewTask] at hr
  split_ifs at hr
  · cases hr
    exact hn
  · exact h n r hr

/-- Deactivating a node keeps its record. -/
theorem setNodeInactive (m : String) (h : Placed s) :
    Placed { s with nodeList := s.nodeList.setNodeInactive m } := by
  intro n t ht hrun
  simp only [NodeList.getNode_setNodeInactive]
  split_ifs <;> simpa using h n t ht hrun

/-- What a request other than an announce writes keeps the placement: its new records are
`Requested`. -/
theorem keeps {myName : String} {req : ApiRequest} {s' : State} (h : Placed s)
    (hk : req.Keeps myName s s') : Placed s' := by
  intro n t ht hrun
  rw [hk.1]
  rcases hk.2 n with e | ⟨-, u, hu, -, -, -, hreq⟩
  · exact h n t (e ▸ ht) hrun
  · rw [hu] at ht
    cases ht
    simp [hreq] at hrun

end Placed

namespace StateManager

variable {sm : StateManager}

/-! ### The background ticks end on a placed table -/

/-- An announce that ends keeps the placement and the node table: a heartbeat only stamps, and an
insertion passed the `GetNode` of the task's node. -/
theorem sendAnnounceTask_placed {t : Task} {σ σ' : Clock} {s s' : State} {cs : List Call}
    (h : Placed s) (hrun : sm.sendAnnounceTask t σ s = some ((), σ', s', cs)) :
    Placed s' ∧ s'.nodeList = s.nodeList := by
  rw [sendAnnounceTask_apply] at hrun
  split at hrun
  · cases hrun
    exact ⟨h.modifyTask _ fun _ hrun => ⟨hrun, rfl⟩, rfl⟩
  · obtain ⟨node, hn, ⟨⟩⟩ := Option.map_eq_some'.1 hrun
    exact ⟨h.addNewTask fun _ => by simp [hn], rfl⟩

/-- An announce of a task on a node of the table ends. -/
theorem sendAnnounceTask_isSome {t : Task} {s : State}
    (hn : (s.nodeList.getNode t.nodeName).isSome) (σ : Clock) :
    (sm.sendAnnounceTask t σ s).isSome := by
  rw [sendAnnounceTask_apply]
  split
  · rfl
  · simpa using hn

/-- **Sync tick.** From a placed table a sync tick ends, at any clock, and keeps the placement:
each record of its snapshot is `Running`, so sits on a node, and no announce removes one. -/
theorem syncTick_ends : Ends Placed sm.syncTick fun _ => Placed := by
  let I : List Task → State → Prop := fun l s =>
    Placed s ∧ ∀ t ∈ l, (s.nodeList.getNode t.nodeName).isSome
  refine Ends.bind (Q := fun l => I l) (Ends.query _
    (fun σ s => ⟨_, requestListRunningTasks_apply σ s⟩) fun s h => ⟨h, fun t ht =>
      h _ t ((s.taskList.mem_getTasksWithState _ t).1 ht).1
        ((s.taskList.mem_getTasksWithState _ t).1 ht).2⟩) fun l => ?_
  refine (Ends.forM I (fun t l => ?_) l).consequence (fun _ h => h) fun _ _ h => h.1
  rintro σ s ⟨h, hl⟩
  obtain ⟨hn, hl⟩ := List.forall_mem_cons.1 hl
  simp only [syncTask, bind_apply, call_apply, Option.some_bind]
  split
  · obtain ⟨⟨_, σ', s', cs⟩, ha⟩ := Option.isSome_iff_exists.1 (sendAnnounceTask_isSome hn σ)
    obtain ⟨h', hN⟩ := sendAnnounceTask_placed h ha
    exact ⟨(), σ', s', _, by rw [ha]; rfl, h', hN ▸ hl⟩
  · exact ⟨(), σ, s, _, rfl, h, hl⟩

/-- **Clean tick.** From a placed table a clean tick ends, at any clock, and keeps the placement:
it removes records, sets states and deactivates nodes, and sends no `GetNode`. -/
theorem cleanTick_ends (timeout restartDelay : BitVec 64) :
    Ends Placed (sm.cleanTick timeout restartDelay) fun _ => Placed := by
  have expire : ∀ t (l : List Task), Ends Placed (sm.expireTask timeout t) fun _ => Placed := by
    rintro t - σ s h
    rw [expireTask_apply]
    split
    · exact ⟨_, _, _, _, rfl, h.removeTaskByName _⟩
    · exact ⟨_, _, _, _, rfl, h⟩
  have promote : ∀ t (l : List Task), Ends Placed (sm.promoteTask restartDelay t)
      fun _ => Placed := by
    rintro t - σ s h
    rw [promoteTask_apply]
    split
    · exact ⟨_, _, _, _, rfl, h.modifyTask _ fun _ hrun => by cases hrun⟩
    · exact ⟨_, _, _, _, rfl, h⟩
  have deactivate : ∀ x (l : List Node), Ends Placed (deactivateNode timeout x)
      fun _ => Placed := by
    rintro x - σ s h
    rw [deactivateNode_apply]
    split
    · exact ⟨_, _, _, _, rfl, h.setNodeInactive _⟩
    · exact ⟨_, _, _, _, rfl, h⟩
  have query : ∀ {α : Type} (x : Session α) (f : State → α),
      (∀ σ s, ∃ σ', x σ s = some (f s, σ', s, [])) → Ends Placed x fun _ => Placed :=
    fun x f hx => Ends.query f hx fun _ h => h
  exact Ends.bind (query _ _ fun σ s => ⟨_, requestListRunningTasks_apply σ s⟩) fun l₁ =>
    Ends.bind (Ends.forM (fun _ => Placed) expire l₁) fun _ =>
    Ends.bind (query _ _ fun σ s => ⟨_, requestListRestartTasks_apply σ s⟩) fun l₂ =>
    Ends.bind (Ends.forM (fun _ => Placed) promote l₂) fun _ =>
    Ends.bind (query _ _ fun σ s => ⟨_, requestListNodes_apply σ s⟩) fun l₃ =>
    Ends.forM (fun _ => Placed) deactivate l₃

/-- `StateManager::new` leaves an empty task table, so a placed one. -/
theorem new_placed {nodes : List NodeConfig} {σ σ' : Clock} {s : State} {cs : List Call}
    (h : sm.new nodes σ sm.initialState = some ((), σ', s, cs)) : Placed s := by
  obtain ⟨σ₁, nl, hrun, -⟩ := loadNodeList_spec nodes σ sm.initialState
  simp only [new, bind_apply, hrun, call_apply, Option.some_bind, Option.map_some',
    Option.some.injEq, Prod.mk.injEq] at h
  obtain ⟨-, -, rfl, -⟩ := h
  intro n t ht
  simp [initialState] at ht

/-! ### Routes along a run with the admin surface -/

/-- Whether a request keeps a run fresh: an announce must meet `FreshAnnounce`. -/
def keepsFresh (sm : StateManager) (s : State) : ApiRequest → Bool
  | .taskAnnounce t => decide (sm.FreshAnnounce s t)
  | _ => true

/-- Whether a request keeps a run clear: `/start/group` must start only names whose record carries
no ip. -/
def keepsClear (s : State) : ApiRequest → Bool
  | .startServiceGroup query groups =>
    match queryValue "name=" query with
    | some name => groups.all fun g =>
        g.name ≠ name || g.services.all fun service => taskIp s service.name = ""
    | none => true
  | _ => true

theorem keepsClear_taskIp {s : State} {req : ApiRequest} (h : keepsClear s req = true) {n : String}
    (hn : req.Starts n) : taskIp s n = "" := by
  cases req with
  | startServiceGroup query groups =>
    simp only [keepsClear, ApiRequest.Starts] at h hn
    cases hq : queryValue "name=" query with
    | none => simp [hq] at hn
    | some name =>
      simp only [hq, List.all_eq_true] at h hn
      obtain ⟨g, hg, rfl, service, hservice, rfl⟩ := hn
      exact (by simpa using h g hg : ∀ x ∈ g.services, taskIp s x.name = "") service hservice
  | _ => exact hn.elim

/-- What a request other than an announce writes, over names whose record carries no ip, keeps the
route invariant: no route call is made, and a replaced record had no route. -/
theorem RouteInv.keeps {b : Bool} {s s' : State} {fib : Fib} {req : ApiRequest}
    (h : sm.RouteInv b s fib) (hk : req.Keeps sm.myName s s')
    (hclear : ∀ n, req.Starts n → taskIp s n = "") : sm.RouteInv b s' fib := by
  -- a record after is the one before, or a new owned one with no ip
  have back : ∀ {n u}, s'.taskList.getTask n = some u →
      s.taskList.getTask n = some u ∨ (u.controller = sm.myName ∧ u.ip = "") := fun {n u} hu => by
    rcases hk.2 n with e | ⟨-, v, hv, hc, -, hip, -⟩
    · exact .inl (e ▸ hu)
    · rw [hv] at hu
      cases hu
      exact .inr ⟨hc, hip⟩
  -- a record with an ip stays
  have fwd : ∀ {n w}, s.taskList.getTask n = some w → w.ip ≠ "" →
      s'.taskList.getTask n = some w := fun {n w} hw hne => by
    rcases hk.2 n with e | ⟨hn, -⟩
    · exact e.trans hw
    · exact absurd (by simpa [taskIp, hw] using hclear n hn) hne
  refine ⟨fun a ha => ?_, h.empty_not_mem, fun hb n u hu hc hr => ?_,
    fun hb n m x y hx hy hip hne => ?_⟩
  · obtain ⟨n, w, hw, rfl⟩ := h.sound a ha
    exact ⟨n, w, fwd hw fun he => h.empty_not_mem (he ▸ ha), rfl⟩
  · rcases back hu with hu | ⟨hown, -⟩
    · exact h.complete hb n u hu hc (by simpa only [routable, hk.1] using hr)
    · exact absurd hown hc
  · rcases back hx with hx | ⟨-, hxe⟩
    · rcases back hy with hy | ⟨-, hye⟩
      · exact h.ip_inj hb n m x y hx hy hip hne
      · exact absurd (hip.trans hye) hne
    · exact absurd hxe hne

/-- The states a controller reaches with the clients under `src`: `new`, then sync ticks, clean
ticks and HTTP requests, each run to completion with no other client in between, and each at any
clock.  The flags record whether every announce met `FreshAnnounce`, and whether every
`/start/group` was clear. -/
inductive ReachApi (sm : StateManager) : State → Fib → Bool → Bool → Prop
  | new (nodes : List NodeConfig) (σ σ' : Clock) (s : State) (cs : List Call) (fib : Fib) :
      sm.new nodes σ sm.initialState = some ((), σ', s, cs) →
      ReachApi sm s (applyCalls cs fib) true true
  | sync {s : State} {fib : Fib} {fresh clear : Bool} (σ σ' : Clock) (s' : State)
      (cs : List Call) :
      ReachApi sm s fib fresh clear → sm.syncTick σ s = some ((), σ', s', cs) →
      ReachApi sm s' (applyCalls cs fib) fresh clear
  | clean {s : State} {fib : Fib} {fresh clear : Bool} (timeout restartDelay : BitVec 64)
      (σ σ' : Clock) (s' : State) (cs : List Call) :
      ReachApi sm s fib fresh clear →
      sm.cleanTick timeout restartDelay σ s = some ((), σ', s', cs) →
      ReachApi sm s' (applyCalls cs fib) fresh clear
  | request {s : State} {fib : Fib} {fresh clear : Bool} (req : ApiRequest) (σ σ' : Clock)
      (r : ApiReply × Option AdminCall) (s' : State) (cs : List Call) :
      ReachApi sm s fib fresh clear → sm.handle req σ s = some (r, σ', s', cs) →
      ReachApi sm s' (applyCalls cs fib) (fresh && sm.keepsFresh s req) (clear && keepsClear s req)

variable {s : State} {fib : Fib} {b c : Bool}

/-- Every clear state of a run with the admin surface meets the route invariant of its flag. -/
theorem reachApi_routeInv (hty : knownAgent sm.networkAgentType = true)
    (h : sm.ReachApi s fib b c) : c = true → sm.RouteInv b s fib := by
  induction h with
  | new nodes σ σ' s cs fib hrun => exact fun _ => new_routeInv hty nodes σ _ fib () σ' s cs rfl hrun
  | sync σ σ' s' cs _ hrun ih => exact fun hc => syncTick_routeInv hty σ _ _ () σ' s' cs (ih hc) hrun
  | clean timeout restartDelay σ σ' s' cs _ hrun ih =>
    exact fun hc => cleanTick_routeInv hty timeout restartDelay σ _ _ () σ' s' cs (ih hc) hrun
  | request req σ σ' r s' cs _ hrun ih =>
    intro hc'
    obtain ⟨hc, hclear⟩ := Bool.and_eq_true_iff.1 hc'
    rcases handle_cases hrun with ⟨t, rfl, ha⟩ | ⟨hreq, rfl, hk⟩
    · exact RouteInv.sendAnnounceTask hty ha (ih hc)
    · have hf : ∀ s, sm.keepsFresh s req = true := by cases req <;> simp_all [keepsFresh]
      simpa [applyCalls, hf] using (ih hc).keeps hk fun n => keepsClear_taskIp hclear

/-- **Routes agree with the task table, with the admin surface served.** In every state a
controller reaches with its background threads and its HTTP handlers, with a known agent type,
along a run whose every `/start/group` started only names whose record carries no ip: every routed
address is the ip of a task in the table; and if every announce of the run met `FreshAnnounce`,
every foreign task the code can route has its ip routed. -/
theorem reachApi_routes_agree (hty : knownAgent sm.networkAgentType = true)
    (h : sm.ReachApi s fib b c) (hc : c = true) :
    (∀ a ∈ fib, ∃ t ∈ s.taskList.tasks, t.ip = a) ∧
      (b = true → ∀ t ∈ s.taskList.tasks, t.controller ≠ sm.myName →
        sm.routable s t = true → t.ip ∈ fib) := by
  have hinv := reachApi_routeInv hty h hc
  refine ⟨fun a ha => ?_, fun hb t ht hc hr =>
    hinv.complete hb _ t (TaskList.getTask_of_mem ht) hc hr⟩
  obtain ⟨n, t, htn, rfl⟩ := hinv.sound a ha
  exact ⟨t, (s.taskList.getTask_eq_some_iff.1 htn).1, rfl⟩

/-- Start-up with one node `n1`; an HTTP announce of a peer's task `api`; `n1` powered on; the
group `g` of one service `db` started. -/
theorem reachApi_announce_startGroup :
    let sm : StateManager := ⟨"10.0.0.1", "C1", "fboss", "10.0.0.1"⟩
    let n1 : Node := ⟨"n1", "10.0.0.11", "slave", "none", false, "", 0⟩
    let api : Task := ⟨"api", "C2", "z-1", "n1", false, false, false, "192.168.0.7", "", .running, 0⟩
    let db : Task := ⟨"db", "C1", "", "n1", false, false, false, "", "", .requested, 0⟩
    sm.ReachApi ⟨"10.0.0.1", "C1", (TaskList.new.addNewTask api).addNewTask db,
      NodeList.new.addNewNode n1⟩ {"192.168.0.7"} true true := by
  intro sm n1 api db
  have h₀ : sm.ReachApi ⟨"10.0.0.1", "C1", TaskList.new, NodeList.new.addNewNode n1⟩ ∅ true true :=
    .new [⟨"n1", "10.0.0.11", "slave"⟩] (Clock.const 0) (Clock.const 0) _
      [.resetFib "fboss" "10.0.0.1"] ∅ rfl
  have h₁ := ReachApi.request (.taskAnnounce api) (Clock.const 0) (Clock.const 0)
    (.result "done", none) _ [.addRoute "fboss" "10.0.0.1" "192.168.0.7" "10.0.0.11"] h₀ rfl
  have h₂ := ReachApi.request (.nodeStartup (some "name=n1")) (Clock.const 0) (Clock.const 0)
    (.result "done", some (.startupNode n1)) _ [] h₁ rfl
  exact ReachApi.request (.startServiceGroup (some "name=g") [⟨"g", [⟨"db", "n1", false, false⟩]⟩])
    (Clock.const 0) (Clock.const 0) (.result "done", none) _ [] h₂ rfl

/-- After that run the peer's task is routed. -/
theorem reachApi_routes_agree_after_announce :
    let sm : StateManager := ⟨"10.0.0.1", "C1", "fboss", "10.0.0.1"⟩
    let n1 : Node := ⟨"n1", "10.0.0.11", "slave", "none", false, "", 0⟩
    let api : Task := ⟨"api", "C2", "z-1", "n1", false, false, false, "192.168.0.7", "", .running, 0⟩
    let db : Task := ⟨"db", "C1", "", "n1", false, false, false, "", "", .requested, 0⟩
    let s : State := ⟨"10.0.0.1", "C1", (TaskList.new.addNewTask api).addNewTask db,
      NodeList.new.addNewNode n1⟩
    knownAgent sm.networkAgentType = true ∧ sm.ReachApi s {"192.168.0.7"} true true ∧
      true = true ∧ ((∀ a ∈ ({"192.168.0.7"} : Fib), ∃ t ∈ s.taskList.tasks, t.ip = a) ∧
        (true = true → ∀ t ∈ s.taskList.tasks, t.controller ≠ sm.myName →
          sm.routable s t = true → t.ip ∈ ({"192.168.0.7"} : Fib))) := by
  intro sm n1 api db s
  have h := reachApi_announce_startGroup
  exact ⟨rfl, h, rfl, reachApi_routes_agree rfl h rfl⟩

/-- Without clearness the sound half fails: `/start/group` starts a service named like a peer's
routed task, and the route stays with no record carrying its ip. -/
example :
    let sm : StateManager := ⟨"10.0.0.1", "C1", "fboss", "10.0.0.1"⟩
    let n1 : Node := ⟨"n1", "10.0.0.11", "slave", "none", false, "", 0⟩
    let web : Task := ⟨"web", "C2", "z-1", "n1", false, false, false, "192.168.0.7", "", .running, 0⟩
    let web' : Task := ⟨"web", "C1", "", "n1", false, false, false, "", "", .requested, 0⟩
    let s : State := ⟨"10.0.0.1", "C1", (TaskList.new.addNewTask web).addNewTask web',
      NodeList.new.addNewNode n1⟩
    sm.ReachApi s {"192.168.0.7"} true false ∧
      ¬ ∀ a ∈ ({"192.168.0.7"} : Fib), ∃ t ∈ s.taskList.tasks, t.ip = a := by
  intro sm n1 web web' s
  have h₀ : sm.ReachApi ⟨"10.0.0.1", "C1", TaskList.new, NodeList.new.addNewNode n1⟩ ∅ true true :=
    .new [⟨"n1", "10.0.0.11", "slave"⟩] (Clock.const 0) (Clock.const 0) _
      [.resetFib "fboss" "10.0.0.1"] ∅ rfl
  have h₁ := ReachApi.request (.taskAnnounce web) (Clock.const 0) (Clock.const 0)
    (.result "done", none) _ [.addRoute "fboss" "10.0.0.1" "192.168.0.7" "10.0.0.11"] h₀ rfl
  exact ⟨ReachApi.request (.startServiceGroup (some "name=g") [⟨"g", [⟨"web", "n1", false, false⟩]⟩])
    (Clock.const 0) (Clock.const 0) (.result "done", none) _ [] h₁ rfl, by decide⟩

/-! ### The background ticks never abort along a run -/

/-- Every state of a run with the admin surface is placed. -/
theorem reachApi_placed (h : sm.ReachApi s fib b c) : Placed s := by
  induction h with
  | new nodes σ σ' s cs fib hrun => exact new_placed hrun
  | sync σ σ' s' cs _ hrun ih => exact syncTick_ends.post ih hrun
  | clean timeout restartDelay σ σ' s' cs _ hrun ih =>
    exact (cleanTick_ends timeout restartDelay).post ih hrun
  | request req σ σ' r s' cs _ hrun ih =>
    rcases handle_cases hrun with ⟨t, rfl, ha⟩ | ⟨-, -, hk⟩
    · exact (sendAnnounceTask_placed ih ha).1
    · exact ih.keeps hk

/-- **The background threads never bring the actor down.** In every state a controller reaches
with its background threads and its HTTP handlers, every `Running` task record sits on a node of
the node table, so a sync tick and a clean tick, at any clock and with any timeout and restart
delay, end. -/
theorem reachApi_ticks_end (h : sm.ReachApi s fib b c) :
    Placed s ∧ ∀ σ timeout restartDelay,
      (sm.syncTick σ s).isSome ∧ (sm.cleanTick timeout restartDelay σ s).isSome := by
  have hp := reachApi_placed h
  exact ⟨hp, fun σ timeout restartDelay =>
    ⟨syncTick_ends.isSome hp σ, (cleanTick_ends timeout restartDelay).isSome hp σ⟩⟩

/-- After the run above, both ticks end. -/
theorem reachApi_ticks_end_announced :
    let sm : StateManager := ⟨"10.0.0.1", "C1", "fboss", "10.0.0.1"⟩
    let n1 : Node := ⟨"n1", "10.0.0.11", "slave", "none", false, "", 0⟩
    let api : Task := ⟨"api", "C2", "z-1", "n1", false, false, false, "192.168.0.7", "", .running, 0⟩
    let db : Task := ⟨"db", "C1", "", "n1", false, false, false, "", "", .requested, 0⟩
    let s : State := ⟨"10.0.0.1", "C1", (TaskList.new.addNewTask api).addNewTask db,
      NodeList.new.addNewNode n1⟩
    sm.ReachApi s {"192.168.0.7"} true true ∧ (Placed s ∧ ∀ σ timeout restartDelay,
      (sm.syncTick σ s).isSome ∧ (sm.cleanTick timeout restartDelay σ s).isSome) := by
  intro sm n1 api db s
  have h := reachApi_announce_startGroup
  exact ⟨h, reachApi_ticks_end h⟩

end StateManager

end TorcScheduler
