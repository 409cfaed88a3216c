import TorcScheduler.State.Triple
import TorcScheduler.State.Loops

/-!
# The route invariant and the table writes that keep it

The routing agent holds a /32 route for each address of its forwarding table.  A controller keeps
that table in step with its task table along three code paths: `StateManager::new` resets it,
`send_announce_task` adds a route to each task it inserts and removes the one the replaced record
leaves, and the clean loop removes the route of each foreign task it expires.

`RouteInv sm fresh s fib` is what holds between two runs:

* `sound`, `empty_not_mem` — every routed address is the ip of a task in the table, and `""` is
  never routed;
* `complete`, `ip_inj` — on a *fresh* run, every foreign task that can be routed is routed, and
  two records with one non-empty ip are one record.

A run is fresh while each announce that inserts meets `FreshAnnounce`: its ip is carried by no
other record and, for a foreign task, differs from the ip of the record it replaces.  This module
proves that each table write keeps the invariant; `Routes.Runs` lifts that to ticks and runs.
-/

namespace TorcScheduler

/-- What the routes read of a task record: its controller, its node and its ip. -/
def Task.routeKey (t : Task) : String × String × String :=
  (t.controller, t.nodeName, t.ip)

namespace StateManager

variable (sm : StateManager)

/-- A task the code can route: its node has a non-empty external ip, and its ip is non-empty and
not a prefix of the agent's connection (`add_route` skips such an address). -/
def routable (s : State) (t : Task) : Bool :=
  ((s.nodeList.getNode t.nodeName).map Node.externalIp).any (fun ip => ip ≠ "") && t.ip ≠ "" &&
    !startsWith sm.networkAgentConnection t.ip

/-- The route invariant; `fresh` says whether the run so far met `FreshAnnounce`. -/
structure RouteInv (fresh : Bool) (s : State) (fib : Fib) : Prop where
  sound : ∀ a ∈ fib, ∃ n t, s.taskList.getTask n = some t ∧ t.ip = a
  empty_not_mem : "" ∉ fib
  complete : fresh = true → ∀ n t, s.taskList.getTask n = some t → t.controller ≠ sm.myName →
    sm.routable s t = true → t.ip ∈ fib
  ip_inj : fresh = true → ∀ n m t u, s.taskList.getTask n = some t →
    s.taskList.getTask m = some u → t.ip = u.ip → t.ip ≠ "" → n = m

variable {sm} {b : Bool} {s s' : State} {fib : Fib}

/-- An empty task table with an empty forwarding table. -/
theorem RouteInv.of_empty (h : ∀ n, s.taskList.getTask n = none) : sm.RouteInv b s ∅ :=
  ⟨by simp, by simp, fun _ n t ht => by simp [h n] at ht, fun _ n _ t _ ht => by simp [h n] at ht⟩

theorem routable_congr {t t' : Task}
    (hN : (s'.nodeList.getNode t.nodeName).map Node.externalIp =
      (s.nodeList.getNode t.nodeName).map Node.externalIp)
    (hk : t'.routeKey = t.routeKey) : sm.routable s' t' = sm.routable s t := by
  simp only [Task.routeKey, Prod.mk.injEq] at hk
  simp only [routable, hk, hN]

/-- **Writes the routes do not read.** A write that keeps every record's controller, node and ip,
and every node's external ip, keeps the invariant. -/
theorem RouteInv.congr (h : sm.RouteInv b s fib)
    (hT : ∀ n, (s'.taskList.getTask n).map Task.routeKey = (s.taskList.getTask n).map Task.routeKey)
    (hN : ∀ m, (s'.nodeList.getNode m).map Node.externalIp =
      (s.nodeList.getNode m).map Node.externalIp) :
    sm.RouteInv b s' fib := by
  have back : ∀ {n t'}, s'.taskList.getTask n = some t' →
      ∃ t, s.taskList.getTask n = some t ∧ t.routeKey = t'.routeKey := fun {n} _ h' =>
    Option.map_eq_some'.1 ((hT n).symm.trans (by rw [h']; rfl))
  have fwd : ∀ {n t}, s.taskList.getTask n = some t →
      ∃ t', s'.taskList.getTask n = some t' ∧ t'.routeKey = t.routeKey := fun {n} _ h' =>
    Option.map_eq_some'.1 ((hT n).trans (by rw [h']; rfl))
  refine ⟨fun a ha => ?_, h.empty_not_mem, fun hb n t' ht' hc hr => ?_,
    fun hb n m t' u' ht' hu' hip hne => ?_⟩
  · obtain ⟨n, t, ht, rfl⟩ := h.sound a ha
    obtain ⟨t', ht', hk⟩ := fwd ht
    exact ⟨n, t', ht', congrArg (·.2.2) hk⟩
  · obtain ⟨t, ht, hk⟩ := back ht'
    rw [routable_congr (hN _) hk.symm] at hr
    have hk' := hk
    simp only [Task.routeKey, Prod.mk.injEq] at hk'
    rw [← hk'.2.2]
    exact h.complete hb n t ht (hk'.1 ▸ hc) hr
  · obtain ⟨t, ht, hk⟩ := back ht'
    obtain ⟨u, hu, hk₂⟩ := back hu'
    simp only [Task.routeKey, Prod.mk.injEq] at hk hk₂
    exact h.ip_inj hb n m t u ht hu (by rw [hk.2.2, hk₂.2.2, hip]) (hk.2.2 ▸ hne)

/-- The announce's precondition for keeping routes complete: when it inserts (the id is unknown),
its non-empty ip is carried by no record of another name, and a foreign task's ip differs from the
one its old record leaves. -/
def FreshAnnounce (s : State) (t : Task) : Prop :=
  (s.taskList.getTaskNameById t.id).length = 0 →
    (∀ w ∈ s.taskList.tasks, w.name ≠ t.name → t.ip ≠ "" → w.ip ≠ t.ip) ∧
    (t.controller ≠ sm.myName → t.ip ≠ "" → taskIp s t.name ≠ t.ip)

instance (s : State) (t : Task) : Decidable (sm.FreshAnnounce s t) :=
  inferInstanceAs (Decidable (_ → _ ∧ _))

/-- A setter that keeps controller, node and ip keeps the invariant. -/
theorem RouteInv.modifyTask {m : String} {f : Task → Task} (hf : ∀ t, (f t).name = t.name)
    (hk : ∀ t, (f t).routeKey = t.routeKey) (h : sm.RouteInv b s fib) :
    sm.RouteInv b { s with taskList := s.taskList.modifyTask m f hf } fib := by
  refine h.congr (fun n => ?_) fun _ => rfl
  rw [TaskList.getTask_modifyTask]
  split_ifs
  · simp [Option.map_map, Function.comp_def, hk]
  · rfl

/-- Deactivating a node keeps its external ip, so the invariant. -/
theorem RouteInv.setNodeInactive (m : String) (h : sm.RouteInv b s fib) :
    sm.RouteInv b { s with nodeList := s.nodeList.setNodeInactive m } fib := by
  refine h.congr (fun _ => rfl) fun n => ?_
  rw [NodeList.getNode_setNodeInactive]
  split_ifs
  · simp [Option.map_map, Function.comp_def]
  · rfl

/-- An owned record already in the table, re-announced by the sync loop, meets `FreshAnnounce`. -/
theorem freshAnnounce_of_current {t : Task} (h : sm.RouteInv true s fib)
    (ht : s.taskList.getTask t.name = some t) (hown : t.controller = sm.myName) :
    sm.FreshAnnounce s t := fun _ =>
  ⟨fun _ hw hn hne hip => hn (h.ip_inj rfl _ _ _ _ (TaskList.getTask_of_mem hw) ht hip (hip ▸ hne)),
    fun hc => absurd hown hc⟩

section Known

variable (hty : knownAgent sm.networkAgentType = true)
include hty

/-- **Expiry.** Removing a record that is in the table and deleting the route of its ip keeps the
invariant. -/
theorem RouteInv.removeTask {t : Task} (ht : s.taskList.getTask t.name = some t)
    (h : sm.RouteInv b s fib) :
    sm.RouteInv b { s with taskList := s.taskList.removeTaskByName t.name }
      ((Call.deleteRoute sm.networkAgentType sm.networkAgentConnection t.ip).applyFib fib) := by
  have hmem := fun a => mem_applyFib_deleteRoute hty sm.networkAgentConnection t.ip a fib
  have other : ∀ {n u}, s.taskList.getTask n = some u → u.ip ≠ "" → n ≠ t.name →
      b = true → u.ip ≠ t.ip := fun hu hne hn hb hip => hn (h.ip_inj hb _ _ _ _ hu ht hip hne)
  refine ⟨fun a ha => ?_, fun he => h.empty_not_mem ((hmem "").1 he).1,
    fun hb n u hu hc hr => ?_, fun hb n m u v hu hv => ?_⟩
  · rw [hmem] at ha
    obtain ⟨n, w, hw, rfl⟩ := h.sound a ha.1
    refine ⟨n, w, ?_, rfl⟩
    simp only [TaskList.getTask_removeTaskByName]
    split_ifs with hn
    · subst hn
      rw [ht] at hw
      cases hw
      exact absurd (ha.2.resolve_right (· rfl) ▸ ha.1) h.empty_not_mem
    · exact hw
  · simp only [TaskList.getTask_removeTaskByName] at hu
    split_ifs at hu with hn
    have hne : u.ip ≠ "" := by simp [routable] at hr; exact hr.1.2
    rw [hmem]
    exact ⟨h.complete hb n u hu hc hr, .inr (other hu hne (Ne.symm hn) hb)⟩
  · simp only [TaskList.getTask_removeTaskByName] at hu hv
    split_ifs at hu hv
    exact h.ip_inj hb n m u v hu hv

/-- The forwarding table after the announce's insert branch: the route to `dest` is added when
the code forwards it, and the route of the old ip `old` is then deleted. -/
theorem mem_applyCalls_announce (a dest via old : String) (fib : Fib) :
    a ∈ applyCalls (.addRoute sm.networkAgentType sm.networkAgentConnection dest via ::
        if old.length > 0 then [.deleteRoute sm.networkAgentType sm.networkAgentConnection old]
        else []) fib ↔
      (a ∈ fib ∨ (via ≠ "" ∧ startsWith sm.networkAgentConnection dest = false ∧ a = dest)) ∧
        (old = "" ∨ a ≠ old) := by
  by_cases ho : old = ""
  · simp [ho, mem_applyFib_addRoute hty]
  · simp [(length_pos_iff_ne_empty old).2 ho, ho, mem_applyFib_addRoute hty,
      mem_applyFib_deleteRoute hty]

/-- **Insertion.** The announce's insert branch keeps the invariant; it stays complete when the
inserted task is fresh. -/
theorem RouteInv.addNewTask {b' : Bool} {t : Task} {node : Node}
    (hnode : s.nodeList.getNode t.nodeName = some node) (hb : b' = true → b = true)
    (hfresh : b' = true → (∀ w ∈ s.taskList.tasks, w.name ≠ t.name → t.ip ≠ "" → w.ip ≠ t.ip) ∧
      (t.controller ≠ sm.myName → t.ip ≠ "" → taskIp s t.name ≠ t.ip))
    (h : sm.RouteInv b s fib) :
    sm.RouteInv b' { s with taskList := s.taskList.addNewTask t }
      (applyCalls (.addRoute sm.networkAgentType sm.networkAgentConnection t.ip node.externalIp ::
        if (taskIp s t.name).length > 0 then
          [.deleteRoute sm.networkAgentType sm.networkAgentConnection (taskIp s t.name)]
        else []) fib) := by
  have hmem := fun a => mem_applyCalls_announce hty a t.ip node.externalIp (taskIp s t.name) fib
  have hold : ∀ {w}, s.taskList.getTask t.name = some w → taskIp s t.name = w.ip := fun hw => by
    simp [taskIp, hw]
  -- a record of another name keeps its route: the deleted ip is the old record's
  have keep : ∀ {n u}, s.taskList.getTask n = some u → t.name ≠ n → u.ip ≠ "" → b = true →
      taskIp s t.name = "" ∨ u.ip ≠ taskIp s t.name := fun {n u} hu hn hne hb' => by
    cases hw : s.taskList.getTask t.name with
    | none => simp [taskIp, hw]
    | some w =>
      exact .inr fun hip =>
        hn (h.ip_inj hb' _ _ _ _ hw hu (hold hw ▸ hip).symm (hold hw ▸ hip ▸ hne))
  -- on a fresh insert, a record of another name carries another ip
  have other : ∀ {m y}, s.taskList.getTask m = some y → t.name ≠ m → t.ip ≠ "" → b' = true →
      y.ip ≠ t.ip := fun {m y} hy hm hne hb' =>
    (hfresh hb').1 y ((TaskList.getTask_eq_some_iff _).1 hy).1
      (((TaskList.getTask_eq_some_iff _).1 hy).2 ▸ Ne.symm hm) hne
  refine ⟨fun a ha => ?_, fun he => ?_, fun hb' n u hu hc hr => ?_,
    fun hb' n m x y hx hy hip hne => ?_⟩
  · obtain ⟨hadd | ⟨-, -, rfl⟩, hdel⟩ := (hmem a).1 ha
    · obtain ⟨n, w, hw, rfl⟩ := h.sound a hadd
      by_cases hn : t.name = n
      · subst hn
        rw [hold hw] at hdel
        exact absurd (hdel.resolve_right (· rfl) ▸ hadd) h.empty_not_mem
      · exact ⟨n, w, by simp [hn, hw], rfl⟩
    · exact ⟨t.name, t, by simp, rfl⟩
  · obtain ⟨he | ⟨-, hs, he⟩, -⟩ := (hmem "").1 he
    · exact h.empty_not_mem he
    · simp [← he] at hs
  · simp only [TaskList.getTask_addNewTask] at hu
    have hr' : sm.routable s u = true := hr
    have hne : u.ip ≠ "" := by simp [routable] at hr; exact hr.1.2
    split_ifs at hu with hn
    · cases hu
      simp only [routable, hnode, Option.map_some', Option.any_some, Bool.and_eq_true,
        decide_eq_true_eq, Bool.not_eq_true'] at hr'
      exact (hmem _).2 ⟨.inr ⟨hr'.1.1, hr'.2, rfl⟩, .inr fun e => (hfresh hb').2 hc hne e.symm⟩
    · exact (hmem _).2 ⟨.inl (h.complete (hb hb') n u hu hc hr'), keep hu hn hne (hb hb')⟩
  · simp only [TaskList.getTask_addNewTask] at hx hy
    split_ifs at hx hy with hn hm hm
    · exact hn.symm.trans hm
    · cases hx
      exact absurd hip.symm (other hy hm hne hb')
    · cases hy
      exact absurd hip (other hx hn (hip ▸ hne) hb')
    · exact h.ip_inj (hb hb') n m x y hx hy hip hne

/-- **Announce.** An announce run alone keeps the invariant, and keeps it complete when it meets
`FreshAnnounce`. -/
theorem RouteInv.sendAnnounceTask {t : Task} {σ σ' : Clock} {cs : List Call}
    (hrun : sm.sendAnnounceTask t σ s = some ((), σ', s', cs)) (h : sm.RouteInv b s fib) :
    sm.RouteInv (b && decide (sm.FreshAnnounce s t)) s' (applyCalls cs fib) := by
  rw [sendAnnounceTask_apply] at hrun
  split at hrun
  · cases hrun
    have hf : decide (sm.FreshAnnounce s t) = true := decide_eq_true fun h0 => by omega
    rw [hf, Bool.and_true]
    exact h.modifyTask _ fun _ => rfl
  · obtain ⟨node, hnode, hrun⟩ := Option.map_eq_some'.1 hrun
    cases hrun
    refine h.addNewTask hty hnode (fun hb => (Bool.and_eq_true_iff.1 hb).1) fun hb => ?_
    exact of_decide_eq_true (Bool.and_eq_true_iff.1 hb).2 (by omega)

end Known

/-- An announce changes no record but the one it names. -/
theorem sendAnnounceTask_getTask {t : Task} {σ σ' : Clock} {cs : List Call} {n : String}
    (hrun : sm.sendAnnounceTask t σ s = some ((), σ', s', cs)) (hn : t.name ≠ n) :
    s'.taskList.getTask n = s.taskList.getTask n := by
  rw [sendAnnounceTask_apply] at hrun
  split at hrun
  · cases hrun
    simp [hn]
  · obtain ⟨node, -, hrun⟩ := Option.map_eq_some'.1 hrun
    cases hrun
    simp [hn]

end StateManager

end TorcScheduler
