import TorcScheduler.State.Replies
import TorcScheduler.State.Session

/-!
# One client thread interleaved with every other client

The actor serves one request at a time, from whichever client sent it.  A client thread, seen
from the actor, is a program counter `pc` and an `action` per counter value: a piece of its code
with at most one request to the actor, run as a `Session`, that gives the next counter value.
Between two actions of the thread any other client may have any request served (`Step.other`),
at any clock; a panicking request stops the system.

`Sys` adds two ghost fields to the actor's state and the counter: the task and node names other
clients' requests have written since the thread's last snapshot request (the actions at the
counter values `snapshot` marks).  A snapshot record whose name no other client wrote since is
still the actor's record (`Sys.keptTask_other`).

`RunsAlone` is the thread's actions run with no other client in between.  When the code still to
run from each counter value is its action followed by the code from the next value, and a rank
falls at each action, those runs are exactly the runs of the code (`cont_eq_some_iff_runsAlone`):
the program counter slices the tick without adding or losing a behaviour.

A thread whose actions change the actor's state only by requests the actor served (`Served`)
leaves every run of the system a sequence of served requests (`served_of_steps`), so whatever each
request keeps holds along the whole run (`Served.stable`).
-/

namespace TorcScheduler

/-- The actor's state, a client thread's program counter, and the names other clients wrote
since the thread's last snapshot. -/
structure Sys (Pc : Type) where
  state : State
  pc : Pc
  dirtyTasks : String → Bool
  dirtyNodes : String → Bool

variable {Pc : Type} (action : Pc → Session Pc) (snapshot : Pc → Bool)

/-- One step of the system: the thread runs its next action at any clock, or another client has
any request served at any clock. -/
inductive Step : Sys Pc → Sys Pc → Prop
  | own {S : Sys Pc} (σ σ' : Clock) (pc' : Pc) (s' : State) (cs : List Call) :
      action S.pc σ S.state = some (pc', σ', s', cs) →
      Step S ⟨s', pc', if snapshot S.pc then fun _ => false else S.dirtyTasks,
        if snapshot S.pc then fun _ => false else S.dirtyNodes⟩
  | other {S : Sys Pc} (msg : StateRequestMsg) (now : BitVec 64) (o : Outcome) :
      serve now S.state msg = some o →
      Step S ⟨o.state, S.pc, fun n => S.dirtyTasks n || msg.writesTask n,
        fun n => S.dirtyNodes n || msg.writesNode n⟩

/-- The systems reached from any actor state with the thread at `start`. -/
inductive Reachable (start : Pc) : Sys Pc → Prop
  | init (s : State) : Reachable start ⟨s, start, fun _ => false, fun _ => false⟩
  | step {S S' : Sys Pc} : Reachable start S → Step action snapshot S S' → Reachable start S'

/-- The thread's actions run one after another with no other client in between, from a counter
value until `stop`: the clock, the actor's state and the calls at the end. -/
inductive RunsAlone (stop : Pc) : Pc → Clock → State → Clock → State → List Call → Prop
  | stop (σ : Clock) (s : State) : RunsAlone stop stop σ s σ s []
  | step {pc pc₁ : Pc} {σ σ₁ σ' : Clock} {s s₁ s' : State} {cs₁ cs : List Call} :
      pc ≠ stop → action pc σ s = some (pc₁, σ₁, s₁, cs₁) →
      RunsAlone stop pc₁ σ₁ s₁ σ' s' cs → RunsAlone stop pc σ s σ' s' (cs₁ ++ cs)

section Alone

variable {action} {stop : Pc} {cont : Pc → Session Unit}
  (hstop : cont stop = pure ()) (hstep : ∀ pc, pc ≠ stop → cont pc = action pc >>= cont)

include hstop hstep in
/-- A run of the actions to `stop` is a run of the code still to run. -/
theorem cont_of_runsAlone {pc : Pc} {σ σ' : Clock} {s s' : State} {cs : List Call}
    (h : RunsAlone action stop pc σ s σ' s' cs) : cont pc σ s = some ((), σ', s', cs) := by
  induction h with
  | stop σ s => rw [hstop]; rfl
  | step hpc ha _ ih =>
    rw [hstep _ hpc]
    exact Session.bind_eq_some.2 ⟨_, _, _, _, _, ha, ih, rfl⟩

include hstop hstep in
/-- **Run alone, the actions are the code.** When every action but the one at `stop` moves the
counter down a lexicographic rank, the code from a counter value ends exactly when the actions
run from there reach `stop`, with the same clock, state and calls. -/
theorem cont_eq_some_iff_runsAlone (rank : Pc → Nat × Nat)
    (hrank : ∀ {pc pc₁ σ σ₁ s s₁ cs}, pc ≠ stop → action pc σ s = some (pc₁, σ₁, s₁, cs) →
      Prod.Lex (· < ·) (· < ·) (rank pc₁) (rank pc))
    (pc : Pc) (σ σ' : Clock) (s s' : State) (cs : List Call) :
    cont pc σ s = some ((), σ', s', cs) ↔ RunsAlone action stop pc σ s σ' s' cs := by
  refine ⟨fun h => ?_, cont_of_runsAlone hstop hstep⟩
  have hwf : WellFounded (InvImage (Prod.Lex (· < ·) (· < ·)) rank) :=
    InvImage.wf rank (Prod.lex Nat.lt_wfRel Nat.lt_wfRel).wf
  induction pc using hwf.induction generalizing σ s cs with
  | _ pc ih =>
    by_cases hpc : pc = stop
    · subst hpc
      rw [hstop] at h
      cases h
      exact .stop _ _
    · rw [hstep pc hpc] at h
      obtain ⟨pc₁, σ₁, s₁, c₁, c₂, ha, hc, rfl⟩ := Session.bind_eq_some.1 h
      exact .step hpc ha (ih pc₁ (hrank hpc ha) _ _ _ hc)

end Alone

namespace Sys

variable {S : Sys Pc}

/-- A snapshot task record the actor still holds, unless another client wrote its name. -/
def KeptTask (S : Sys Pc) (t : Task) : Prop :=
  S.dirtyTasks t.name = false → S.state.taskList.getTask t.name = some t

/-- A snapshot node record the actor still holds, unless another client wrote its name. -/
def KeptNode (S : Sys Pc) (x : Node) : Prop :=
  S.dirtyNodes x.name = false → S.state.nodeList.getNode x.name = some x

/-- A kept task record stays kept through a step that leaves its record and the dirty names. -/
theorem keptTask_frame {S' : Sys Pc} {t : Task} (h : S.KeptTask t)
    (hd : S'.dirtyTasks = S.dirtyTasks)
    (hf : S'.state.taskList.getTask t.name = S.state.taskList.getTask t.name) : S'.KeptTask t :=
  fun hd' => hf.trans (h (hd ▸ hd'))

/-- A kept node record stays kept through a step that leaves its record and the dirty names. -/
theorem keptNode_frame {S' : Sys Pc} {x : Node} (h : S.KeptNode x)
    (hd : S'.dirtyNodes = S.dirtyNodes)
    (hf : S'.state.nodeList.getNode x.name = S.state.nodeList.getNode x.name) : S'.KeptNode x :=
  fun hd' => hf.trans (h (hd ▸ hd'))

/-- Another client's request keeps every kept task record kept. -/
theorem keptTask_other {msg : StateRequestMsg} {now : BitVec 64} {o : Outcome} {t : Task}
    (h : serve now S.state msg = some o) (ht : S.KeptTask t) :
    KeptTask (⟨o.state, S.pc, fun n => S.dirtyTasks n || msg.writesTask n,
      fun n => S.dirtyNodes n || msg.writesNode n⟩ : Sys Pc) t := by
  intro hd
  simp only [Bool.or_eq_false_iff] at hd
  exact (serve_getTask_frame h hd.2).trans (ht hd.1)

/-- Another client's request keeps every kept node record kept. -/
theorem keptNode_other {msg : StateRequestMsg} {now : BitVec 64} {o : Outcome} {x : Node}
    (h : serve now S.state msg = some o) (hx : S.KeptNode x) :
    KeptNode (⟨o.state, S.pc, fun n => S.dirtyTasks n || msg.writesTask n,
      fun n => S.dirtyNodes n || msg.writesNode n⟩ : Sys Pc) x := by
  intro hd
  simp only [Bool.or_eq_false_iff] at hd
  exact (serve_getNode_frame h hd.2).trans (hx hd.1)

end Sys

/-! ### Only the actor writes the tables -/

/-- The actor's states along a sequence of requests it served, from any clients at any clocks. -/
def Served : State → State → Prop :=
  Relation.ReflTransGen fun s s' => ∃ now msg o, serve now s msg = some o ∧ o.state = s'

/-- What every served request keeps holds along every sequence of them. -/
theorem Served.stable {P : State → Prop}
    (hP : ∀ {now s msg o}, serve now s msg = some o → P s → P o.state) {s s' : State}
    (h : Served s s') (hs : P s) : P s' := by
  induction h with
  | refl => exact hs
  | tail _ hstep ih =>
    obtain ⟨now, msg, o, ho, rfl⟩ := hstep
    exact hP ho ih

variable {action snapshot} in
/-- **Ownership.** When each action of the thread changes the actor's state only by requests the
actor served, every run of the system, with any other clients in between, does too. -/
theorem served_of_steps
    (hact : ∀ {pc pc' σ σ' s s' cs}, action pc σ s = some (pc', σ', s', cs) → Served s s')
    {S S' : Sys Pc} (h : Relation.ReflTransGen (Step action snapshot) S S') :
    Served S.state S'.state := by
  induction h with
  | refl => exact .refl
  | tail _ hstep ih =>
    cases hstep with
    | own _ _ _ _ _ ha => exact ih.trans (hact ha)
    | other msg now o ho => exact ih.tail ⟨now, msg, o, ho, rfl⟩

end TorcScheduler
