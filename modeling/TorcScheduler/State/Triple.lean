import TorcScheduler.State.Session

/-!
# A program logic for sessions

`Triple P x Q`: every run of the session `x` that completes, from a world satisfying `P`, ends in
a world satisfying `Q` of its result.  A world is the actor's state together with the routing
agent's forwarding table, which the run's calls reach in order.  A triple holds for every clock,
so for every timing of the session's reads of `UTC::now()`; it says nothing of a run that aborts.

The rules follow the shape of the code: `query` for a request that only reads, `bind` for
sequencing, `forM` for a loop over a snapshot, with the loop invariant indexed by the elements not
yet visited; a loop body is read off its closed form.

`Ends P x Q` is the total counterpart: from a state satisfying `P`, at every clock, `x` ends (the
actor does not abort), in a state satisfying `Q`.  It has the same rules for `bind`, `forM` and a
read-only request; `Ends.isSome` and `Ends.post` read it back on one run.
-/

namespace TorcScheduler

open Session

variable {α β : Type}

/-- Partial correctness of a session, over every clock. -/
def Triple (P : State → Fib → Prop) (x : Session α) (Q : α → State → Fib → Prop) : Prop :=
  ∀ σ s fib a σ' s' cs, P s fib → x σ s = some (a, σ', s', cs) → Q a s' (applyCalls cs fib)

namespace Triple

variable {P P' : State → Fib → Prop} {Q Q' : α → State → Fib → Prop}
  {R : β → State → Fib → Prop} {x : Session α}

theorem consequence (h : Triple P x Q) (hp : ∀ s fib, P' s fib → P s fib)
    (hq : ∀ a s fib, Q a s fib → Q' a s fib) : Triple P' x Q' :=
  fun σ s fib a σ' s' cs hP hx => hq _ _ _ (h σ s fib a σ' s' cs (hp _ _ hP) hx)

theorem pure (a : α) (h : ∀ s fib, P s fib → Q a s fib) : Triple P (Pure.pure a) Q := by
  rintro σ s fib b σ' s' cs hP ⟨⟩
  exact h s fib hP

theorem bind {f : α → Session β} (hx : Triple P x Q) (hf : ∀ a, Triple (Q a) (f a) R) :
    Triple P (x >>= f) R := by
  intro σ s fib b σ' s' cs hP h
  simp only [bind_apply, Option.bind_eq_some, Option.map_eq_some'] at h
  obtain ⟨⟨a, σ₁, s₁, c₁⟩, h₁, ⟨b, σ₂, s₂, c₂⟩, h₂, ⟨⟩⟩ := h
  rw [applyCalls_append]
  exact hf a _ _ _ _ _ _ _ (hx _ _ _ _ _ _ _ hP h₁) h₂

/-- A loop over `l`: the invariant `I` of the elements left holds after each body. -/
theorem forM (I : List α → State → Fib → Prop) {body : α → Session Unit}
    (hbody : ∀ a l, Triple (I (a :: l)) (body a) fun _ => I l) (l : List α) :
    Triple (I l) (l.forM body) fun _ => I [] := by
  induction l with
  | nil => exact pure () fun _ _ h => h
  | cons a l ih => exact bind (hbody a l) fun _ => ih

/-- A request that answers from the state and changes nothing. -/
theorem query (f : State → α) (hx : ∀ σ s, ∃ σ', x σ s = some (f s, σ', s, []))
    (hP : ∀ s fib, P s fib → Q (f s) s fib) : Triple P x Q := by
  intro σ s fib a σ' s' cs hp h
  obtain ⟨σ'', h'⟩ := hx σ s
  rw [h'] at h
  cases h
  exact hP s fib hp

end Triple

/-- Total correctness of a session, over every clock: from every state satisfying `P` it ends, in
a state satisfying `Q` of its result. -/
def Ends (P : State → Prop) (x : Session α) (Q : α → State → Prop) : Prop :=
  ∀ σ s, P s → ∃ a σ' s' cs, x σ s = some (a, σ', s', cs) ∧ Q a s'

namespace Ends

variable {P P' : State → Prop} {Q Q' : α → State → Prop} {R : β → State → Prop} {x : Session α}

theorem consequence (h : Ends P x Q) (hp : ∀ s, P' s → P s) (hq : ∀ a s, Q a s → Q' a s) :
    Ends P' x Q' := fun σ s hs =>
  let ⟨a, σ', s', cs, hx, hQ⟩ := h σ s (hp s hs)
  ⟨a, σ', s', cs, hx, hq a s' hQ⟩

theorem bind {f : α → Session β} (hx : Ends P x Q) (hf : ∀ a, Ends (Q a) (f a) R) :
    Ends P (x >>= f) R := by
  intro σ s hs
  obtain ⟨a, σ₁, s₁, c₁, h₁, hQ⟩ := hx σ s hs
  obtain ⟨b, σ₂, s₂, c₂, h₂, hR⟩ := hf a σ₁ s₁ hQ
  exact ⟨b, σ₂, s₂, c₁ ++ c₂, bind_eq_some.2 ⟨a, σ₁, s₁, c₁, c₂, h₁, h₂, rfl⟩, hR⟩

/-- A loop over `l` ends when each body ends from the invariant of the elements left. -/
theorem forM (I : List α → State → Prop) {body : α → Session Unit}
    (hbody : ∀ a l, Ends (I (a :: l)) (body a) fun _ => I l) (l : List α) :
    Ends (I l) (l.forM body) fun _ => I [] := by
  induction l with
  | nil => exact fun σ s hs => ⟨(), σ, s, [], rfl, hs⟩
  | cons a l ih => exact bind (hbody a l) fun _ => ih

/-- A request that answers from the state and changes nothing ends. -/
theorem query (f : State → α) (hx : ∀ σ s, ∃ σ', x σ s = some (f s, σ', s, []))
    (hP : ∀ s, P s → Q (f s) s) : Ends P x Q := fun σ s hs =>
  let ⟨σ', h⟩ := hx σ s
  ⟨f s, σ', s, [], h, hP s hs⟩

/-- A total judgment says that the session ends from every state satisfying `P`. -/
theorem isSome (h : Ends P x Q) {s : State} (hs : P s) (σ : Clock) : (x σ s).isSome := by
  obtain ⟨a, σ', s', cs, hx, -⟩ := h σ s hs
  simp [hx]

/-- And what every run of it that ends from `P` satisfies. -/
theorem post (h : Ends P x Q) {σ σ' : Clock} {s s' : State} {a : α} {cs : List Call} (hs : P s)
    (hx : x σ s = some (a, σ', s', cs)) : Q a s' := by
  obtain ⟨_, _, _, _, hx', hq⟩ := h σ s hs
  rw [hx] at hx'
  cases hx'
  exact hq

end Ends

end TorcScheduler
