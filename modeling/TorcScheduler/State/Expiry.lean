import Mathlib.Algebra.Group.Int
import TorcScheduler.State.Loops

/-!
# Expiry arithmetic on `i64`

The clean loop tests `last_update + timeout < now`, `last_update + restart_delay < now` and
`last_seen + timeout < now` on `i64`, through `expired`, whose sum wraps as in a release build (a
debug build panics on the same inputs).  A peer's `last_update` reaches the table verbatim, so the
stamp ranges over all of `i64`.  For a delay `≥ 0`:

* `toInt_add_of_nonneg` — the sum is exact below `2^63` and wraps by `2^64` at and above it;
* `expired_eq_ite_overflow` — so each test is the unbounded comparison while
  `stamp ≤ i64::MAX - delay`, and the wrapped comparison past it;
* `cleanTick_removes_unexpired` — the deadline test misses its purpose past that bound: a foreign
  `Running` record whose deadline lies beyond `i64::MAX` is removed by the next clean tick at any
  clock from `-1` on, though its deadline has not passed.
-/

namespace TorcScheduler

/-- The signed value of an `i64` lies in `[-2^63, 2^63)`. -/
theorem toInt_bounds (x : BitVec 64) : -2^63 ≤ x.toInt ∧ x.toInt < 2^63 := by
  have := x.isLt
  rw [BitVec.toInt_eq_toNat_cond]
  split <;> omega

/-- An `i64` sum with a non-negative right operand: exact below `2^63`, wrapped by `2^64` above. -/
theorem toInt_add_of_nonneg (stamp delay : BitVec 64) (hd : 0 ≤ delay.toInt) :
    (stamp + delay).toInt =
      if stamp.toInt + delay.toInt < 2^63 then stamp.toInt + delay.toInt
      else stamp.toInt + delay.toInt - 2^64 := by
  obtain ⟨h1, h2⟩ := toInt_bounds stamp
  obtain ⟨h3, h4⟩ := toInt_bounds delay
  rw [BitVec.toInt_add, Int.bmod_def]
  split <;> split <;> omega

/-- **Expiry on `i64`.** With a delay `≥ 0`, `stamp + delay` is exact iff the unbounded sum is at
most `i64::MAX`; the expiry test is then the unbounded comparison, and past that bound it compares
the sum less `2^64`. -/
theorem expired_eq_ite_overflow (stamp delay now : BitVec 64) (hd : 0 ≤ delay.toInt) :
    ((stamp + delay).toInt = stamp.toInt + delay.toInt ↔ stamp.toInt + delay.toInt < 2^63) ∧
      expired stamp delay now =
        if stamp.toInt + delay.toInt < 2^63 then decide (stamp.toInt + delay.toInt < now.toInt)
        else decide (stamp.toInt + delay.toInt - 2^64 < now.toInt) := by
  have hsum := toInt_add_of_nonneg stamp delay hd
  refine ⟨by split at hsum <;> omega, ?_⟩
  simp only [expired, BitVec.slt, hsum]
  split <;> rfl

/-- **An unexpired record is removed.** Take a foreign `Running` record whose `last_update +
timeout` exceeds `i64::MAX`, with a timeout `≥ 0`. A clean tick at any `now` above the wrapped sum
(every `now ≥ -1`) removes it, though its deadline `last_update + timeout` has not passed. -/
theorem cleanTick_removes_unexpired (sm : StateManager) (timeout restartDelay now : BitVec 64)
    (s : State) (n : String) (t : Task) (ht : s.taskList.getTask n = some t)
    (hrun : t.state = .running) (hforeign : t.controller ≠ sm.myName) (hd : 0 ≤ timeout.toInt)
    (hover : 2^63 ≤ t.lastUpdate.toInt + timeout.toInt)
    (hnow : t.lastUpdate.toInt + timeout.toInt - 2^64 < now.toInt) :
    ¬ t.lastUpdate.toInt + timeout.toInt < now.toInt ∧
      ∃ s' cs, sm.cleanTick timeout restartDelay (Clock.const now) s =
        some ((), Clock.const now, s', cs) ∧ s'.taskList.getTask n = none := by
  have hexp : expired t.lastUpdate timeout now = true := by
    rw [(expired_eq_ite_overflow t.lastUpdate timeout now hd).2, if_neg (by omega)]
    exact decide_eq_true hnow
  refine ⟨by have := (toInt_bounds now).2; omega, _, _, StateManager.cleanTick_apply .., ?_⟩
  rw [(StateManager.cleanTick_lookup (StateManager.cleanTick_apply ..)).1 n, ht]
  simp [StateManager.cleanTask, StateManager.IsExpiredForeign, hrun, hforeign, hexp]

/-- A peer's `Running` task announced with `last_update = i64::MAX`: the announce inserts it
verbatim, and a clean tick at `now = 1000` with a 30 s timeout removes it at once. -/
theorem cleanTick_removes_unexpired_max :
    let sm : StateManager := ⟨"10.0.0.1", "C1", "fboss", "10.0.0.1"⟩
    let n1 : Node := ⟨"n1", "10.0.0.11", "slave", "none", false, "", 0⟩
    let api : Task := ⟨"api", "C2", "z-1", "n1", false, false, false, "192.168.0.7", "", .running,
      BitVec.ofInt 64 (2^63 - 1)⟩
    let s₀ : State := ⟨"10.0.0.1", "C1", TaskList.new, NodeList.new.addNewNode n1⟩
    let s : State := { s₀ with taskList := s₀.taskList.addNewTask api }
    sm.sendAnnounceTask api (Clock.const 0) s₀ = some ((), Clock.const 0, s,
        [.addRoute "fboss" "10.0.0.1" "192.168.0.7" "10.0.0.11"]) ∧
      (s.taskList.getTask "api" = some api ∧ api.state = .running ∧ api.controller ≠ sm.myName ∧
        0 ≤ (30 : BitVec 64).toInt ∧ 2^63 ≤ api.lastUpdate.toInt + (30 : BitVec 64).toInt ∧
        api.lastUpdate.toInt + (30 : BitVec 64).toInt - 2^64 < (1000 : BitVec 64).toInt) ∧
      (¬ api.lastUpdate.toInt + (30 : BitVec 64).toInt < (1000 : BitVec 64).toInt ∧
        ∃ s' cs, sm.cleanTick 30 60 (Clock.const 1000) s =
          some ((), Clock.const 1000, s', cs) ∧ s'.taskList.getTask "api" = none) := by
  intro sm n1 api s₀ s
  have ht : s.taskList.getTask "api" = some api := by decide
  have hd : 0 ≤ (30 : BitVec 64).toInt := by decide
  have hover : 2^63 ≤ api.lastUpdate.toInt + (30 : BitVec 64).toInt := by decide
  have hnow : api.lastUpdate.toInt + (30 : BitVec 64).toInt - 2^64 < (1000 : BitVec 64).toInt := by
    decide
  exact ⟨rfl, ⟨ht, rfl, by decide, hd, hover, hnow⟩,
    cleanTick_removes_unexpired sm 30 60 1000 s "api" api ht rfl (by decide) hd hover hnow⟩

end TorcScheduler
