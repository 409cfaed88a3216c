import Mathlib.Data.List.Nodup

/-!
# Records of the state manager

The two populations the state actor owns: `Task` (a container instance with its placement, runtime
and lifecycle fields) and `Node` (a physical host).  Only the fields that some modelled function of
`state.rs` reads or writes are kept; the others (image, resources, volumes, SLA, ...) are listed in
`MODEL_MAP.json`.

Timestamps are the code's `i64` UTC epoch seconds, here `BitVec 64`: the clean loop adds a timeout
to them with wrap-around and compares the sum signed (`BitVec.slt`), as a build without overflow
checks does.  Whether that sum can overflow is the subject of `State.Expiry`.

Strings compare with `startsWith`, the character-wise prefix test behind Rust's `str::starts_with`
(on valid UTF-8 the byte-wise and the character-wise prefix relations agree).
-/

namespace TorcScheduler

/-- `TaskState`: where a task is in its lifecycle. -/
inductive TaskState
  | notRunning
  | restart
  | requested
  | accepted
  | running
  deriving DecidableEq, Repr

/-- A task record as `TaskList` stores it. -/
structure Task where
  name : String
  controller : String
  id : String
  nodeName : String
  isMetered : Bool
  isSystemService : Bool
  isJob : Bool
  ip : String
  slaveId : String
  state : TaskState
  lastUpdate : BitVec 64
  deriving DecidableEq, Repr

/-- A node record as `NodeList` stores it. -/
structure Node where
  name : String
  externalIp : String
  nodeType : String
  nodeFunction : String
  active : Bool
  slaveId : String
  lastSeen : BitVec 64
  deriving DecidableEq, Repr

/-- `s.starts_with(pre)`: `pre` is a prefix of `s`, character by character. -/
def startsWith (s pre : String) : Bool :=
  pre.data.isPrefixOf s.data

@[simp] theorem startsWith_empty (s : String) : startsWith s "" = true := by
  simp [startsWith]

@[simp] theorem startsWith_self (s : String) : startsWith s s = true := by
  simp [startsWith]

/-- Rust's `len() > 0` test: a string has positive length exactly when it is not empty. -/
theorem length_pos_iff_ne_empty (s : String) : 0 < s.length ↔ s ≠ "" := by
  rcases s with ⟨_ | ⟨c, d⟩⟩
  · simp [String.length]
  · simp only [String.length, List.length_cons, Nat.succ_pos, ne_eq, true_iff]
    intro h
    simpa using congrArg String.data h

/-- The clean loop's deadline test `(stamp + delay) < now` on `i64`. -/
def expired (stamp delay now : BitVec 64) : Bool :=
  (stamp + delay).slt now

end TorcScheduler
