import TorcScheduler.State.Loops

/-!
# How the background ticks compose

Each tick, run alone at a clock fixed at `now`, acts on each record by itself: a clean tick maps
a task record through `cleanTask` and a node through `cleanNode`, and a sync tick, in a table where
no record has the empty name, maps a task record through `syncRecord`.  From these per-record
forms:

* `cleanTick_cleanTick` — a clean tick after another at an earlier or equal clock leaves every
  record as the later tick alone does (the tests only become true as the clock advances);
* `syncTick_spec` — when a sync tick ends, and exactly what it changes: the `last_update` of the
  owned `Running` records that have an id, and nothing else, not even the node table;
* `syncTick_cleanTick_comm` — the two background threads do not interfere: a sync tick then a
  clean tick leave the same tables as the clean tick then the sync tick.
-/

namespace TorcScheduler

open Session

namespace StateManager

variable {sm : StateManager} {timeout restartDelay : BitVec 64}

/-- A deadline passed stays passed as the clock advances (in `i64` order). -/
theorem expired_mono {stamp delay now₁ now₂ : BitVec 64} (hle : now₁.sle now₂ = true)
    (h : expired stamp delay now₁ = true) : expired stamp delay now₂ = true := by
  simp only [expired, BitVec.slt, BitVec.sle, decide_eq_true_eq] at h hle ⊢
  omega

/-- Cleaning a record at `now₁`, then at a later `now₂`, is cleaning it at `now₂`. -/
theorem cleanTask_bind_cleanTask {now₁ now₂ : BitVec 64} (hle : now₁.sle now₂ = true) (r : Task) :
    (sm.cleanTask timeout restartDelay now₁ r).bind (sm.cleanTask timeout restartDelay now₂) =
      sm.cleanTask timeout restartDelay now₂ r := by
  have m : ∀ stamp delay, expired stamp delay now₁ = true → expired stamp delay now₂ = true :=
    fun _ _ => expired_mono hle
  unfold cleanTask IsExpiredForeign IsDueRestart
  split_ifs <;> simp_all

/-- The same for a node. -/
theorem cleanNode_cleanNode {now₁ now₂ : BitVec 64} (hle : now₁.sle now₂ = true) (x : Node) :
    cleanNode timeout now₂ (cleanNode timeout now₁ x) = cleanNode timeout now₂ x := by
  have m : ∀ stamp delay, expired stamp delay now₁ = true → expired stamp delay now₂ = true :=
    fun _ _ => expired_mono hle
  unfold cleanNode IsStaleNode
  split_ifs <;> simp_all

/-- **Clean ticks compose over time.** A clean tick at `now₁` followed by one at `now₂`, with
`now₁ ≤ now₂` in `i64` order, leaves every task record and every node record as the tick at `now₂`
alone does; in particular a second tick at the same clock changes nothing. -/
theorem cleanTick_cleanTick {now₁ now₂ : BitVec 64} (hle : now₁.sle now₂ = true)
    {s s₁ s₂ s₃ : State} {σ₁ σ₂ σ₃ : Clock} {c₁ c₂ c₃ : List Call}
    (h₁ : sm.cleanTick timeout restartDelay (Clock.const now₁) s = some ((), σ₁, s₁, c₁))
    (h₂ : sm.cleanTick timeout restartDelay (Clock.const now₂) s₁ = some ((), σ₂, s₂, c₂))
    (h₃ : sm.cleanTick timeout restartDelay (Clock.const now₂) s = some ((), σ₃, s₃, c₃)) :
    (∀ n, s₂.taskList.getTask n = s₃.taskList.getTask n) ∧
      ∀ n, s₂.nodeList.getNode n = s₃.nodeList.getNode n := by
  obtain ⟨t₁, n₁⟩ := cleanTick_lookup h₁
  obtain ⟨t₂, n₂⟩ := cleanTick_lookup h₂
  obtain ⟨t₃, n₃⟩ := cleanTick_lookup h₃
  refine ⟨fun n => ?_, fun n => ?_⟩
  · rw [t₂, t₁, t₃, Option.bind_assoc]
    simp only [cleanTask_bind_cleanTask hle]
  · rw [n₂, n₁, n₃, Option.map_map]
    simp only [Function.comp_def, cleanNode_cleanNode hle]


/-- What a sync tick leaves of a record, in a table where no record has the empty name: an owned
`Running` record with an id is stamped with the clock; every other record is left as it was. -/
def syncRecord (sm : StateManager) (now : BitVec 64) (t : Task) : Task :=
  if t.state = .running ∧ t.controller = sm.myName ∧ t.id ≠ "" then { t with lastUpdate := now }
  else t

/-- The records the sync loop stamps: the owned ones with an id. -/
def Stamped (sm : StateManager) (t : Task) : Bool :=
  t.controller = sm.myName && t.id ≠ ""

/-- The sync loop over records the table holds, with distinct names, in a table where no record has
the empty name, at a clock fixed at `now`: the node table is untouched, and the records stamped
with `now` are exactly those the list names that are owned and have an id. -/
theorem forM_syncTask_lookup {now : BitVec 64} {l : List Task} {s s' : State} {σ' : Clock}
    {cs : List Call} (hcur : ∀ t ∈ l, s.taskList.getTask t.name = some t)
    (hnd : (l.map Task.name).Nodup) (hnamed : s.taskList.getTask "" = none)
    (h : l.forM sm.syncTask (Clock.const now) s = some ((), σ', s', cs)) :
    s'.nodeList = s.nodeList ∧ ∀ n, s'.taskList.getTask n =
      if (l.filter sm.Stamped).any (·.name = n) then
        (s.taskList.getTask n).map fun t => { t with lastUpdate := now }
      else s.taskList.getTask n := by
  induction l generalizing s cs with
  | nil => cases h; exact ⟨rfl, fun n => by simp⟩
  | cons t l ih =>
    have ht := hcur t (List.mem_cons_self _ _)
    have hname := TaskList.ne_empty_of_getTask hnamed ht
    have hlid :=
      TaskList.getTaskNameById_length_pos_iff ((s.taskList.getTask_eq_some_iff).1 ht).1 hnamed
    have rest : ∀ {s₁ : State} {c₁ : List Call},
        (∀ n, t.name ≠ n → s₁.taskList.getTask n = s.taskList.getTask n) →
        l.forM sm.syncTask (Clock.const now) s₁ = some ((), σ', s', c₁) →
        s'.nodeList = s₁.nodeList ∧ ∀ n, s'.taskList.getTask n =
          if (l.filter sm.Stamped).any (·.name = n) then
            (s₁.taskList.getTask n).map fun t => { t with lastUpdate := now }
          else s₁.taskList.getTask n := by
      intro s₁ c₁ hf h₁
      obtain ⟨hcur', hnd'⟩ :=
        Table.forall_tail_of_nodup hcur hnd fun u hne hu => (hf _ hne).trans hu
      exact ih hcur' hnd' ((hf "" hname).trans hnamed) h₁
    rw [forM_cons] at h
    obtain ⟨_, σ₁, s₁, c₁, c₂, h₁, h₂, -⟩ := Session.bind_eq_some.1 h
    simp only [syncTask, bind_apply, call_apply, Option.some_bind] at h₁
    by_cases ho : t.controller = sm.myName
    · simp only [ho, if_true, sendAnnounceTask_apply] at h₁
      split at h₁
      · -- a heartbeat: `t` has an id and is stamped
        have hid := hlid.1 ‹_›
        simp only [Option.map_some', Option.some.injEq, Prod.mk.injEq] at h₁
        obtain ⟨-, rfl, rfl, -⟩ := h₁
        obtain ⟨hN, hT⟩ := rest (fun n hn => by simp [hn]) h₂
        refine ⟨hN, fun n => ?_⟩
        rw [hT n]
        by_cases htn : t.name = n <;> by_cases hl' : (l.filter sm.Stamped).any (·.name = n) <;>
          simp [Stamped, List.filter_cons, ho, hid, htn, hl', Option.map_map, Function.comp_def]
      · -- the lookup misses: `t` has no id and is inserted again as it is
        have hid : t.id = "" := not_not.1 (mt hlid.2 ‹_›)
        simp at h₁
        obtain ⟨-, -, rfl, rfl, -⟩ := h₁
        obtain ⟨hN, hT⟩ := rest (fun n hn => by simp [hn]) h₂
        refine ⟨hN, fun n => ?_⟩
        rw [hT n]
        by_cases htn : t.name = n
        · subst htn; simp [Stamped, List.filter_cons, ho, hid, ht]
        · simp [Stamped, List.filter_cons, ho, hid, htn]
    · simp only [ho, if_false, pure_apply, Option.map_some', Option.some.injEq, Prod.mk.injEq] at h₁
      obtain ⟨-, rfl, rfl, -⟩ := h₁
      obtain ⟨hN, hT⟩ := rest (fun _ _ => rfl) h₂
      exact ⟨hN, fun n => by rw [hT n]; simp [Stamped, List.filter_cons, ho]⟩

/-- **What a sync tick changes.** Run alone at a clock fixed at `now`, in a table where no record
has the empty name, a sync tick that ends leaves the node table as it was and every task record
as `syncRecord` makes it: an owned `Running` record with an id gets `last_update = now` (its
announce is a heartbeat), and every other record is unchanged (a foreign one is only registered,
an owned one without an id is inserted again as it stands). -/
theorem syncTick_lookup {now : BitVec 64} {s s' : State} {σ' : Clock} {cs : List Call}
    (hnamed : s.taskList.getTask "" = none)
    (h : sm.syncTick (Clock.const now) s = some ((), σ', s', cs)) :
    s'.nodeList = s.nodeList ∧
      ∀ n, s'.taskList.getTask n = (s.taskList.getTask n).map (sm.syncRecord now) := by
  simp only [syncTick, bind_apply, requestListRunningTasks_apply, Option.some_bind,
    Clock.tail_const] at h
  obtain ⟨⟨_, σ₂, s₂, c₂⟩, h₂, heq⟩ := Option.map_eq_some'.1 h
  simp only [Prod.mk.injEq] at heq
  obtain ⟨-, -, rfl, -⟩ := heq
  obtain ⟨hN, hT⟩ := forM_syncTask_lookup
    (fun t ht => ((s.taskList.mem_getTasksWithState _ t).1 ht).1)
    (s.taskList.nodup_getTasksWithState _) hnamed h₂
  refine ⟨hN, fun n => ?_⟩
  rw [hT n, TaskList.any_filter_getTasksWithState]
  cases s.taskList.getTask n with
  | none => rfl
  | some r =>
    by_cases hr : r.state = .running ∧ r.controller = sm.myName ∧ r.id ≠ ""
    · simp [syncRecord, Stamped, hr]
    · simp only [Option.any_some, Option.map_some', syncRecord, if_neg hr, Stamped]
      rw [if_neg]
      simpa [and_assoc] using hr

/-- **The sync tick, run alone.** In a table where no record has the empty name, a sync tick ends,
at any clock, exactly when every owned `Running` task with an empty id has its node in the node
table (otherwise the `GetNode` of that task's announce aborts the actor).  When it ends, at a clock
fixed at `now`, it leaves the node table as it was and every task record as `syncRecord` makes it.
-/
theorem syncTick_spec {now : BitVec 64} {s : State} (hnamed : s.taskList.getTask "" = none) :
    (∀ σ, (sm.syncTick σ s).isSome ↔
      ∀ t ∈ s.taskList.getTasksWithState .running, t.controller = sm.myName → t.id = "" →
        (s.nodeList.getNode t.nodeName).isSome) ∧
    ∀ σ' s' cs, sm.syncTick (Clock.const now) s = some ((), σ', s', cs) →
      s'.nodeList = s.nodeList ∧
        ∀ n, s'.taskList.getTask n = (s.taskList.getTask n).map (sm.syncRecord now) :=
  ⟨syncTick_isSome_iff hnamed, fun _ _ _ h => syncTick_lookup hnamed h⟩

/-- An owned `Running` task with no id yet, on a node the table lacks: the tick panics. -/
theorem syncTick_spec_unplaced :
    let sm : StateManager := ⟨"10.0.0.1", "C1", "fboss", "10.0.0.1"⟩
    let s : State := ⟨"10.0.0.1", "C1",
      TaskList.new.addNewTask ⟨"api", "C1", "", "n1", false, false, false, "", "", .running, 0⟩,
      NodeList.new⟩
    s.taskList.getTask "" = none ∧ (sm.syncTick (Clock.const 0) s).isSome = false ∧
      ((∀ σ, (sm.syncTick σ s).isSome ↔
        ∀ t ∈ s.taskList.getTasksWithState .running, t.controller = sm.myName → t.id = "" →
          (s.nodeList.getNode t.nodeName).isSome) ∧
      ∀ σ' s' cs, sm.syncTick (Clock.const 0) s = some ((), σ', s', cs) →
        s'.nodeList = s.nodeList ∧
          ∀ n, s'.taskList.getTask n = (s.taskList.getTask n).map (sm.syncRecord 0)) := by
  intro sm s
  have h : s.taskList.getTask "" = none := by decide
  exact ⟨h, by decide, syncTick_spec h⟩

/-- Stamping and cleaning a record commute: the clean tick never looks at an owned `Running`
record, the only kind the sync tick stamps. -/
theorem cleanTask_syncRecord {now nowS : BitVec 64} (r : Task) :
    sm.cleanTask timeout restartDelay now (sm.syncRecord nowS r) =
      (sm.cleanTask timeout restartDelay now r).map (sm.syncRecord nowS) := by
  by_cases hr : r.state = .running ∧ r.controller = sm.myName ∧ r.id ≠ ""
  · simp [syncRecord, hr, cleanTask, IsExpiredForeign]
  · unfold cleanTask IsExpiredForeign IsDueRestart
    rw [syncRecord, if_neg hr]
    split_ifs <;> simp [syncRecord, *]

/-- **The background threads do not interfere.** From a table where no record has the empty name,
a sync tick then a clean tick, and the clean tick then the sync tick, each run alone at their
fixed clocks, leave the same task records and the same node records. -/
theorem syncTick_cleanTick_comm {nowS nowC : BitVec 64} {s s₁ s₂ s₃ s₄ : State}
    {σ₁ σ₂ σ₃ σ₄ : Clock} {c₁ c₂ c₃ c₄ : List Call} (hnamed : s.taskList.getTask "" = none)
    (h₁ : sm.syncTick (Clock.const nowS) s = some ((), σ₁, s₁, c₁))
    (h₂ : sm.cleanTick timeout restartDelay (Clock.const nowC) s₁ = some ((), σ₂, s₂, c₂))
    (h₃ : sm.cleanTick timeout restartDelay (Clock.const nowC) s = some ((), σ₃, s₃, c₃))
    (h₄ : sm.syncTick (Clock.const nowS) s₃ = some ((), σ₄, s₄, c₄)) :
    (∀ n, s₂.taskList.getTask n = s₄.taskList.getTask n) ∧
      ∀ n, s₂.nodeList.getNode n = s₄.nodeList.getNode n := by
  obtain ⟨n₁, t₁⟩ := syncTick_lookup hnamed h₁
  obtain ⟨t₂, n₂⟩ := cleanTick_lookup h₂
  obtain ⟨t₃, n₃⟩ := cleanTick_lookup h₃
  obtain ⟨n₄, t₄⟩ := syncTick_lookup (by rw [t₃, hnamed]; rfl) h₄
  refine ⟨fun n => ?_, fun n => ?_⟩
  · rw [t₂, t₁, t₄, t₃]
    cases s.taskList.getTask n with
    | none => rfl
    | some r => exact cleanTask_syncRecord r
  · rw [n₂, n₁, n₄, n₃]

/-- A peer task fresh at clock 10 and stale at 50: cleaning at 10 then 50 is cleaning at 50. -/
theorem cleanTick_cleanTick_later :
    let sm : StateManager := ⟨"10.0.0.1", "C1", "fboss", "10.0.0.1"⟩
    let s : State := ⟨"10.0.0.1", "C1",
      TaskList.new.addNewTask
        ⟨"api", "C2", "z-1", "n1", false, false, false, "192.168.0.7", "", .running, 0⟩,
      NodeList.new⟩
    ∃ (s₁ s₂ s₃ : State) (σ₁ σ₂ σ₃ : Clock) (c₁ c₂ c₃ : List Call),
      (10 : BitVec 64).sle 50 = true ∧
      sm.cleanTick 30 60 (Clock.const 10) s = some ((), σ₁, s₁, c₁) ∧
      sm.cleanTick 30 60 (Clock.const 50) s₁ = some ((), σ₂, s₂, c₂) ∧
      sm.cleanTick 30 60 (Clock.const 50) s = some ((), σ₃, s₃, c₃) ∧
      (∀ n, s₂.taskList.getTask n = s₃.taskList.getTask n) ∧
        ∀ n, s₂.nodeList.getNode n = s₃.nodeList.getNode n := by
  intro sm s
  exact ⟨_, _, _, _, _, _, _, _, _, by decide, cleanTick_apply .., cleanTick_apply ..,
    cleanTick_apply .., cleanTick_cleanTick (by decide) (cleanTick_apply ..) (cleanTick_apply ..)
      (cleanTick_apply ..)⟩

/-- A peer task gone stale and an owned task that is stamped: both orders of the ticks agree. -/
theorem syncTick_cleanTick_comm_replica :
    let sm : StateManager := ⟨"10.0.0.1", "C1", "fboss", "10.0.0.1"⟩
    let s : State := ⟨"10.0.0.1", "C1",
      (TaskList.new.addNewTask
        ⟨"api", "C2", "z-1", "n1", false, false, false, "192.168.0.7", "", .running, 0⟩).addNewTask
          ⟨"web", "C1", "z-2", "n1", false, false, false, "192.168.0.9", "", .running, 0⟩,
      NodeList.new⟩
    ∃ (s₁ s₂ s₃ s₄ : State) (σ₁ σ₂ σ₃ σ₄ : Clock) (c₁ c₂ c₃ c₄ : List Call),
      s.taskList.getTask "" = none ∧
      sm.syncTick (Clock.const 40) s = some ((), σ₁, s₁, c₁) ∧
      sm.cleanTick 30 60 (Clock.const 50) s₁ = some ((), σ₂, s₂, c₂) ∧
      sm.cleanTick 30 60 (Clock.const 50) s = some ((), σ₃, s₃, c₃) ∧
      sm.syncTick (Clock.const 40) s₃ = some ((), σ₄, s₄, c₄) ∧
      (∀ n, s₂.taskList.getTask n = s₄.taskList.getTask n) ∧
        ∀ n, s₂.nodeList.getNode n = s₄.nodeList.getNode n := by
  intro sm s
  have hnamed : s.taskList.getTask "" = none := by decide
  have h₁ : sm.syncTick (Clock.const 40) s = some ((), _, _, _) := rfl
  have h₃ := cleanTick_apply sm 30 60 50 s
  exact ⟨_, _, _, _, _, _, _, _, _, _, _, _, hnamed, h₁, cleanTick_apply .., h₃, rfl,
    syncTick_cleanTick_comm hnamed h₁ (cleanTick_apply ..) h₃ rfl⟩

end StateManager

end TorcScheduler
