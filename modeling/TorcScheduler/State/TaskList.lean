import TorcScheduler.State.Table

/-!
# The task table

`state::task_list`, which defines `TaskList`, is not among the sources: `state.rs` only calls it.
Its operations are modelled from the specification (§4.A, §7): a table keyed by task name in
insertion order, lookups that answer a miss with a default (`""`, `NotRunning`, an empty list),
and writes by name that do nothing to an unknown name.  The uniqueness of names (§3, invariant 1)
is a field of the structure, so no operation can break it.

The setters are one operation, `modifyTask`, applied to each setter's own fields;
`getTask_modifyTask` specifies all of them at once.
-/

namespace TorcScheduler

/-- Modelled from the spec: `TaskList`, the task records in insertion order, names pairwise
distinct. -/
structure TaskList where
  tasks : List Task
  nodup : (tasks.map Task.name).Nodup

namespace TaskList

/-- Modelled from the spec: `TaskList::new`, the empty table. -/
def new : TaskList :=
  ⟨[], List.nodup_nil⟩

/-- Modelled from the spec: `get_task`, the record named `name`, or `NotFound`. -/
def getTask (l : TaskList) (name : String) : Option Task :=
  Table.lookup Task.name l.tasks name

/-- Modelled from the spec: `add_new_task`, insert `task` under its name, replacing a record of
the same name. -/
def addNewTask (l : TaskList) (task : Task) : TaskList :=
  ⟨Table.insert Task.name l.tasks task, Table.nodup_insert l.nodup task⟩

/-- The common shape of the setters: rewrite the record named `name`, if any, keeping its name. -/
def modifyTask (l : TaskList) (name : String) (f : Task → Task)
    (hf : ∀ t, (f t).name = t.name) : TaskList :=
  ⟨Table.modify Task.name l.tasks name f, Table.nodup_modify l.nodup name hf⟩

/-- Modelled from the spec: `set_task_state`. -/
def setTaskState (l : TaskList) (name : String) (state : TaskState) : TaskList :=
  l.modifyTask name (fun t => { t with state := state }) fun _ => rfl

/-- Modelled from the spec: `set_task_info`, the runtime fields the executor reports. -/
def setTaskInfo (l : TaskList) (name id ip slaveId : String) : TaskList :=
  l.modifyTask name (fun t => { t with id := id, ip := ip, slaveId := slaveId }) fun _ => rfl

/-- Modelled from the spec: `set_task_node_name`. -/
def setTaskNodeName (l : TaskList) (name nodeName : String) : TaskList :=
  l.modifyTask name (fun t => { t with nodeName := nodeName }) fun _ => rfl

/-- Modelled from the spec: `update_task_last_update`, `last_update = now`. -/
def updateTaskLastUpdate (l : TaskList) (name : String) (now : BitVec 64) : TaskList :=
  l.modifyTask name (fun t => { t with lastUpdate := now }) fun _ => rfl

/-- Modelled from the spec: `remove_task_by_name`. -/
def removeTaskByName (l : TaskList) (name : String) : TaskList :=
  ⟨Table.erase Task.name l.tasks name, Table.nodup_erase l.nodup name⟩

/-- Modelled from the spec: `get_task_state`, `NotRunning` for an unknown name. -/
def getTaskState (l : TaskList) (name : String) : TaskState :=
  match l.getTask name with
  | some t => t.state
  | none => .notRunning

/-- Modelled from the spec: `get_task_name_by_id`, the name of the first task (in table order)
whose id starts with a non-empty `idPrefix`, and `""` otherwise. -/
def getTaskNameById (l : TaskList) (idPrefix : String) : String :=
  if idPrefix = "" then ""
  else
    match l.tasks.find? (fun t => startsWith t.id idPrefix) with
    | some t => t.name
    | none => ""

/-- Modelled from the spec: `get_tasks_with_state`, copies of the tasks in state `state`, in table
order. -/
def getTasksWithState (l : TaskList) (state : TaskState) : List Task :=
  l.tasks.filter fun t => t.state = state

/-! ### Lookups after each operation -/

@[simp] theorem getTask_new (name : String) : new.getTask name = none := rfl

@[simp] theorem getTask_addNewTask (l : TaskList) (task : Task) (n : String) :
    (l.addNewTask task).getTask n = if task.name = n then some task else l.getTask n :=
  Table.lookup_insert _ _ _

/-- Every setter changes the record it names, through `f`, and no other. -/
theorem getTask_modifyTask (l : TaskList) (m n : String) (f : Task → Task)
    (hf : ∀ t, (f t).name = t.name) :
    (l.modifyTask m f hf).getTask n = if m = n then (l.getTask n).map f else l.getTask n :=
  Table.lookup_modify _ _ _ hf

@[simp] theorem getTask_setTaskState (l : TaskList) (m n : String) (s : TaskState) :
    (l.setTaskState m s).getTask n =
      if m = n then (l.getTask n).map fun t => { t with state := s } else l.getTask n :=
  getTask_modifyTask ..

@[simp] theorem getTask_setTaskInfo (l : TaskList) (m n id ip slaveId : String) :
    (l.setTaskInfo m id ip slaveId).getTask n =
      if m = n then (l.getTask n).map fun t => { t with id := id, ip := ip, slaveId := slaveId }
      else l.getTask n :=
  getTask_modifyTask ..

@[simp] theorem getTask_setTaskNodeName (l : TaskList) (m n nodeName : String) :
    (l.setTaskNodeName m nodeName).getTask n =
      if m = n then (l.getTask n).map fun t => { t with nodeName := nodeName } else l.getTask n :=
  getTask_modifyTask ..

@[simp] theorem getTask_updateTaskLastUpdate (l : TaskList) (m n : String) (now : BitVec 64) :
    (l.updateTaskLastUpdate m now).getTask n =
      if m = n then (l.getTask n).map fun t => { t with lastUpdate := now } else l.getTask n :=
  getTask_modifyTask ..

@[simp] theorem getTask_removeTaskByName (l : TaskList) (m n : String) :
    (l.removeTaskByName m).getTask n = if m = n then none else l.getTask n :=
  Table.lookup_erase _ _ _

/-! ### Reading the table back -/

/-- A lookup by name finds exactly the stored record of that name. -/
theorem getTask_eq_some_iff (l : TaskList) {n : String} {t : Task} :
    l.getTask n = some t ↔ t ∈ l.tasks ∧ t.name = n :=
  Table.lookup_eq_some_iff l.nodup

theorem getTask_of_mem {l : TaskList} {t : Task} (h : t ∈ l.tasks) : l.getTask t.name = some t :=
  l.getTask_eq_some_iff.2 ⟨h, rfl⟩

/-- State filter correctness (§8.2): the snapshot for `s` holds exactly the stored records in
state `s`. -/
theorem mem_getTasksWithState (l : TaskList) (s : TaskState) (t : Task) :
    t ∈ l.getTasksWithState s ↔ l.getTask t.name = some t ∧ t.state = s := by
  simp [getTasksWithState, getTask_eq_some_iff]

/-- A snapshot lists each name at most once. -/
theorem nodup_getTasksWithState (l : TaskList) (s : TaskState) :
    ((l.getTasksWithState s).map Task.name).Nodup :=
  l.nodup.sublist ((List.filter_sublist _).map _)

/-- In a table where no record has the empty name, every name that finds a record is not empty. -/
theorem ne_empty_of_getTask {l : TaskList} {n : String} {t : Task} (hnamed : l.getTask "" = none)
    (ht : l.getTask n = some t) : n ≠ "" := by
  rintro rfl
  simp [hnamed] at ht

/-- In a table where no record has the empty name, a stored task's id lookup answers a name exactly
when its id is not empty: a non-empty id finds at least the task itself. -/
theorem getTaskNameById_length_pos_iff {l : TaskList} {t : Task} (ht : t ∈ l.tasks)
    (hnamed : l.getTask "" = none) : 0 < (l.getTaskNameById t.id).length ↔ t.id ≠ "" := by
  refine ⟨fun hl hid => by simp [hid, getTaskNameById] at hl, fun hid => ?_⟩
  unfold getTaskNameById
  rw [if_neg hid]
  cases h : l.tasks.find? (fun r => startsWith r.id t.id) with
  | none => simpa using List.find?_eq_none.1 h t ht
  | some r =>
    show 0 < r.name.length
    rw [length_pos_iff_ne_empty]
    exact ne_empty_of_getTask hnamed ((l.getTask_eq_some_iff).2 ⟨List.mem_of_find?_eq_some h, rfl⟩)

/-! ### Loops of writes -/

/-- After removing a list of names, exactly those names read nothing. -/
theorem getTask_foldl_removeTaskByName (l : List Task) (tl : TaskList) (n : String) :
    (l.foldl (fun tl t => tl.removeTaskByName t.name) tl).getTask n =
      if l.any (·.name = n) then none else tl.getTask n := by
  induction l generalizing tl with
  | nil => simp
  | cons t l ih => by_cases h : t.name = n <;> simp [ih, h]

/-- After setting a list of names to state `st`, exactly those names read their record so set. -/
theorem getTask_foldl_setTaskState (l : List Task) (tl : TaskList) (st : TaskState) (n : String) :
    (l.foldl (fun tl t => tl.setTaskState t.name st) tl).getTask n =
      if l.any (·.name = n) then (tl.getTask n).map fun t => { t with state := st }
      else tl.getTask n := by
  induction l generalizing tl with
  | nil => simp
  | cons t l ih => by_cases h : t.name = n <;> simp [ih, h, Option.map_map, Function.comp_def]

/-- A filtered snapshot names `n` exactly when the record named `n` is in the snapshot's state and
passes the filter. -/
theorem any_filter_getTasksWithState (tl : TaskList) (st : TaskState) (P : Task → Bool)
    (n : String) :
    ((tl.getTasksWithState st).filter P).any (·.name = n) =
      (tl.getTask n).any fun t => t.state = st && P t := by
  rw [getTasksWithState, List.filter_filter]
  simpa only [Bool.and_comm] using Table.any_filter_eq tl.nodup (fun t => P t && t.state = st) n

end TaskList
end TorcScheduler
