import TorcScheduler.State.TaskList
import TorcScheduler.State.NodeList
import TorcScheduler.Collaborator.Client

/-!
# The state actor

`StateManager::start_serving` spawns the `state-serve` thread, the only owner of the task and node
tables.  It takes one `StateRequestMsg` at a time from its queue, runs the handler for it, and the
handler sends one `StateResponseMsg` on the reply channel the message carries.  `serve` is one
iteration of that loop.  A handler updates the tables, may call a collaborator before replying
(`update_task_state` registers a task entering `Running`), and replies; `serve` returns `none`
when the handler panics, which only `get_node` can do: it unwraps the node lookup.

The clock `now` is what `UTC::now()` reads inside the table operations that stamp a record.
-/

namespace TorcScheduler

/-- `StateManager`: the handle a client holds, with the configuration the modelled methods read
(the request channel itself is implicit in the model). -/
structure StateManager where
  masterIp : String
  myName : String
  networkAgentType : String
  networkAgentConnection : String
  deriving DecidableEq, Repr

/-- `State`: what the serving thread owns.  Its `initialized` flag is set once and never read. -/
structure State where
  masterIp : String
  myName : String
  taskList : TaskList
  nodeList : NodeList

/-- `StateRequestMsg`: the 22 requests, each with the reply channel left implicit. -/
inductive StateRequestMsg
  | ping
  | getTaskState (taskName : String)
  | getTaskIP (taskName : String)
  | getTaskNameById (idPrefix : String)
  | updateTaskState (taskName : String) (taskState : TaskState)
  | updateTaskNodeName (taskName nodeName : String)
  | updateTaskInfo (taskName id ip slaveId : String)
  | updateTaskLastUpdate (taskName : String)
  | startTask (task : Task)
  | restartTask (taskName : String)
  | removeTask (taskName : String)
  | getIsRestartableTask (taskName : String)
  | getRequestedTasks
  | getRunningTasks
  | getRestartTasks
  | addNode (node : Node)
  | getIsNodeActive (nodeName : String)
  | updateNode (nodeName nodeType nodeFunction slaveId : String)
  | setNodeInactive (nodeName : String)
  | getNode (nodeName : String)
  | getNodes
  deriving DecidableEq, Repr

/-- `StateResponseMsg`: the replies. -/
inductive StateResponseMsg
  | pong
  | taskState (taskState : TaskState)
  | taskIP (taskIp : String)
  | taskName (taskName : String)
  | updateTaskState
  | updateTaskInfo
  | updateTaskNodeName
  | updateTaskLastUpdate
  | startTask
  | restartTask
  | removeTask
  | getIsRestartableTask (isRestartableTask : Bool)
  | getRequestedTasks (requestedTasks : List Task)
  | getRunningTasks (runningTasks : List Task)
  | getRestartTasks (restartTasks : List Task)
  | addNode
  | getIsNodeActive (isActive : Bool)
  | updateNode
  | setNodeInactive
  | getNodes (nodes : List Node)
  | getNode (node : Node)
  deriving DecidableEq, Repr

/-- What one handler does: the tables after it, the reply it sends, and the collaborator calls it
makes before sending the reply. -/
structure Outcome where
  state : State
  reply : StateResponseMsg
  calls : List Call

namespace StateManager

/-! ### The handlers, one per request -/

/-- `ping`. -/
@[simp] def ping (state : State) : Outcome :=
  ⟨state, .pong, []⟩

/-- `get_task_state`. -/
@[simp] def getTaskState (state : State) (taskName : String) : Outcome :=
  ⟨state, .taskState (state.taskList.getTaskState taskName), []⟩

/-- The ip `get_task_ip` reads: the task's, `""` for an unknown name. -/
def taskIp (state : State) (taskName : String) : String :=
  match state.taskList.getTask taskName with
  | some task => task.ip
  | none => ""

/-- `get_task_ip`. -/
@[simp] def getTaskIp (state : State) (taskName : String) : Outcome :=
  ⟨state, .taskIP (taskIp state taskName), []⟩

/-- `get_task_name_by_id`. -/
@[simp] def getTaskNameById (state : State) (idPrefix : String) : Outcome :=
  ⟨state, .taskName (state.taskList.getTaskNameById idPrefix), []⟩

/-- `update_task_state`: write the state; for `Running`, look the task up again and register it
before replying. -/
@[simp] def updateTaskState (state : State) (taskName : String) (taskState : TaskState) :
    Outcome :=
  let state := { state with taskList := state.taskList.setTaskState taskName taskState }
  let calls := match taskState with
    | .running =>
      match state.taskList.getTask taskName with
      | some task => [registerRunningTask state.masterIp task]
      | none => []
    | _ => []
  ⟨state, .updateTaskState, calls⟩

/-- `update_task_node_name`. -/
@[simp] def updateTaskNodeName (state : State) (taskName nodeName : String) : Outcome :=
  ⟨{ state with taskList := state.taskList.setTaskNodeName taskName nodeName },
    .updateTaskNodeName, []⟩

/-- `update_task_info`. -/
@[simp] def updateTaskInfo (state : State) (taskName id ip slaveId : String) : Outcome :=
  ⟨{ state with taskList := state.taskList.setTaskInfo taskName id ip slaveId },
    .updateTaskInfo, []⟩

/-- `update_task_last_update`. -/
@[simp] def updateTaskLastUpdate (now : BitVec 64) (state : State) (taskName : String) :
    Outcome :=
  ⟨{ state with taskList := state.taskList.updateTaskLastUpdate taskName now },
    .updateTaskLastUpdate, []⟩

/-- `start_task`: insert the record, replacing one of the same name. -/
@[simp] def startTask (state : State) (task : Task) : Outcome :=
  ⟨{ state with taskList := state.taskList.addNewTask task }, .startTask, []⟩

/-- `restart_task`: stamp the task, then set it to `Restart`. -/
@[simp] def restartTask (now : BitVec 64) (state : State) (taskName : String) : Outcome :=
  ⟨{ state with
      taskList :=
        (state.taskList.updateTaskLastUpdate taskName now).setTaskState taskName .restart },
    .restartTask, []⟩

/-- `get_is_restartable_task`: an owned system service that is not a job. -/
@[simp] def getIsRestartableTask (state : State) (taskName : String) : Outcome :=
  let isRestartableTask := match state.taskList.getTask taskName with
    | some task => task.isSystemService && task.controller == state.myName && task.isJob == false
    | none => false
  ⟨state, .getIsRestartableTask isRestartableTask, []⟩

/-- `remove_task_by_name`. -/
@[simp] def removeTaskByName (state : State) (taskName : String) : Outcome :=
  ⟨{ state with taskList := state.taskList.removeTaskByName taskName }, .removeTask, []⟩

/-- `get_requested_tasks`. -/
@[simp] def getRequestedTasks (state : State) : Outcome :=
  ⟨state, .getRequestedTasks (state.taskList.getTasksWithState .requested), []⟩

/-- `get_running_tasks`. -/
@[simp] def getRunningTasks (state : State) : Outcome :=
  ⟨state, .getRunningTasks (state.taskList.getTasksWithState .running), []⟩

/-- `get_restart_tasks`. -/
@[simp] def getRestartTasks (state : State) : Outcome :=
  ⟨state, .getRestartTasks (state.taskList.getTasksWithState .restart), []⟩

/-- `add_node`. -/
@[simp] def addNode (state : State) (node : Node) : Outcome :=
  ⟨{ state with nodeList := state.nodeList.addNewNode node }, .addNode, []⟩

/-- `get_is_node_active`. -/
@[simp] def getIsNodeActive (state : State) (nodeName : String) : Outcome :=
  ⟨state, .getIsNodeActive (state.nodeList.isNodeActive nodeName), []⟩

/-- `update_node`. -/
@[simp] def updateNode (now : BitVec 64) (state : State)
    (nodeName nodeType nodeFunction slaveId : String) : Outcome :=
  ⟨{ state with
      nodeList := state.nodeList.updateNode nodeName nodeType nodeFunction slaveId now },
    .updateNode, []⟩

/-- `set_node_inactive`. -/
@[simp] def setNodeInactive (state : State) (nodeName : String) : Outcome :=
  ⟨{ state with nodeList := state.nodeList.setNodeInactive nodeName }, .setNodeInactive, []⟩

/-- `get_node`: `state.node_list.get_node(node_name).unwrap()`, so a miss panics (`none`). -/
@[simp] def getNode (state : State) (nodeName : String) : Option Outcome :=
  match state.nodeList.getNode nodeName with
  | some node => some ⟨state, .getNode node, []⟩
  | none => none

/-- `get_nodes`. -/
@[simp] def getNodes (state : State) : Outcome :=
  ⟨state, .getNodes state.nodeList.getNodes, []⟩

end StateManager

open StateManager in
/-- One iteration of the serving loop of `start_serving`: the handler the request is matched to,
or `none` when that handler panics. -/
def serve (now : BitVec 64) (state : State) : StateRequestMsg → Option Outcome
  | .ping => some (ping state)
  | .getTaskState taskName => some (getTaskState state taskName)
  | .getTaskIP taskName => some (getTaskIp state taskName)
  | .getTaskNameById idPrefix => some (getTaskNameById state idPrefix)
  | .updateTaskState taskName taskState => some (updateTaskState state taskName taskState)
  | .updateTaskNodeName taskName nodeName => some (updateTaskNodeName state taskName nodeName)
  | .updateTaskInfo taskName id ip slaveId => some (updateTaskInfo state taskName id ip slaveId)
  | .updateTaskLastUpdate taskName => some (updateTaskLastUpdate now state taskName)
  | .startTask task => some (startTask state task)
  | .restartTask taskName => some (restartTask now state taskName)
  | .removeTask taskName => some (removeTaskByName state taskName)
  | .getIsRestartableTask taskName => some (getIsRestartableTask state taskName)
  | .getRequestedTasks => some (getRequestedTasks state)
  | .getRunningTasks => some (getRunningTasks state)
  | .getRestartTasks => some (getRestartTasks state)
  | .addNode node => some (addNode state node)
  | .getIsNodeActive nodeName => some (getIsNodeActive state nodeName)
  | .updateNode nodeName nodeType nodeFunction slaveId =>
    some (updateNode now state nodeName nodeType nodeFunction slaveId)
  | .setNodeInactive nodeName => some (setNodeInactive state nodeName)
  | .getNode nodeName => getNode state nodeName
  | .getNodes => some (getNodes state)

end TorcScheduler
