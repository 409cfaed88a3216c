import TorcScheduler.State.Session

/-!
# The HTTP admin surface

`api::run_api` serves the admin routes; each handler owns a clone of the `StateManager` and is one
more client of the actor.  A request is an `ApiRequest`, carrying its query string, its decoded
body, or the service groups the handler reads from the configuration file, and a handler is a
`Session` from it to its reply, together with the one call it may make to a collaborator that is
neither the actor nor the routing agent (`AdminCall`: the IPMI proxy, the overlay configurator, the
executor).  The handler replies once that call returns; a call that fails (the overlay client
unwraps each of its HTTP requests) panics the handler's thread, not the actor, and is the
collaborator's part, left out here.

The handlers read their query the same way: a non-empty query that starts with the key, then the
rest of it after `split_at`, if that rest is non-empty (`queryValue`).

* `queryValue_eq_some_iff` — a query yields a value exactly when it is the key followed by a
  non-empty value; whatever follows is part of the value;
* `handle_eq_none_iff` — the requests that bring the actor down: `/node/startup` or
  `/node/shutdown` naming a node the table lacks, and an announce with an unknown id and a missing
  node;
* `handleStartServiceGroup_spec` — `/start/group` ends, makes no route call, and replaces records
  only by new owned `Requested` records of the services it starts (`ApiRequest.Keeps`);
* `handle_cases`, `handle_frame` — so every request but an announce makes no route call and
  writes at most that.

Left out: the JSON encoding of replies and the decoding of the announce body, and how
`utils::read_task` reads a service of a group (the fields it gives that the model keeps are
`ServiceConfig`).
-/

namespace TorcScheduler

/-- The value the handlers read from a query: a non-empty query that starts with `key`, split
after `key`, if what follows is non-empty.  No query reads as `""`. -/
def queryValue (key : String) (query : Option String) : Option String :=
  let query := query.getD ""
  if query ≠ "" ∧ startsWith query key = true then
    let value := query.drop key.length
    if value ≠ "" then some value else none
  else none

/-- **Query round trip.** A query yields `value` exactly when it is `key` followed by `value`,
and `value` is not empty. -/
theorem queryValue_eq_some_iff (key : String) (query : Option String) (value : String) :
    queryValue key query = some value ↔ query = some (key ++ value) ∧ value ≠ "" := by
  constructor
  · intro h
    simp only [queryValue] at h
    split_ifs at h with hq hv
    cases h
    obtain ⟨hne, hpre⟩ := hq
    cases query with
    | none => exact absurd rfl hne
    | some q =>
      simp only [Option.getD_some, startsWith, List.isPrefixOf_iff_prefix] at hpre ⊢
      refine ⟨congrArg some (String.ext ?_), hv⟩
      rw [String.data_append, String.data_drop]
      exact (List.prefix_iff_eq_append.1 hpre).symm
  · rintro ⟨rfl, hv⟩
    have hd : (key ++ value).drop key.length = value :=
      String.ext (by rw [String.data_drop, String.data_append]; exact List.drop_left _ _)
    have hne : key ++ value ≠ "" := fun h => hv (String.ext (by
      simpa using (List.append_eq_nil.1 (congrArg String.data h)).2))
    simp [queryValue, hne, startsWith, hd, hv]

/-- The body of a reply, before its JSON encoding. -/
inductive ApiReply
  /-- The text `pong`. -/
  | pong
  /-- A list of nodes. -/
  | nodes (nodes : List Node)
  /-- A list of tasks. -/
  | tasks (tasks : List Task)
  /-- `SimpleResponse { result }`. -/
  | result (result : String)
  deriving DecidableEq, Repr

/-- A call a handler makes to a collaborator other than the actor and the routing agent. -/
inductive AdminCall
  /-- `startup_node(ipmi_proxy, node.management_ip)`. -/
  | startupNode (node : Node)
  /-- `shutdown_node(ipmi_proxy, node.management_ip)`. -/
  | shutdownNode (node : Node)
  /-- `configure_network(nodes)` of the overlay configurator. -/
  | configureNetwork (nodes : List Node)
  /-- `shutdown_network(nodes)`. -/
  | shutdownNetwork (nodes : List Node)
  /-- `kill_task(name)` of the executor, through `send_kill_task_by_name`. -/
  | killTask (name : String)
  deriving DecidableEq, Repr

/-- A service of a group, as `utils::read_task` reads it, with the fields the handler passes on to
`send_start_task` that the model keeps. -/
structure ServiceConfig where
  name : String
  nodeName : String
  isMetered : Bool
  isJob : Bool
  deriving DecidableEq, Repr

/-- An entry of `api.service-groups` in the configuration file. -/
structure ServiceGroup where
  name : String
  services : List ServiceConfig
  deriving DecidableEq, Repr

/-- A request to a route: its query, its decoded body, or what its handler reads of the
configuration when it runs. -/
inductive ApiRequest
  /-- `GET /admin/ping`. -/
  | ping
  /-- `GET /nodes`. -/
  | nodes
  /-- `GET /node/startup`. -/
  | nodeStartup (query : Option String)
  /-- `GET /node/shutdown`. -/
  | nodeShutdown (query : Option String)
  /-- `GET /services/metered`. -/
  | servicesMetered
  /-- `GET /services/running`. -/
  | servicesRunning
  /-- `GET /service`. -/
  | service (query : Option String)
  /-- `DELETE /service`. -/
  | serviceDelete (query : Option String)
  /-- `GET /start/group`, with the service groups the handler reads from the configuration. -/
  | startServiceGroup (query : Option String) (groups : List ServiceGroup)
  /-- `GET /calico/configure`. -/
  | calicoConfigure
  /-- `GET /calico/shutdown`. -/
  | calicoShutdown
  /-- `POST /service/announce`, with the task its body decodes to. -/
  | taskAnnounce (task : Task)
  deriving DecidableEq, Repr

/-- The requests whose handling makes the actor panic: a node route naming, as `name=<name>`, a
node the table lacks, and an announce whose id lookup answers no name, for a node the table
lacks. -/
def ApiRequest.AbortsActor (s : State) : ApiRequest → Prop
  | .nodeStartup query | .nodeShutdown query =>
    ∃ name, (query = some ("name=" ++ name) ∧ name ≠ "") ∧ s.nodeList.getNode name = none
  | .taskAnnounce task =>
    (s.taskList.getTaskNameById task.id).length = 0 ∧ s.nodeList.getNode task.nodeName = none
  | _ => False

/-- The task names a request starts: for `/start/group` with `name=<name>`, the services of every
configured group named `name`. -/
def ApiRequest.Starts : ApiRequest → String → Prop
  | .startServiceGroup query groups, n =>
    match queryValue "name=" query with
    | some name => ∃ g ∈ groups, g.name = name ∧ ∃ service ∈ g.services, service.name = n
    | none => False
  | _, _ => False

/-- What a request may do to the actor if it is not an announce: keep the node table, and replace
a task record only by a new owned `Requested` record with no id and no ip, under a name the request
starts. -/
def ApiRequest.Keeps (myName : String) (req : ApiRequest) (s s' : State) : Prop :=
  s'.nodeList = s.nodeList ∧ ∀ n, s'.taskList.getTask n = s.taskList.getTask n ∨
    req.Starts n ∧ ∃ t, s'.taskList.getTask n = some t ∧ t.controller = myName ∧ t.id = "" ∧
      t.ip = "" ∧ t.state = .requested

theorem ApiRequest.keeps_refl (myName : String) (req : ApiRequest) (s : State) :
    req.Keeps myName s s :=
  ⟨rfl, fun _ => .inl rfl⟩

theorem ApiRequest.keeps_trans {myName : String} {req : ApiRequest} {s₁ s₂ s₃ : State}
    (h₁ : req.Keeps myName s₁ s₂) (h₂ : req.Keeps myName s₂ s₃) : req.Keeps myName s₁ s₃ := by
  refine ⟨h₂.1.trans h₁.1, fun n => ?_⟩
  rcases h₂.2 n with e | hn
  · exact e ▸ h₁.2 n
  · exact .inr hn

open Session

namespace StateManager

/-- `handle_ping`: no request to the actor. -/
def handlePing : Session (ApiReply × Option AdminCall) :=
  pure (.pong, none)

/-- `handle_nodes`: every node, in table order. -/
def handleNodes : Session (ApiReply × Option AdminCall) := do
  let nodes ← requestListNodes
  pure (.nodes nodes, none)

/-- The shape of `handle_node_startup` and `handle_node_shutdown`: for `name=<name>`, ask the
actor for the node and, if it answers one, have the IPMI proxy act on it. -/
def handleNodePower (power : Node → AdminCall) (query : Option String) :
    Session (ApiReply × Option AdminCall) := do
  match queryValue "name=" query with
  | some name =>
    match ← requestNode name with
    | some node => pure (.result "done", some (power node))
    | none => pure (.result "done", none)
  | none => pure (.result "done", none)

/-- `handle_node_startup`. -/
def handleNodeStartup (query : Option String) : Session (ApiReply × Option AdminCall) :=
  handleNodePower .startupNode query

/-- `handle_node_shutdown`. -/
def handleNodeShutdown (query : Option String) : Session (ApiReply × Option AdminCall) :=
  handleNodePower .shutdownNode query

/-- The shape of `handle_services_metered` and `handle_services_running`: the running tasks that
pass `keep`, in table order. -/
def handleServices (keep : Task → Bool) : Session (ApiReply × Option AdminCall) := do
  let tasks ← requestListRunningTasks
  pure (.tasks (tasks.filter keep), none)

/-- `handle_services_metered`: the running tasks that are metered. -/
def handleServicesMetered : Session (ApiReply × Option AdminCall) :=
  handleServices fun task => task.isMetered

/-- `handle_services_running`: the running tasks that are not jobs. -/
def handleServicesRunning : Session (ApiReply × Option AdminCall) :=
  handleServices fun task => !task.isJob

/-- `handle_service`: for `id=<id>`, the name of the task the actor finds by that id prefix;
`""` otherwise. -/
def handleService (query : Option String) : Session (ApiReply × Option AdminCall) := do
  match queryValue "id=" query with
  | some id =>
    let result ← requestTaskNameById id
    pure (.result result, none)
  | none => pure (.result "", none)

/-- `handle_service_delete`: for `name=<name>`, have the executor kill the task; the actor is not
asked. -/
def handleServiceDelete (query : Option String) : Session (ApiReply × Option AdminCall) :=
  match queryValue "name=" query with
  | some name => pure (.result "done", some (.killTask name))
  | none => pure (.result "done", none)

/-- `handle_start_service_group`: for `name=<name>`, every service of every configured group of
that name, in order, is started through `send_start_task`, as a service that is not a system
service. -/
def handleStartServiceGroup (sm : StateManager) (query : Option String)
    (groups : List ServiceGroup) : Session (ApiReply × Option AdminCall) := do
  match queryValue "name=" query with
  | some name =>
    groups.forM fun group =>
      if group.name = name then
        group.services.forM fun service =>
          sm.sendStartTask service.name service.nodeName service.isMetered false service.isJob
      else pure ()
  | none => pure ()
  pure (.result "done", none)

/-- The shape of `handle_calico_configure` and `handle_calico_shutdown`: hand every node to the
overlay configurator. -/
def handleCalico (overlay : List Node → AdminCall) : Session (ApiReply × Option AdminCall) := do
  let nodes ← requestListNodes
  pure (.result "done", some (overlay nodes))

/-- `handle_calico_configure`. -/
def handleCalicoConfigure : Session (ApiReply × Option AdminCall) :=
  handleCalico .configureNetwork

/-- `handle_calico_shutdown`. -/
def handleCalicoShutdown : Session (ApiReply × Option AdminCall) :=
  handleCalico .shutdownNetwork

/-- `handle_task_announce`: announce the decoded task. -/
def handleTaskAnnounce (sm : StateManager) (task : Task) :
    Session (ApiReply × Option AdminCall) := do
  sm.sendAnnounceTask task
  pure (.result "done", none)

/-- The router of `run_api`. -/
def handle (sm : StateManager) : ApiRequest → Session (ApiReply × Option AdminCall)
  | .ping => handlePing
  | .nodes => handleNodes
  | .nodeStartup query => handleNodeStartup query
  | .nodeShutdown query => handleNodeShutdown query
  | .servicesMetered => handleServicesMetered
  | .servicesRunning => handleServicesRunning
  | .service query => handleService query
  | .serviceDelete query => handleServiceDelete query
  | .startServiceGroup query groups => sm.handleStartServiceGroup query groups
  | .calicoConfigure => handleCalicoConfigure
  | .calicoShutdown => handleCalicoShutdown
  | .taskAnnounce task => sm.handleTaskAnnounce task

/-! ### What the surface can do to the actor -/

variable {sm : StateManager}

/-- **Starting a service group.** `/start/group` ends, whatever its query and groups, with no route
call; it leaves the node table as it was and writes, for each service it starts, a new owned
`Requested` record with no id and no ip under the service's name. -/
theorem handleStartServiceGroup_spec (query : Option String) (groups : List ServiceGroup)
    (σ : Clock) (s : State) :
    ∃ σ' s', sm.handleStartServiceGroup query groups σ s =
        some ((.result "done", none), σ', s', []) ∧
      (ApiRequest.startServiceGroup query groups).Keeps sm.myName s s' := by
  cases hq : queryValue "name=" query with
  | none => exact ⟨σ, s, by simp [handleStartServiceGroup, hq], ApiRequest.keeps_refl ..⟩
  | some name =>
    -- one `send_start_task` writes the record of its service and no other
    have start : ∀ g ∈ groups, g.name = name → ∀ service ∈ g.services, ∀ σ s, ∃ σ' s',
        sm.sendStartTask service.name service.nodeName service.isMetered false service.isJob σ s =
          some ((), σ', s', []) ∧ (ApiRequest.startServiceGroup query groups).Keeps sm.myName s s' := by
      intro g hg hgn service hservice σ s
      refine ⟨_, _, sendStartTask_apply .., rfl, fun n => ?_⟩
      by_cases hn : service.name = n
      · refine .inr ⟨?_, ⟨n, sm.myName, "", service.nodeName, service.isMetered, false,
          service.isJob, "", "", .requested, σ 0⟩, by simp [hn], rfl, rfl, rfl, rfl⟩
        simp only [ApiRequest.Starts, hq]
        exact ⟨g, hg, hgn, service, hservice, hn⟩
      · exact .inl (by simp [hn])
    obtain ⟨σ', s', hrun, hk⟩ : ∃ σ' s', (groups.forM fun group =>
        if group.name = name then
          group.services.forM fun service =>
            sm.sendStartTask service.name service.nodeName service.isMetered false service.isJob
        else pure ()) σ s = some ((), σ', s', []) ∧
          (ApiRequest.startServiceGroup query groups).Keeps sm.myName s s' := by
      refine forM_preorder (ApiRequest.keeps_refl _ _) ApiRequest.keeps_trans groups
        (fun g hg σ s => ?_) σ s
      split
      · exact forM_preorder (ApiRequest.keeps_refl _ _) ApiRequest.keeps_trans _ (start g hg ‹_›) σ s
      · exact ⟨σ, s, rfl, ApiRequest.keeps_refl ..⟩
    exact ⟨σ', s', by simp [handleStartServiceGroup, hq, hrun], hk⟩

/-- **Which HTTP requests bring the actor down.** A request's handler aborts the actor exactly
when it is `/node/startup` or `/node/shutdown` with the query `name=<name>` for a non-empty
`name` the node table lacks (`get_node` unwraps the miss), or an announce of a task whose id the
table does not know, placed on a node the table lacks.  Every other request, from any state and
at any clock, is answered by the actor (its handler may still fail on a collaborator's call). -/
theorem handle_eq_none_iff (sm : StateManager) (req : ApiRequest) (σ : Clock) (s : State) :
    sm.handle req σ s = none ↔ req.AbortsActor s := by
  cases req with
  | nodeStartup q | nodeShutdown q =>
    simp only [handle, handleNodeStartup, handleNodeShutdown, handleNodePower,
      ApiRequest.AbortsActor, ← queryValue_eq_some_iff]
    cases queryValue "name=" q with
    | none => simp
    | some name => cases h : s.nodeList.getNode name <;> simp [h]
  | service q =>
    simp only [handle, handleService, ApiRequest.AbortsActor, iff_false]
    cases queryValue "id=" q <;> simp
  | serviceDelete q =>
    simp only [handle, handleServiceDelete, ApiRequest.AbortsActor, iff_false]
    cases queryValue "name=" q <;> simp
  | startServiceGroup q groups =>
    obtain ⟨σ', s', h, -⟩ := sm.handleStartServiceGroup_spec q groups σ s
    simp [handle, h, ApiRequest.AbortsActor]
  | taskAnnounce t =>
    simp only [handle, handleTaskAnnounce, ApiRequest.AbortsActor, bind_apply,
      sendAnnounceTask_apply]
    split
    · rename_i hl
      simp [Nat.pos_iff_ne_zero.1 hl]
    · cases h : s.nodeList.getNode t.nodeName <;> simp_all
  | ping | nodes | servicesMetered | servicesRunning | calicoConfigure | calicoShutdown =>
    simp [handle, handlePing, handleNodes, handleServicesMetered, handleServicesRunning,
      handleServices, handleCalicoConfigure, handleCalicoShutdown, handleCalico,
      ApiRequest.AbortsActor]

/-- **What a request can do.** A handler that ends either announced the request's task, ending as
that announce does, or made no route call and wrote at most what `ApiRequest.Keeps` allows: the
new records of the services `/start/group` starts. -/
theorem handle_cases {req : ApiRequest} {σ σ' : Clock} {s s' : State}
    {r : ApiReply × Option AdminCall} {cs : List Call}
    (h : sm.handle req σ s = some (r, σ', s', cs)) :
    (∃ t, req = .taskAnnounce t ∧ sm.sendAnnounceTask t σ s = some ((), σ', s', cs)) ∨
      ((∀ t, req ≠ .taskAnnounce t) ∧ cs = [] ∧ req.Keeps sm.myName s s') := by
  cases req with
  | taskAnnounce t =>
    obtain ⟨_, σ₁, s₁, c₁, c₂, ha, hp, rfl⟩ := bind_eq_some.1 h
    cases hp
    exact .inl ⟨t, rfl, by simpa using ha⟩
  | startServiceGroup q groups =>
    obtain ⟨σ₁, s₁, hrun, hk⟩ := sm.handleStartServiceGroup_spec q groups σ s
    simp only [handle, hrun, Option.some.injEq, Prod.mk.injEq] at h
    obtain ⟨-, rfl, rfl, rfl⟩ := h
    exact .inr ⟨fun _ => nofun, rfl, hk⟩
  | nodeStartup q | nodeShutdown q =>
    simp only [handle, handleNodeStartup, handleNodeShutdown, handleNodePower] at h
    cases hq : queryValue "name=" q with
    | none =>
      simp [hq] at h
      obtain ⟨-, -, rfl, rfl⟩ := h
      exact .inr ⟨fun _ => nofun, rfl, ApiRequest.keeps_refl ..⟩
    | some name =>
      cases hn : s.nodeList.getNode name <;> simp [hq, hn] at h
      obtain ⟨-, -, rfl, rfl⟩ := h
      exact .inr ⟨fun _ => nofun, rfl, ApiRequest.keeps_refl ..⟩
  | service q =>
    simp only [handle, handleService] at h
    cases hq : queryValue "id=" q <;> simp [hq] at h <;> obtain ⟨-, -, rfl, rfl⟩ := h <;>
      exact .inr ⟨fun _ => nofun, rfl, ApiRequest.keeps_refl ..⟩
  | serviceDelete q =>
    simp only [handle, handleServiceDelete] at h
    cases hq : queryValue "name=" q <;> simp [hq] at h <;> obtain ⟨-, -, rfl, rfl⟩ := h <;>
      exact .inr ⟨fun _ => nofun, rfl, ApiRequest.keeps_refl ..⟩
  | ping | nodes | servicesMetered | servicesRunning | calicoConfigure | calicoShutdown =>
    simp [handle, handlePing, handleNodes, handleServicesMetered, handleServicesRunning,
      handleServices, handleCalicoConfigure, handleCalicoShutdown, handleCalico] at h
    obtain ⟨-, -, rfl, rfl⟩ := h
    exact .inr ⟨fun _ => nofun, rfl, ApiRequest.keeps_refl ..⟩

/-- **The surface writes only through announces and service groups.** A handler for any request
but an announce, when it ends, makes no route call, leaves the node table as it was, and changes a
task record only by replacing it with a new owned `Requested` record, with no id and no ip, under
the name of a service the request starts (only `/start/group` starts any). -/
theorem handle_frame (sm : StateManager) {req : ApiRequest} (hreq : ∀ t, req ≠ .taskAnnounce t)
    {σ σ' : Clock} {s s' : State} {r : ApiReply × Option AdminCall} {cs : List Call}
    (h : sm.handle req σ s = some (r, σ', s', cs)) :
    cs = [] ∧ s'.nodeList = s.nodeList ∧ ∀ n, s'.taskList.getTask n = s.taskList.getTask n ∨
      req.Starts n ∧ ∃ t, s'.taskList.getTask n = some t ∧ t.controller = sm.myName ∧
        t.id = "" ∧ t.ip = "" ∧ t.state = .requested :=
  ((handle_cases h).resolve_left fun ⟨t, ht, _⟩ => hreq t ht).2

/-- Starting the group `g` of one service `db` on `n1`: no route call, and `db` is inserted as a
new owned `Requested` record. -/
theorem handle_frame_startGroup :
    let sm : StateManager := ⟨"10.0.0.1", "C1", "fboss", "10.0.0.1"⟩
    let x : Node := ⟨"n1", "10.0.0.11", "slave", "none", true, "", 0⟩
    let s : State := ⟨"10.0.0.1", "C1", TaskList.new, NodeList.new.addNewNode x⟩
    let req : ApiRequest := .startServiceGroup (some "name=g") [⟨"g", [⟨"db", "n1", false, false⟩]⟩]
    let db : Task := ⟨"db", "C1", "", "n1", false, false, false, "", "", .requested, 0⟩
    let s' : State := { s with taskList := s.taskList.addNewTask db }
    (∀ t, req ≠ .taskAnnounce t) ∧
      sm.handle req (Clock.const 0) s = some ((.result "done", none), Clock.const 0, s', []) ∧
      (([] : List Call) = [] ∧ s'.nodeList = s.nodeList ∧ ∀ n,
        s'.taskList.getTask n = s.taskList.getTask n ∨ req.Starts n ∧ ∃ t,
          s'.taskList.getTask n = some t ∧ t.controller = sm.myName ∧ t.id = "" ∧ t.ip = "" ∧
            t.state = .requested) := by
  intro sm x s req db s'
  have hreq : ∀ t, req ≠ .taskAnnounce t := fun _ h => ApiRequest.noConfusion h
  have h : sm.handle req (Clock.const 0) s =
      some ((.result "done", none), Clock.const 0, s', []) := rfl
  exact ⟨hreq, h, handle_frame sm hreq h⟩

end StateManager

end TorcScheduler
