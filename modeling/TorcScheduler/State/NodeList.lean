import TorcScheduler.State.Table

/-!
# The node table

`state::node_list`, which defines `NodeList`, is not among the sources.  Its operations are
modelled from the specification (§4.B): nodes keyed by a unique name (§3, node invariant 1, a
field of the structure), inserted or replaced by `add_new_node`, never removed.  `get_node`
answers a miss with `NotFound`, here `none`; what the actor does with that miss is in `Actor`.
-/

namespace TorcScheduler

/-- Modelled from the spec: `NodeList`, the node records in insertion order, names pairwise
distinct. -/
structure NodeList where
  nodes : List Node
  nodup : (nodes.map Node.name).Nodup

namespace NodeList

/-- Modelled from the spec: `NodeList::new`, the empty table. -/
def new : NodeList :=
  ⟨[], List.nodup_nil⟩

/-- Modelled from the spec: `get_node`, the record named `name`, or `NotFound`. -/
def getNode (l : NodeList) (name : String) : Option Node :=
  Table.lookup Node.name l.nodes name

/-- Modelled from the spec: `add_new_node`, insert or replace by name. -/
def addNewNode (l : NodeList) (node : Node) : NodeList :=
  ⟨Table.insert Node.name l.nodes node, Table.nodup_insert l.nodup node⟩

/-- The common shape of the setters: rewrite the node named `name`, if any, keeping its name. -/
def modifyNode (l : NodeList) (name : String) (f : Node → Node)
    (hf : ∀ n, (f n).name = n.name) : NodeList :=
  ⟨Table.modify Node.name l.nodes name f, Table.nodup_modify l.nodup name hf⟩

/-- Modelled from the spec: `update_node`, the four reported fields, `active = true` and
`last_seen = now`. -/
def updateNode (l : NodeList) (name nodeType nodeFunction slaveId : String)
    (now : BitVec 64) : NodeList :=
  l.modifyNode name (fun n => { n with
    nodeType := nodeType
    nodeFunction := nodeFunction
    slaveId := slaveId
    active := true
    lastSeen := now }) fun _ => rfl

/-- Modelled from the spec: `set_node_inactive`. -/
def setNodeInactive (l : NodeList) (name : String) : NodeList :=
  l.modifyNode name (fun n => { n with active := false }) fun _ => rfl

/-- Modelled from the spec: `is_node_active`, `false` for an unknown name. -/
def isNodeActive (l : NodeList) (name : String) : Bool :=
  match l.getNode name with
  | some n => n.active
  | none => false

/-- Modelled from the spec: `get_nodes`, copies of all nodes in table order. -/
def getNodes (l : NodeList) : List Node :=
  l.nodes

@[simp] theorem getNode_new (name : String) : new.getNode name = none := rfl

@[simp] theorem getNode_addNewNode (l : NodeList) (node : Node) (n : String) :
    (l.addNewNode node).getNode n = if node.name = n then some node else l.getNode n :=
  Table.lookup_insert _ _ _

/-- Every node setter changes the node it names, through `f`, and no other. -/
theorem getNode_modifyNode (l : NodeList) (m n : String) (f : Node → Node)
    (hf : ∀ x, (f x).name = x.name) :
    (l.modifyNode m f hf).getNode n = if m = n then (l.getNode n).map f else l.getNode n :=
  Table.lookup_modify _ _ _ hf

@[simp] theorem getNode_updateNode (l : NodeList) (m n nodeType nodeFunction slaveId : String)
    (now : BitVec 64) :
    (l.updateNode m nodeType nodeFunction slaveId now).getNode n =
      if m = n then
        (l.getNode n).map fun x => { x with
          nodeType := nodeType
          nodeFunction := nodeFunction
          slaveId := slaveId
          active := true
          lastSeen := now }
      else l.getNode n :=
  getNode_modifyNode ..

@[simp] theorem getNode_setNodeInactive (l : NodeList) (m n : String) :
    (l.setNodeInactive m).getNode n =
      if m = n then (l.getNode n).map fun x => { x with active := false } else l.getNode n :=
  getNode_modifyNode ..

/-- A lookup by name finds exactly the stored node of that name. -/
theorem getNode_eq_some_iff (l : NodeList) {n : String} {x : Node} :
    l.getNode n = some x ↔ x ∈ l.nodes ∧ x.name = n :=
  Table.lookup_eq_some_iff l.nodup

theorem getNode_of_mem {l : NodeList} {x : Node} (h : x ∈ l.getNodes) :
    l.getNode x.name = some x :=
  l.getNode_eq_some_iff.2 ⟨h, rfl⟩

/-- After deactivating a list of names, exactly those names read their node deactivated. -/
theorem getNode_foldl_setNodeInactive (l : List Node) (nl : NodeList) (n : String) :
    (l.foldl (fun nl x => nl.setNodeInactive x.name) nl).getNode n =
      if l.any (·.name = n) then (nl.getNode n).map fun x => { x with active := false }
      else nl.getNode n := by
  induction l generalizing nl with
  | nil => simp
  | cons x l ih => by_cases h : x.name = n <;> simp [ih, h, Option.map_map, Function.comp_def]

/-- A filtered node snapshot names `n` exactly when the node named `n` passes the filter. -/
theorem any_filter_getNodes (nl : NodeList) (P : Node → Bool) (n : String) :
    (nl.getNodes.filter P).any (·.name = n) = (nl.getNode n).any P :=
  Table.any_filter_eq nl.nodup P n

end NodeList
end TorcScheduler
