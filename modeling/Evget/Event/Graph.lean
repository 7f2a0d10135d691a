import Evget.Lib.Dict
import Mathlib.Data.List.Induction
import Mathlib.Order.Lattice

/-!
# The graph

`Graph` keeps its nodes and its edges in two maps.  `AddNode` enters a name into both, but `AddEdge`
enters only the source of the edge into the map of the edges, and not its target.

* `Graph.addNode`, `Graph.addEdge` and their overloads with data;
* `Graph.getAdjacencyList`         the successors of the names of the map of the edges;
* `GraphCall`, `Graph.build`       a sequence of calls on an empty graph;
* `Graph.Represents`               what a graph should hold after its calls;
* `Graph.build_represents_iff`     when it does.
-/

namespace Evget

/-- a graph with names `K`, data `N` at its nodes and data `E` at its edges -/
structure Graph (K N E : Type) where
  edges_ : Dict K (Dict K (List E))
  nodes_ : Dict K (List N)

namespace Graph
variable {K N E T : Type} [LinearOrder K]

def empty : Graph K N E := ⟨∅, ∅⟩

def setEmptyGraphData (name : K) (graph : Dict K (List T)) : Dict K (List T) :=
  graph.emplace name []

/-- the data is added to that of the name, which is there afterwards -/
def setGraphData (name : K) (data : T) (graph : Dict K (List T)) : Dict K (List T) :=
  (setEmptyGraphData name graph).insert name
    (((setEmptyGraphData name graph).lookup name).getD [] ++ [data])

def setLinks (name : K) (change : Dict K (List E) → Dict K (List E))
    (edges : Dict K (Dict K (List E))) : Dict K (Dict K (List E)) :=
  (edges.emplace name ∅).insert name (change (((edges.emplace name ∅).lookup name).getD ∅))

def addNode (name : K) (self : Graph K N E) : Graph K N E :=
  ⟨self.edges_.emplace name ∅, setEmptyGraphData name self.nodes_⟩

def addNodeData (name : K) (nodeData : N) (self : Graph K N E) : Graph K N E :=
  ⟨self.edges_.emplace name ∅, setGraphData name nodeData self.nodes_⟩

def addEdge (fromEdge toEdge : K) (self : Graph K N E) : Graph K N E :=
  ⟨setLinks fromEdge (setEmptyGraphData toEdge) self.edges_,
    setEmptyGraphData toEdge (setEmptyGraphData fromEdge self.nodes_)⟩

def addEdgeData (fromEdge toEdge : K) (edgeData : E) (self : Graph K N E) : Graph K N E :=
  ⟨setLinks fromEdge (setGraphData toEdge edgeData) self.edges_,
    setEmptyGraphData toEdge (setEmptyGraphData fromEdge self.nodes_)⟩

/-- the keys of a map in their order, in which a loop over the map sees them -/
def keysInOrder {V : Type} (m : Dict K V) : List K := m.keys.mergeSort fun a b => decide (a ≤ b)

def getAdjacencyList (self : Graph K N E) : Dict K (List K) :=
  (keysInOrder self.edges_).foldl (fun adjacencyList name =>
    adjacencyList.emplace name (keysInOrder ((self.edges_.lookup name).getD ∅))) ∅

def isEmpty (self : Graph K N E) : Bool := self.nodes_.keys.isEmpty && self.edges_.keys.isEmpty

end Graph

inductive GraphCall (K N E : Type) where
  | addNode (name : K)
  | addNodeData (name : K) (nodeData : N)
  | addEdge (fromEdge toEdge : K)
  | addEdgeData (fromEdge toEdge : K) (edgeData : E)

namespace Graph
variable {K N E T : Type} [LinearOrder K]

def apply (self : Graph K N E) : GraphCall K N E → Graph K N E
  | .addNode name => self.addNode name
  | .addNodeData name nodeData => self.addNodeData name nodeData
  | .addEdge fromEdge toEdge => self.addEdge fromEdge toEdge
  | .addEdgeData fromEdge toEdge edgeData => self.addEdgeData fromEdge toEdge edgeData

def build (calls : List (GraphCall K N E)) : Graph K N E := calls.foldl apply empty

end Graph

/-! ## what the calls say -/

namespace GraphCall
variable {K N E : Type} [DecidableEq K]

def source : GraphCall K N E → K
  | addNode name => name
  | addNodeData name _ => name
  | addEdge fromEdge _ => fromEdge
  | addEdgeData fromEdge _ _ => fromEdge

def target : GraphCall K N E → Option K
  | addEdge _ toEdge => some toEdge
  | addEdgeData _ toEdge _ => some toEdge
  | _ => none

def Names (call : GraphCall K N E) (name : K) : Prop := call.source = name ∨ call.target = some name

def Links (call : GraphCall K N E) (a b : K) : Prop := call.source = a ∧ call.target = some b

def nodeDatum (name : K) : GraphCall K N E → Option N
  | addNodeData name' nodeData => if name' = name then some nodeData else none
  | _ => none

def edgeDatum (a b : K) : GraphCall K N E → Option E
  | addEdgeData fromEdge toEdge edgeData =>
    if fromEdge = a ∧ toEdge = b then some edgeData else none
  | _ => none

instance (call : GraphCall K N E) (name : K) : Decidable (call.Names name) :=
  inferInstanceAs (Decidable (_ ∨ _))

instance (call : GraphCall K N E) (a b : K) : Decidable (call.Links a b) :=
  inferInstanceAs (Decidable (_ ∧ _))

end GraphCall

namespace Graph
variable {K N E T : Type} [LinearOrder K]

def link (self : Graph K N E) (a b : K) : Option (List E) :=
  (self.edges_.lookup a).bind fun links => links.lookup b

/-! ## one call -/

theorem lookup_setEmptyGraphData (name : K) (graph : Dict K (List T)) (k : K) :
    (setEmptyGraphData name graph).lookup k =
      if name = k then some ((graph.lookup k).getD []) else graph.lookup k := by
  rw [setEmptyGraphData, Dict.lookup_emplace]
  by_cases h : name = k
  · rw [if_pos h, if_pos h]
    cases graph.lookup k <;> rfl
  · rw [if_neg h, if_neg h, Option.or_none]

theorem lookup_setGraphData (name : K) (data : T) (graph : Dict K (List T)) (k : K) :
    (setGraphData name data graph).lookup k =
      if name = k then some ((graph.lookup k).getD [] ++ [data]) else graph.lookup k := by
  rw [setGraphData, Dict.lookup_insert_update]
  by_cases h : name = k
  · rw [if_pos h, ← h, Function.update_self, lookup_setEmptyGraphData, if_pos rfl, Option.getD_some]
  · rw [if_neg h, Function.update_of_ne (Ne.symm h), lookup_setEmptyGraphData, if_neg h]

theorem lookup_setLinks (name : K) (change : Dict K (List E) → Dict K (List E))
    (edges : Dict K (Dict K (List E))) (k : K) :
    (setLinks name change edges).lookup k =
      if name = k then some (change ((edges.lookup k).getD ∅)) else edges.lookup k := by
  rw [setLinks, Dict.lookup_insert_update, Dict.lookup_emplace]
  by_cases h : name = k
  · rw [if_pos h, ← h, Function.update_self, if_pos rfl]
    cases edges.lookup name <;> rfl
  · rw [if_neg h, Function.update_of_ne (Ne.symm h), Dict.lookup_emplace, if_neg h, Option.or_none]

theorem nodes_apply (self : Graph K N E) (call : GraphCall K N E) (k : K) :
    (self.apply call).nodes_.lookup k =
      if call.Names k then some ((self.nodes_.lookup k).getD [] ++ (call.nodeDatum k).toList)
      else self.nodes_.lookup k := by
  cases call with
  | addNode name =>
    show (setEmptyGraphData name self.nodes_).lookup k = _
    rw [lookup_setEmptyGraphData]
    simp [GraphCall.Names, GraphCall.source, GraphCall.target, GraphCall.nodeDatum]
  | addNodeData name nodeData =>
    show (setGraphData name nodeData self.nodes_).lookup k = _
    rw [lookup_setGraphData]
    by_cases h : name = k <;>
      simp [GraphCall.Names, GraphCall.source, GraphCall.target, GraphCall.nodeDatum, h]
  | addEdge fromEdge toEdge =>
    show (setEmptyGraphData toEdge (setEmptyGraphData fromEdge self.nodes_)).lookup k = _
    rw [lookup_setEmptyGraphData, lookup_setEmptyGraphData]
    by_cases hfrom : fromEdge = k <;> by_cases hto : toEdge = k <;>
      simp [GraphCall.Names, GraphCall.source, GraphCall.target, GraphCall.nodeDatum, hfrom, hto]
  | addEdgeData fromEdge toEdge edgeData =>
    show (setEmptyGraphData toEdge (setEmptyGraphData fromEdge self.nodes_)).lookup k = _
    rw [lookup_setEmptyGraphData, lookup_setEmptyGraphData]
    by_cases hfrom : fromEdge = k <;> by_cases hto : toEdge = k <;>
      simp [GraphCall.Names, GraphCall.source, GraphCall.target, GraphCall.nodeDatum, hfrom, hto]

theorem link_setLinks (edges : Dict K (Dict K (List E))) (name : K)
    (change : Dict K (List E) → Dict K (List E)) (a b : K) :
    ((setLinks name change edges).lookup a).bind (fun links => links.lookup b) =
      if name = a then (change ((edges.lookup a).getD ∅)).lookup b
      else (edges.lookup a).bind fun links => links.lookup b := by
  rw [lookup_setLinks]
  by_cases h : name = a
  · rw [if_pos h, if_pos h, Option.bind_some]
  · rw [if_neg h, if_neg h]

/-- a name without links has none -/
theorem lookup_getD (edges : Dict K (Dict K (List E))) (a b : K) :
    ((edges.lookup a).getD ∅).lookup b = (edges.lookup a).bind fun links => links.lookup b := by
  cases edges.lookup a <;> rfl

theorem link_apply (self : Graph K N E) (call : GraphCall K N E) (a b : K) :
    (self.apply call).link a b =
      if call.Links a b then some ((self.link a b).getD [] ++ (call.edgeDatum a b).toList)
      else self.link a b := by
  have hemplaced : ∀ name : K, ((self.edges_.emplace name ∅).lookup a).bind
      (fun links => links.lookup b) = self.link a b := by
    intro name
    unfold link
    rw [Dict.lookup_emplace]
    by_cases h : name = a
    · rw [if_pos h]
      cases self.edges_.lookup a <;> rfl
    · rw [if_neg h, Option.or_none]
  cases call with
  | addNode name =>
    rw [if_neg (by simp [GraphCall.Links, GraphCall.target])]
    exact hemplaced name
  | addNodeData name nodeData =>
    rw [if_neg (by simp [GraphCall.Links, GraphCall.target])]
    exact hemplaced name
  | addEdge fromEdge toEdge =>
    show ((setLinks fromEdge _ self.edges_).lookup a).bind _ = _
    rw [link_setLinks, lookup_setEmptyGraphData, lookup_getD]
    by_cases hfrom : fromEdge = a <;> by_cases hto : toEdge = b <;>
      simp [GraphCall.Links, GraphCall.source, GraphCall.target, GraphCall.edgeDatum, link, hfrom,
        hto]
  | addEdgeData fromEdge toEdge edgeData =>
    show ((setLinks fromEdge _ self.edges_).lookup a).bind _ = _
    rw [link_setLinks, lookup_setGraphData, lookup_getD]
    by_cases hfrom : fromEdge = a <;> by_cases hto : toEdge = b <;>
      simp [GraphCall.Links, GraphCall.source, GraphCall.target, GraphCall.edgeDatum, link, hfrom,
        hto]

theorem mem_edges_apply (self : Graph K N E) (call : GraphCall K N E) (k : K) :
    k ∈ (self.apply call).edges_ ↔ call.source = k ∨ k ∈ self.edges_ := by
  have hlinks : ∀ (name : K) (change : Dict K (List E) → Dict K (List E)),
      k ∈ setLinks name change self.edges_ ↔ name = k ∨ k ∈ self.edges_ := by
    intro name change
    rw [← AList.lookup_isSome, ← AList.lookup_isSome, lookup_setLinks]
    by_cases h : name = k <;> simp [h]
  cases call with
  | addNode name => exact Dict.mem_emplace.trans (or_congr_left eq_comm)
  | addNodeData name nodeData => exact Dict.mem_emplace.trans (or_congr_left eq_comm)
  | addEdge fromEdge toEdge => exact hlinks _ _
  | addEdgeData fromEdge toEdge edgeData => exact hlinks _ _

/-! ## all calls -/

theorem nodeDatum_of_not_names {call : GraphCall K N E} {k : K} (h : ¬ call.Names k) :
    call.nodeDatum k = none := by
  cases call with
  | addNodeData name nodeData =>
    have hne : name ≠ k := fun heq => h (.inl heq)
    simp [GraphCall.nodeDatum, hne]
  | _ => rfl

theorem edgeDatum_of_not_links {call : GraphCall K N E} {a b : K} (h : ¬ call.Links a b) :
    call.edgeDatum a b = none := by
  cases call with
  | addEdgeData fromEdge toEdge edgeData =>
    have hne : ¬ (fromEdge = a ∧ toEdge = b) := fun heq => h ⟨heq.1, congrArg some heq.2⟩
    simp [GraphCall.edgeDatum, hne]
  | _ => rfl

theorem build_snoc (calls : List (GraphCall K N E)) (call : GraphCall K N E) :
    build (calls ++ [call]) = (build calls).apply call := by
  simp [build]

theorem entry_of_calls {C D : Type} {P : C → Prop} [DecidablePred P] {datum : C → Option D}
    (hdatum : ∀ c, ¬ P c → datum c = none) (entry : List C → Option (List D))
    (hnil : entry [] = none) (hsnoc : ∀ cs c, entry (cs ++ [c]) =
      if P c then some ((entry cs).getD [] ++ (datum c).toList) else entry cs) (cs : List C) :
    entry cs = if ∃ c ∈ cs, P c then some (cs.filterMap datum) else none := by
  induction cs using List.reverseRecOn with
  | nil => simpa using hnil
  | append_singleton cs c ih =>
    have hlast : [c].filterMap datum = (datum c).toList := by
      cases h : datum c <;> simp [h]
    rw [hsnoc, ih, List.filterMap_append, hlast]
    by_cases hc : P c
    · have hsome : ∃ c' ∈ cs ++ [c], P c' := ⟨c, by simp, hc⟩
      rw [if_pos hc, if_pos hsome]
      by_cases hex : ∃ c' ∈ cs, P c'
      · rw [if_pos hex, Option.getD_some]
      · have hempty : cs.filterMap datum = [] := by
          rw [List.filterMap_eq_nil_iff]
          exact fun c' hc' => hdatum c' fun hP => hex ⟨c', hc', hP⟩
        rw [if_neg hex, hempty, Option.getD_none]
    · have hiff : (∃ c' ∈ cs ++ [c], P c') ↔ ∃ c' ∈ cs, P c' := by
        simp [or_and_right, exists_or, hc]
      rw [if_neg hc, hdatum c hc, Option.toList_none, List.append_nil]
      simp only [hiff]

theorem nodes_build (calls : List (GraphCall K N E)) (k : K) :
    (build calls).nodes_.lookup k =
      if ∃ call ∈ calls, call.Names k then some (calls.filterMap (GraphCall.nodeDatum k))
      else none := by
  refine entry_of_calls (fun call => nodeDatum_of_not_names)
    (fun cs => (build cs).nodes_.lookup k) rfl (fun cs c => ?_) calls
  show (build (cs ++ [c])).nodes_.lookup k = _
  rw [build_snoc, nodes_apply]

theorem link_build (calls : List (GraphCall K N E)) (a b : K) :
    (build calls).link a b =
      if ∃ call ∈ calls, call.Links a b then some (calls.filterMap (GraphCall.edgeDatum a b))
      else none := by
  refine entry_of_calls (fun call => edgeDatum_of_not_links)
    (fun cs => (build cs).link a b) rfl (fun cs c => ?_) calls
  show (build (cs ++ [c])).link a b = _
  rw [build_snoc, link_apply]

theorem mem_nodes_build (calls : List (GraphCall K N E)) (k : K) :
    k ∈ (build calls).nodes_ ↔ ∃ call ∈ calls, call.Names k := by
  rw [← AList.lookup_isSome, nodes_build]
  by_cases h : ∃ call ∈ calls, call.Names k <;> simp [h]

/-- only the source of a call is in the map of the edges -/
theorem mem_edges_build (calls : List (GraphCall K N E)) (k : K) :
    k ∈ (build calls).edges_ ↔ ∃ call ∈ calls, call.source = k := by
  induction calls using List.reverseRecOn with
  | nil => simp [build, empty]
  | append_singleton calls call ih =>
    rw [build_snoc, mem_edges_apply, ih]
    simp [or_and_right, exists_or, or_comm]

/-! ## the adjacency list -/

theorem keysInOrder_perm {V : Type} (m : Dict K V) : (keysInOrder m).Perm m.keys :=
  List.mergeSort_perm _ _

theorem keysInOrder_nodup {V : Type} (m : Dict K V) : (keysInOrder m).Nodup :=
  (keysInOrder_perm m).nodup_iff.mpr m.keys_nodup

theorem mem_keysInOrder {V : Type} (m : Dict K V) (k : K) : k ∈ keysInOrder m ↔ k ∈ m :=
  (keysInOrder_perm m).mem_iff

theorem lookup_foldl_emplace {V : Type} (f : K → V) (names : List K) (m : Dict K V) (k : K) :
    (names.foldl (fun m name => m.emplace name (f name)) m).lookup k =
      (m.lookup k).or (if k ∈ names then some (f k) else none) := by
  induction names generalizing m with
  | nil => simp
  | cons name names ih =>
    rw [List.foldl_cons, ih, Dict.lookup_emplace, Option.or_assoc]
    by_cases h : name = k
    · simp [h]
    · simp [h, Ne.symm h]

theorem lookup_getAdjacencyList (self : Graph K N E) (k : K) :
    self.getAdjacencyList.lookup k = (self.edges_.lookup k).map keysInOrder := by
  rw [getAdjacencyList, lookup_foldl_emplace]
  simp only [mem_keysInOrder]
  by_cases h : k ∈ self.edges_
  · obtain ⟨links, hlinks⟩ := Option.isSome_iff_exists.mp (AList.lookup_isSome.mpr h)
    simp [h, hlinks]
  · simp [h, AList.lookup_eq_none.mpr h]

/-- only the graph of no calls is empty -/
theorem build_isEmpty_iff (calls : List (GraphCall K N E)) :
    (build calls).isEmpty = true ↔ calls = [] := by
  constructor
  · intro h
    cases calls with
    | nil => rfl
    | cons call calls =>
      have hnode : call.source ∈ (build (call :: calls)).nodes_ := by
        rw [mem_nodes_build]
        exact ⟨call, List.mem_cons_self, .inl rfl⟩
      unfold isEmpty at h
      rw [Bool.and_eq_true, List.isEmpty_iff] at h
      have hkey : call.source ∈ (build (call :: calls)).nodes_.keys := hnode
      rw [h.1] at hkey
      cases hkey
  · rintro rfl
    rfl

/-! ## what a graph should hold -/

/-- the graph of the calls: the ends of edges are nodes, the three maps have the same keys, an
adjacency list holds the successors of its node once, the data is in the order of the calls, and the
nodes and edges do not depend on that order -/
structure Represents (calls : List (GraphCall K N E)) (graph : Graph K N E) : Prop where
  endpoints : ∀ a b, (graph.link a b).isSome = true → a ∈ graph.nodes_ ∧ b ∈ graph.nodes_
  edgeKeys : ∀ k, k ∈ graph.edges_ ↔ k ∈ graph.nodes_
  adjacencyKeys : ∀ k, k ∈ graph.getAdjacencyList ↔ k ∈ graph.nodes_
  successors : ∀ k list, graph.getAdjacencyList.lookup k = some list →
    list.Nodup ∧ ∀ j, j ∈ list ↔ ∃ call ∈ calls, call.Links k j
  nodeData : ∀ k, (graph.nodes_.lookup k).getD [] = calls.filterMap (GraphCall.nodeDatum k)
  edgeData : ∀ a b, (graph.link a b).getD [] = calls.filterMap (GraphCall.edgeDatum a b)
  order : ∀ calls' : List (GraphCall K N E), calls'.Perm calls →
    (∀ k, k ∈ (build calls').nodes_ ↔ k ∈ graph.nodes_) ∧
      ∀ a b, ((build calls').link a b).isSome = (graph.link a b).isSome

theorem link_build_isSome (calls : List (GraphCall K N E)) (a b : K) :
    ((build calls).link a b).isSome = true ↔ ∃ call ∈ calls, call.Links a b := by
  rw [link_build]
  by_cases h : ∃ call ∈ calls, call.Links a b <;> simp [h]

theorem build_endpoints (calls : List (GraphCall K N E)) (a b : K)
    (h : ((build calls).link a b).isSome = true) :
    a ∈ (build calls).nodes_ ∧ b ∈ (build calls).nodes_ := by
  obtain ⟨call, hcall, hsource, htarget⟩ := (link_build_isSome calls a b).mp h
  rw [mem_nodes_build, mem_nodes_build]
  exact ⟨⟨call, hcall, .inl hsource⟩, ⟨call, hcall, .inr htarget⟩⟩

theorem mem_getAdjacencyList (graph : Graph K N E) (k : K) :
    k ∈ graph.getAdjacencyList ↔ k ∈ graph.edges_ := by
  rw [← AList.lookup_isSome, lookup_getAdjacencyList, Option.isSome_map, AList.lookup_isSome]

theorem build_successors (calls : List (GraphCall K N E)) (k : K) (list : List K)
    (h : (build calls).getAdjacencyList.lookup k = some list) :
    list.Nodup ∧ ∀ j, j ∈ list ↔ ∃ call ∈ calls, call.Links k j := by
  rw [lookup_getAdjacencyList] at h
  obtain ⟨links, hlinks, rfl⟩ := Option.map_eq_some_iff.mp h
  refine ⟨keysInOrder_nodup links, fun j => ?_⟩
  rw [mem_keysInOrder, ← AList.lookup_isSome, ← link_build_isSome, link, hlinks, Option.bind_some]

theorem build_nodeData (calls : List (GraphCall K N E)) (k : K) :
    ((build calls).nodes_.lookup k).getD [] = calls.filterMap (GraphCall.nodeDatum k) := by
  rw [nodes_build]
  by_cases h : ∃ call ∈ calls, call.Names k
  · rw [if_pos h, Option.getD_some]
  · rw [if_neg h, Option.getD_none, eq_comm, List.filterMap_eq_nil_iff]
    exact fun call hcall => nodeDatum_of_not_names fun hnames => h ⟨call, hcall, hnames⟩

theorem build_edgeData (calls : List (GraphCall K N E)) (a b : K) :
    ((build calls).link a b).getD [] = calls.filterMap (GraphCall.edgeDatum a b) := by
  rw [link_build]
  by_cases h : ∃ call ∈ calls, call.Links a b
  · rw [if_pos h, Option.getD_some]
  · rw [if_neg h, Option.getD_none, eq_comm, List.filterMap_eq_nil_iff]
    exact fun call hcall => edgeDatum_of_not_links fun hlinks => h ⟨call, hcall, hlinks⟩

theorem build_order {calls calls' : List (GraphCall K N E)} (h : calls'.Perm calls) :
    (∀ k, k ∈ (build calls').nodes_ ↔ k ∈ (build calls).nodes_) ∧
      ∀ a b, ((build calls').link a b).isSome = ((build calls).link a b).isSome := by
  constructor
  · intro k
    rw [mem_nodes_build, mem_nodes_build]
    simp only [h.mem_iff]
  · intro a b
    rw [Bool.eq_iff_iff, link_build_isSome, link_build_isSome]
    simp only [h.mem_iff]

/-- **The graph of a sequence of calls.**  It holds what the calls say, with the same keys in its
three maps exactly when the target of every edge is also the source of an edge or an added node. -/
theorem build_represents_iff (calls : List (GraphCall K N E)) :
    (build calls).Represents calls ↔
      ∀ call ∈ calls, ∀ name, call.target = some name → ∃ other ∈ calls, other.source = name := by
  constructor
  · intro h call hcall name htarget
    rw [← mem_edges_build, h.edgeKeys, mem_nodes_build]
    exact ⟨call, hcall, .inr htarget⟩
  · intro h
    have hkeys : ∀ k, k ∈ (build calls).edges_ ↔ k ∈ (build calls).nodes_ := by
      intro k
      rw [mem_edges_build, mem_nodes_build]
      constructor
      · rintro ⟨call, hcall, hsource⟩
        exact ⟨call, hcall, .inl hsource⟩
      · rintro ⟨call, hcall, hsource | htarget⟩
        · exact ⟨call, hcall, hsource⟩
        · exact h call hcall k htarget
    exact {
      endpoints := build_endpoints calls
      edgeKeys := hkeys
      adjacencyKeys := fun k => (mem_getAdjacencyList _ k).trans (hkeys k)
      successors := build_successors calls
      nodeData := build_nodeData calls
      edgeData := build_edgeData calls
      order := fun _ => build_order }

/-- one edge: its target is a node and has no adjacency list -/
theorem target_forgotten :
    1 ∈ (build [GraphCall.addEdge (N := Unit) (E := Unit) 0 1]).nodes_ ∧
      1 ∉ (build [GraphCall.addEdge (N := Unit) (E := Unit) 0 1]).getAdjacencyList ∧
      ¬ (build [GraphCall.addEdge (N := Unit) (E := Unit) 0 1]).Represents
        [GraphCall.addEdge (N := Unit) (E := Unit) 0 1] := by
  have hnode : 1 ∈ (build [GraphCall.addEdge (N := Unit) (E := Unit) 0 1]).nodes_ := by
    rw [mem_nodes_build]
    exact ⟨_, List.mem_cons_self, .inr rfl⟩
  have hforgotten :
      1 ∉ (build [GraphCall.addEdge (N := Unit) (E := Unit) 0 1]).getAdjacencyList := by
    rw [mem_getAdjacencyList, mem_edges_build]
    simp [GraphCall.source]
  exact ⟨hnode, hforgotten, fun h => hforgotten ((h.adjacencyKeys 1).mpr hnode)⟩

end Graph
end Evget
