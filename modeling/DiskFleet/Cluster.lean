import DiskFleet.Failure
import DiskFleet.Map.Sorted

/-!
# The cluster

A cluster is a fixed set of worker nodes. A node is addressed by a tag: its own name, or one of the
tags declared for it. Where two declarations use one tag, the later one has it. The partition is the
part of the cluster that a run works on, by default all of it.
-/

namespace DiskFleet

/-- A declared node and the further tags it answers to. -/
structure NodeDeclaration where
  name : String
  tags : List String
deriving DecidableEq, Repr

/-- A set of texts in increasing order. -/
abbrev NameSet := SortedMap Unit

namespace NameSet

def ofList (names : List String) : NameSet := SortedMap.ofList (names.map fun name => (name, ()))

end NameSet

/-- The nodes of a cluster, the node that each tag means, and the nodes of the partition. -/
structure Cluster where
  nodes : NameSet
  tags : SortedMap String
  partition : NameSet
deriving DecidableEq

namespace Cluster

/-- The tags that one declaration adds: its own name first, then the others in order. -/
def declareNode (tags : SortedMap String) (node : NodeDeclaration) : SortedMap String :=
  node.tags.foldl (fun tags tag => tags.insert tag node.name) (tags.insert node.name node.name)

/-- The cluster of a list of declarations. No partition means all nodes. -/
def ofDeclarations (nodes : List NodeDeclaration) (partition : List String) : Cluster :=
  let names := NameSet.ofList (nodes.map (·.name))
  { nodes := names
    tags := nodes.foldl declareNode ∅
    partition := if partition.isEmpty then names else NameSet.ofList partition }

/-- The cluster of nodes that are addressed by name only. -/
def ofNames (names : List String) : Cluster :=
  ofDeclarations (names.map fun name => ⟨name, []⟩) []

/-- The node that a tag means. -/
def resolve (cluster : Cluster) (tag : String) : Except Failure String :=
  match cluster.tags.get? tag with
  | some node => .ok node
  | none => .error (.nodeNotFound tag)

/-- The nodes that a list of tags means; the first unknown tag is refused. -/
def resolveAll (cluster : Cluster) : List String → Except Failure (List String)
  | [] => .ok []
  | tag :: rest => do
    let node ← cluster.resolve tag
    let nodes ← cluster.resolveAll rest
    return node :: nodes

/-- The names of all nodes, in order. -/
def nodeNames (cluster : Cluster) : List String := cluster.nodes.keys

/-- The names of the nodes of the partition, in order. -/
def partitionNames (cluster : Cluster) : List String := cluster.partition.keys

end Cluster

end DiskFleet
