import DiskFleet.Image.Settings
import DiskFleet.Logging.Format

/-!
# Settings of an engine

An engine is set up from its settings: the nodes of the cluster and the partition it works on, the
pools it starts with, the defaults for images, what becomes of partial results, and how it logs.
`Config.check` refuses settings whose sections do not fit together, and says why.

The checks run in a fixed order and the first problem is reported: repeated nodes, the partition,
each pool in turn, the length of suffixes, the size of layers, the form of log lines.
-/

namespace DiskFleet

/-- A pool that the engine starts with. -/
structure PoolDeclaration where
  name : String
  kind : PoolKind
  /-- Tags of nodes, or `*` for every node. -/
  access : List String
  params : Params
deriving DecidableEq

namespace PoolDeclaration

/-- The parameters that define the pool, its access list among them. -/
def definitionParams (pool : PoolDeclaration) : Params :=
  pool.params.set "access_nodes" (" ".intercalate pool.access)

end PoolDeclaration

/-- The settings of an engine. -/
structure Config where
  nodes : List NodeDeclaration
  partition : List String
  pools : List PoolDeclaration
  layerFormat : String
  layerSize : String
  suffixLength : Nat
  recovery : Recovery
  logLevel : String
  logFormat : String
deriving DecidableEq

namespace Config

/-- The settings that hold where nothing is said. -/
def default : Config :=
  { nodes := [], partition := [], pools := []
    layerFormat := defaultImageFormat, layerSize := defaultVolumeSize
    suffixLength := defaultSuffixLength, recovery := .leave
    logLevel := "info", logFormat := "pretty" }

/-- Why settings do not fit together. -/
inductive Problem
  | repeatedNode
  | foreignPartition (node : String)
  | repeatedPool (pool : String)
  | foreignAccess (pool node : String)
  | noSuffix
  | layerSize (text : String) (cause : Failure)
  | logFormat (word : String)
deriving DecidableEq, Repr

def Problem.message : Problem → String
  | repeatedNode => "Duplicate node names in cluster configuration"
  | foreignPartition node => "Partition node " ++ node ++ " is not a cluster node"
  | repeatedPool pool => "Duplicate pool name " ++ pool
  | foreignAccess pool node => "Pool " ++ pool ++ " grants access to unknown node " ++ node
  | noSuffix => "images.suffix_length must be greater than 0"
  | layerSize text cause => "Invalid images.default_size " ++ text ++ ": " ++ cause.message
  | logFormat word => "Invalid logging.format: " ++ LogFormat.unknownMessage word

/-- Whether a list holds no text twice. -/
def isDistinct : List String → Bool
  | [] => true
  | text :: rest => !rest.contains text && isDistinct rest

/-- Checks pools in turn against the names of the pools before them and of the nodes. -/
def checkPools (nodes : List String) (before : List String) :
    List PoolDeclaration → Except Problem Unit
  | [] => .ok ()
  | pool :: rest =>
    if before.contains pool.name then .error (.repeatedPool pool.name)
    else
      match pool.access.find? fun node => node ≠ everyNode ∧ !nodes.contains node with
      | some node => .error (.foreignAccess pool.name node)
      | none => checkPools nodes (pool.name :: before) rest

/-- Checks that the sections of the settings fit together. -/
def check (config : Config) : Except Problem Unit := do
  let nodes := config.nodes.map (·.name)
  if !isDistinct nodes then throw .repeatedNode
  match config.partition.find? fun node => !nodes.contains node with
  | some node => throw (.foreignPartition node)
  | none => pure ()
  checkPools nodes [] config.pools
  if config.suffixLength = 0 then throw .noSuffix
  match Size.parse config.layerSize with
  | .error cause => throw (.layerSize config.layerSize cause)
  | .ok _ => pure ()
  match LogFormat.ofWord config.logFormat with
  | .error word => throw (.logFormat word)
  | .ok _ => pure ()

/-- The cluster of the settings. -/
def cluster (config : Config) : Cluster := .ofDeclarations config.nodes config.partition

/-- The settings that image operations work with. -/
def imageSettings (config : Config) : ImageSettings :=
  { recovery := config.recovery, suffixLength := config.suffixLength
    layerFormat := config.layerFormat, layerSize := config.layerSize }

end Config

end DiskFleet
