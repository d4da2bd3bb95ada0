import DiskFleet.Text.Quoted

/-!
# Why an operation is refused

Every operation that can fail answers with a `Failure`. A failure says what went wrong as data: the
object that is missing, the rule of the life cycle that forbids the step, the policy that the
request breaks. `Failure.category` sorts failures into the few classes that a caller can act on, and
`Failure.message` is the only place where their wording is fixed.

Each class of rule also has a constructor `stated` for a reason that is given as a text, by a node
that could not be reached or by a settings file that was refused.
-/

namespace DiskFleet

/-- A step that the life cycle of an object does not allow in its present state. -/
inductive IllegalTransition
  | poolOwnsResources (pool : String)
  | destroyAllocated (resource : String)
  | unbindLastNode (resource : String)
  /-- No node is bound, so `action` (past participle) has nowhere to run. -/
  | notBound (resource action : String)
  | shrink (volume : String) (current requested : Nat)
  | imageNotBound (image : String)
  | notTop (layer image : String)
  | layerExists (layer image : String)
  | removeLastLayer (layer image : String)
  | removeOnlyChainLayer (layer image : String)
  | removeBelowTop (layer image : String)
  | removeAllocated (layer : String)
  | namedAfterTop (image top : String)
  | noBackups (image : String)
  | imageAllocated (layer image : String)
  | layerWithoutObject (layer : String)
  | stated (reason : String)
deriving DecidableEq, Repr

/-- A set of nodes or a pool policy that forbids the request. -/
inductive PolicyViolation
  | nodesOutsidePool (nodes : List String) (pool : String)
  | nodesOutsideImage (nodes : List String) (image : String)
  | noBridge (pool node : String)
  | noPoolMeets (resourceType resource : String)
  | noBackupPool (node image : String)
  | stated (reason : String)
deriving DecidableEq, Repr

/-- A malformed request, parameter or setting. -/
inductive InvalidRequest
  | size (text : String)
  | sizeUnit (text : String)
  | volumeGroupMissing
  | poolNameMissing
  | nodeInterface (text : String)
  | switchMissing
  | foreignPool (resource : String) (named : Option String) (pool : String)
  | poolUnnamed (resource : String)
  | noFilesystem (pool volume : String)
  | noVolumeGroup (pool volume : String)
  | noBlockPool (pool volume : String)
  | requestNotMap
  | requestCount (count : Nat)
  | badArguments (command : String)
  | imageType (text : String)
  | layerFormat (text : String)
  | stated (reason : String)
deriving DecidableEq, Repr

/-- A state that the operations never build themselves, but that a given document can carry. -/
inductive InternalFault
  | notVolumeSpec (volume : String)
  | emptyTopology (image : String)
  | unreadableDocument
  | stated (reason : String)
deriving DecidableEq, Repr

/-- Why an operation is refused. -/
inductive Failure
  | poolNotFound (pool : String)
  | resourceNotFound (resource : String)
  | imageNotFound (image : String)
  | layerNotFound (image layer : String)
  | nodeNotFound (tag : String)
  | pathNotFound (path : String)
  | illegalTransition (cause : IllegalTransition)
  | policyViolation (cause : PolicyViolation)
  /-- The agent of `node` answered with a status other than zero. -/
  | remote (node : String) (status : Int) (text : String)
  | typeMismatch (resourceType pool : String)
  | unsupportedCommand (command target : String)
  | invalidRequest (cause : InvalidRequest)
  | internal (cause : InternalFault)
deriving DecidableEq, Repr

/-- The classes of failure that a caller can act on. -/
inductive Failure.Category
  | notFound
  | illegalTransition
  | policyViolation
  | remote
  | typeMismatch
  | invalidRequest
  | internal
deriving DecidableEq, Repr

namespace IllegalTransition

def message : IllegalTransition → String
  | poolOwnsResources pool => "Pool " ++ pool ++ " still owns resources"
  | destroyAllocated resource =>
    "Resource " ++ resource ++ " is still allocated and cannot be destroyed"
  | unbindLastNode resource =>
    "Resource " ++ resource ++ " is still allocated, release it before unbinding its last node"
  | notBound resource action =>
    "Resource " ++ resource ++ " is not bound to any node and cannot be " ++ action
  | shrink volume current requested =>
    "Cannot shrink volume " ++ volume ++ " from " ++ toString current ++ " to " ++
      toString requested ++ " bytes"
  | imageNotBound image => "Image " ++ image ++ " is not bound to any node"
  | notTop layer image => "Layer " ++ layer ++ " is not the top of image " ++ image
  | layerExists layer image => "Layer " ++ layer ++ " already exists in image " ++ image
  | removeLastLayer layer image =>
    "Cannot remove " ++ layer ++ ", the last layer of image " ++ image
  | removeOnlyChainLayer layer image =>
    "Cannot remove " ++ layer ++ ", the only layer of image " ++ image
  | removeBelowTop layer image =>
    "Cannot remove " ++ layer ++ ", only the top of image " ++ image ++ " can be removed"
  | removeAllocated layer => "Layer " ++ layer ++ " is still allocated, destroy it first"
  | namedAfterTop image top => "Image " ++ image ++ " is named after its top layer " ++ top
  | noBackups image => "Image " ++ image ++ " has no backups to restore"
  | imageAllocated layer image =>
    "Layer " ++ layer ++ " of image " ++ image ++ " is still allocated"
  | layerWithoutObject layer => "Layer " ++ layer ++ " has no object yet"
  | stated reason => reason

end IllegalTransition

namespace PolicyViolation

def message : PolicyViolation → String
  | nodesOutsidePool nodes pool =>
    "Nodes " ++ Text.quotedList nodes ++ " cannot access pool " ++ pool
  | nodesOutsideImage nodes image =>
    "Nodes " ++ Text.quotedList nodes ++ " cannot access image " ++ image
  | noBridge pool node => "Pool " ++ pool ++ " has no bridge on node " ++ node
  | noPoolMeets resourceType resource =>
    "No pool meets the request for " ++ resourceType ++ " resource " ++ resource
  | noBackupPool node image =>
    "No filesystem pool reachable from " ++ node ++ " for backups of image " ++ image
  | stated reason => reason

end PolicyViolation

namespace InvalidRequest

def message : InvalidRequest → String
  | size text => "Invalid size: " ++ text
  | sizeUnit text => "Invalid size unit: " ++ text
  | volumeGroupMissing => "LVM pool requires volume_group"
  | poolNameMissing => "RBD pool requires pool_name"
  | nodeInterface text => "Expected node:ifname, got " ++ text
  | switchMissing => "Bridge pool requires switch interfaces"
  | foreignPool resource named pool =>
    "Resource " ++ resource ++ " belongs to pool " ++ Text.quotedOption named ++ ", not " ++ pool
  | poolUnnamed resource => "Resource " ++ resource ++ " names no pool"
  | noFilesystem pool volume => "Pool " ++ pool ++ " has no filesystem path for volume " ++ volume
  | noVolumeGroup pool volume => "Pool " ++ pool ++ " has no volume group for volume " ++ volume
  | noBlockPool pool volume => "Pool " ++ pool ++ " has no RBD pool for volume " ++ volume
  | requestNotMap => "Command request must be a \x7bcommand: arguments\x7d map"
  | requestCount count => "Command request must hold exactly one command, got " ++ toString count
  | badArguments command => "Bad arguments for " ++ command
  | imageType text => "Unknown image type: " ++ text
  | layerFormat text => "Unknown image format: " ++ text
  | stated reason => reason

end InvalidRequest

namespace InternalFault

def message : InternalFault → String
  | notVolumeSpec volume => "Volume " ++ volume ++ " carries a non-volume spec"
  | emptyTopology image => "Image " ++ image ++ " has an empty topology"
  | unreadableDocument => "Document serialization failed"
  | stated reason => reason

end InternalFault

namespace Failure

/-- The class of a failure. -/
def category : Failure → Category
  | poolNotFound _ | resourceNotFound _ | imageNotFound _ | layerNotFound .. | nodeNotFound _
  | pathNotFound _ => .notFound
  | illegalTransition _ => .illegalTransition
  | policyViolation _ => .policyViolation
  | remote .. => .remote
  | typeMismatch .. => .typeMismatch
  | unsupportedCommand .. | invalidRequest _ => .invalidRequest
  | internal _ => .internal

/-- The text shown for a failure. -/
def message : Failure → String
  | poolNotFound pool => "Pool not found: " ++ pool
  | resourceNotFound resource => "Resource not found: " ++ resource
  | imageNotFound image => "Image not found: " ++ image
  | layerNotFound image layer => "Layer " ++ layer ++ " not found in image " ++ image
  | nodeNotFound tag => "Node not found for tag: " ++ tag
  | pathNotFound path => "Invalid query path: " ++ path
  | illegalTransition cause => "Illegal transition: " ++ cause.message
  | policyViolation cause => "Policy violation: " ++ cause.message
  | remote _ _ text => text
  | typeMismatch resourceType pool =>
    "The " ++ resourceType ++ " type resource is not supported by pool " ++ pool
  | unsupportedCommand command target => "Unsupported command " ++ command ++ " for " ++ target
  | invalidRequest cause => "Invalid request: " ++ cause.message
  | internal cause => "Internal error: " ++ cause.message

/-- The text that a node agent gave, if it was an agent that failed. -/
def remoteText? : Failure → Option String
  | remote _ _ text => some text
  | _ => none

end Failure

end DiskFleet
