import DiskFleet.Config.Basic
import DiskFleet.Json.Record

/-!
# Reading settings

Settings are read from document trees and from YAML text by the same rules. What differs is how a
text, a count, a list, a map, a record or a word for an alternative is written: a `Source` is a kind
of tree that answers these questions, and `Config.read?` needs nothing else.

Every field may be missing except the name of a node and the name and kind of a pool. A field that
is there must have the right form; fields that nothing asks for are ignored.
-/

namespace DiskFleet

/-- A kind of tree that settings can be read from. -/
class Source (δ : Type) where
  text? : δ → Option String
  count? : δ → Option Nat
  items? : δ → Option (List δ)
  members? : δ → Option (List (String × δ))
  /-- A record with at most so many fields. -/
  record? : Nat → δ → Option (Record δ)
  /-- The word for an alternative without content. -/
  word? : δ → Option String

instance : Source Json where
  text? := Json.asText?
  count? json := json.asWord64?.map UInt64.toNat
  items? := Json.asItems?
  members?
    | .obj members => some members
    | _ => none
  record? := Json.record?
  word? := Json.asWord?

namespace Source

variable {δ : Type} [Source δ]

def texts? (tree : δ) : Option (List String) := do
  let items ← items? tree
  items.mapM text?

def listOf? {α : Type} (read? : δ → Option α) (tree : δ) : Option (List α) := do
  let items ← items? tree
  items.mapM read?

/-- Parameters; of two with one key the later wins. -/
def params? (tree : δ) : Option Params := do
  let members ← members? tree
  let pairs ← members.mapM fun entry => (text? entry.2).map (entry.1, ·)
  return .ofList pairs

end Source

namespace Config

variable {δ : Type} [Source δ]

def readNode? (tree : δ) : Option NodeDeclaration := do
  let record ← Source.record? 2 tree
  return {
    name := ← record.required 0 "name" Source.text?
    tags := ← record.orElse 1 ["tags"] Source.texts? [] }

def readPool? (tree : δ) : Option PoolDeclaration := do
  let record ← Source.record? 4 tree
  return {
    name := ← record.required 0 "name" Source.text?
    kind := ← record.required 1 "type" fun word => (Source.word? word).bind PoolKind.ofWord?
    access := ← record.orElse 2 ["access"] Source.texts? [everyNode]
    params := ← record.orElse 3 ["params"] Source.params? .empty }

/-- The cluster section: nodes and partition. -/
def readCluster? (tree : δ) : Option (List NodeDeclaration × List String) := do
  let record ← Source.record? 2 tree
  let nodes ← record.orElse 0 ["nodes"] (Source.listOf? readNode?) []
  let partition ← record.orElse 1 ["partition"] Source.texts? []
  return (nodes, partition)

/-- The image section: format and size of layers, length of suffixes. -/
def readImages? (tree : δ) : Option (String × String × Nat) := do
  let record ← Source.record? 3 tree
  let format ← record.orElse 0 ["default_format"] Source.text? default.layerFormat
  let size ← record.orElse 1 ["default_size"] Source.text? default.layerSize
  let length ← record.orElse 2 ["suffix_length"] Source.count? default.suffixLength
  return (format, size, length)

/-- The logging section: level and format. -/
def readLogging? (tree : δ) : Option (String × String) := do
  let record ← Source.record? 2 tree
  let level ← record.orElse 0 ["level"] Source.text? default.logLevel
  let format ← record.orElse 1 ["format"] Source.text? default.logFormat
  return (level, format)

/-- The settings that a tree holds. -/
def read? (tree : δ) : Option Config := do
  let record ← Source.record? 5 tree
  let (nodes, partition) ← record.orElse 0 ["cluster"] readCluster? ([], [])
  let pools ← record.orElse 1 ["pools"] (Source.listOf? readPool?) []
  let (layerFormat, layerSize, suffixLength) ←
    record.orElse 2 ["images"] readImages?
      (default.layerFormat, default.layerSize, default.suffixLength)
  let recovery ← record.orElse 3 ["recovery"]
    (fun word => (Source.word? word).bind Recovery.ofWord?) default.recovery
  let (logLevel, logFormat) ←
    record.orElse 4 ["logging"] readLogging? (default.logLevel, default.logFormat)
  return {
    nodes, partition, pools, layerFormat, layerSize, suffixLength, recovery, logLevel, logFormat }

/-! ## Settings as a tree -/

def nodeToJson (node : NodeDeclaration) : Json :=
  .obj [("name", .str node.name), ("tags", .ofTexts node.tags)]

def poolToJson (pool : PoolDeclaration) : Json :=
  .obj [("access", .ofTexts pool.access), ("name", .str pool.name), ("params", pool.params.toJson),
    ("type", .str pool.kind.word)]

/-- The settings as a tree, every field written out. -/
def toJson (config : Config) : Json :=
  .obj [
    ("cluster", .obj [("nodes", .arr (config.nodes.map nodeToJson)),
      ("partition", .ofTexts config.partition)]),
    ("images", .obj [("default_format", .str config.layerFormat),
      ("default_size", .str config.layerSize), ("suffix_length", .ofNat config.suffixLength)]),
    ("logging", .obj [("format", .str config.logFormat), ("level", .str config.logLevel)]),
    ("pools", .arr (config.pools.map poolToJson)),
    ("recovery", .str config.recovery.word)]

end Config

end DiskFleet
