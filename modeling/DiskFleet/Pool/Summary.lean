import DiskFleet.Pool.Basic
import DiskFleet.Text.Quoted

/-!
# Pools in diagnostics

For diagnostics a pool object is shown on one line: its whole document, every section whether it is
there or not, and the number of its resources. A record shows its name and its fields in order, a
map its entries, and every text is quoted.
-/

namespace DiskFleet

/-- Something between braces, with blanks inside. -/
def inBraces (text : String) : String := "\x7b " ++ text ++ " \x7d"

/-- A record: its name, and each field with its value. -/
def showRecord (name : String) (fields : List (String × String)) : String :=
  name ++ " " ++ inBraces (", ".intercalate (fields.map fun field => field.1 ++ ": " ++ field.2))

/-- A value that may be missing. -/
def showOption {α : Type} (toText : α → String) : Option α → String
  | none => "None"
  | some value => "Some(" ++ toText value ++ ")"

/-- A map from texts to texts, without blanks inside its braces. -/
def showMap (map : SortedMap String) : String :=
  "\x7b" ++
    ", ".intercalate (map.entries.map fun entry =>
      Text.quoted entry.1 ++ ": " ++ Text.quoted entry.2) ++
    "\x7d"

namespace PoolKind

/-- The name of a kind in diagnostics. -/
def label : PoolKind → String
  | filesystem => "Filesystem"
  | lvm => "Lvm"
  | rbd => "Rbd"
  | linuxBridge => "LinuxBridge"

end PoolKind

namespace FilesystemSection

def summary (s : FilesystemSection) : String :=
  showRecord "FilesystemSpec" [("path", Text.quoted s.path)]

end FilesystemSection

namespace LvmSection

def summary (s : LvmSection) : String :=
  showRecord "LvmSpec" [("volume_group", Text.quoted s.volumeGroup)]

end LvmSection

namespace RbdSection

def summary (s : RbdSection) : String :=
  showRecord "RbdSpec" [("pool_name", Text.quoted s.poolName),
    ("monitors", Text.quotedList s.monitors), ("namespace", Text.quoted s.subspace)]

end RbdSection

namespace BridgeSection

def summary (s : BridgeSection) : String :=
  showRecord "BridgeSpec" [("switch", showMap s.bridges), ("export", showMap s.uplinks)]

end BridgeSection

namespace PoolSpec

def summary (spec : PoolSpec) : String :=
  showRecord "PoolSpec" [
    ("filesystem", showOption FilesystemSection.summary spec.filesystem),
    ("lvm", showOption LvmSection.summary spec.lvm),
    ("rbd", showOption RbdSection.summary spec.rbd),
    ("bridge", showOption BridgeSection.summary spec.bridge)]

end PoolSpec

namespace PoolDocument

def metaSummary (pool : PoolDocument) : String :=
  showRecord "PoolMeta" [("uuid", Text.quotedOption pool.id), ("name", Text.quoted pool.name),
    ("pool_type", pool.kind.label),
    ("access", showRecord "PoolAccess" [("nodes", Text.quotedList pool.access)])]

def summary (pool : PoolDocument) : String :=
  showRecord "PoolConfig" [("meta", pool.metaSummary), ("spec", pool.spec.summary)]

end PoolDocument

namespace Pool

/-- The pool object on one line. -/
def summary (pool : Pool) : String :=
  showRecord "ResourcePool"
    [("config", pool.document.summary), ("resources", toString pool.resources.size)]

end Pool

end DiskFleet
