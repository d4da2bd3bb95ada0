import DiskFleet.Json.Record
import DiskFleet.Text.Blank

/-!
# Parameters

Pools, resources and images are defined from flat parameters, a map from texts to texts. One set of
parameters can serve several objects: a key followed by an underscore and the name of an object
holds the value for that object alone, so `image_size_sn` overrides `image_size` for the image `sn`
(`forObject`).
-/

namespace DiskFleet

/-- A flat set of parameters. -/
structure Params where
  map : SortedMap String
deriving DecidableEq

namespace Params

def empty : Params := ⟨∅⟩

instance : Inhabited Params := ⟨empty⟩

def get? (params : Params) (key : String) : Option String := params.map.get? key

def getD (params : Params) (key default : String) : String := (params.get? key).getD default

def set (params : Params) (key value : String) : Params := ⟨params.map.insert key value⟩

def isEmpty (params : Params) : Bool := params.map.isEmpty

/-- The parameters of a list of pairs; of two with one key the later wins. -/
def ofList (pairs : List (String × String)) : Params := ⟨.ofList pairs⟩

/-- Whether a parameter is switched on: one of `yes`, `true`, `on` and `1`, in any letter case and
between any blanks. -/
def isOn (params : Params) (key : String) : Bool :=
  match params.get? key with
  | none => false
  | some value =>
    let word := Text.lowerAscii (Text.trim value)
    word = "yes" || word = "true" || word = "on" || word = "1"

/-- The words of a parameter. -/
def objects (params : Params) (key : String) : List String :=
  match params.get? key with
  | none => []
  | some value => Text.words value

/-- The part of a key in front of the name of an object and its underscore, if there is any. -/
def baseOf? (name key : String) : Option String :=
  let ending := '_' :: name.toList
  let chars := key.toList
  let base := chars.take (chars.length - ending.length)
  if base ≠ [] ∧ base ++ ending = chars then some (String.ofList base) else none

/-- The parameters as one object sees them: a key that carries its name overrides the plain key. -/
def forObject (params : Params) (name : String) : Params :=
  params.map.entries.foldl
    (fun seen entry =>
      match baseOf? name entry.1 with
      | some base => seen.set base entry.2
      | none => seen)
    params

def toJson (params : Params) : Json := Json.ofSortedMap .str params.map

/-- Parameters are an object of texts. -/
def ofJson? (json : Json) : Option Params := (json.asMap? Json.asText?).map Params.mk

end Params

end DiskFleet
