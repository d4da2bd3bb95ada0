import DiskFleet.Failure
import DiskFleet.Json.Basic
import DiskFleet.Number.Digits

/-!
# Looking a value up by its path

A path such as `spec.volume.uri` names a value inside a document: its segments, between the dots,
are members of objects and places in arrays, counted from zero. `lookup` answers with an object
whose one member has the last segment for its name. Without a path, or with the empty one, the whole
document is the answer.
-/

namespace DiskFleet

/-- The segments of a path between its dots; `segment` holds the one being read, backwards. -/
def segmentsFrom (segment : List Char) : List Char → List (List Char)
  | [] => [segment.reverse]
  | c :: rest => if c = '.' then segment.reverse :: segmentsFrom [] rest
    else segmentsFrom (c :: segment) rest

/-- The segments of a path between its dots. -/
def segments (path : String) : List String := (segmentsFrom [] path.toList).map String.ofList

/-- The place in an array that a segment names: decimal digits, after at most one plus sign, of a
number that fits 64 bits. -/
def placeOf? (segment : String) : Option Nat :=
  let digits := match segment.toList with
    | '+' :: rest => rest
    | cs => cs
  (Number.ofDigits? 10 digits).filter (· < 0x10000000000000000)

namespace Json

/-- What one segment names. -/
def step? (json : Json) (segment : String) : Option Json :=
  match json with
  | .obj members => members.lookup segment
  | .arr items => (placeOf? segment).bind fun place => items[place]?
  | _ => none

/-- What a list of segments leads to. -/
def follow? (json : Json) : List String → Option Json
  | [] => some json
  | segment :: rest => (json.step? segment).bind fun inner => inner.follow? rest

/-- The value at a path, under the name of the last segment. -/
def lookup (json : Json) (path : Option String) : Except Failure Json :=
  match path with
  | none => .ok json
  | some path =>
    if path.isEmpty then .ok json
    else
      match json.follow? (segments path) with
      | some value => .ok (.obj [((segments path).getLastD "", value)])
      | none => .error (.pathNotFound path)

end Json

end DiskFleet
