import DiskFleet.Map.Sorted
import DiskFleet.Number.Binary

/-!
# Document trees

Requests, agent replies and the documents of pools, resources and images are trees of the kind that
JSON text writes. A whole number is kept as an integer; any other number is kept as the nearest
number of 53 binary digits with its sign, so that it can be handed on but is never taken for a
count. The members of an object are kept in key order when it is built by `Json.object` or read from
text; `get?` finds the first member of a name.
-/

namespace DiskFleet

/-- A document tree. -/
inductive Json
  | null
  | bool (value : Bool)
  | int (value : Int)
  | real (negative : Bool) (magnitude : Number.Binary)
  | str (value : String)
  | arr (items : List Json)
  | obj (members : List (String × Json))
deriving Inhabited

namespace Json

/-! ## Building -/

/-- An object with its members in key order; of two members with one name the later wins. -/
def object (members : List (String × Json)) : Json :=
  .obj (SortedMap.ofList members).entries

def ofNat (n : Nat) : Json := .int n

/-- A word without sign. -/
def ofWord64 (n : UInt64) : Json := .int n.toNat

def ofOptionText : Option String → Json
  | none => .null
  | some s => .str s

def ofOptionWord64 : Option UInt64 → Json
  | none => .null
  | some n => ofWord64 n

def ofTexts (texts : List String) : Json := .arr (texts.map .str)

/-- An object that gives each key of a sorted map the encoding of its value. -/
def ofSortedMap {α : Type} (encode : α → Json) (map : SortedMap α) : Json :=
  .obj (map.entries.map fun entry => (entry.1, encode entry.2))

/-! ## Looking inside -/

/-- The member of an object with the given name. -/
def get? : Json → String → Option Json
  | .obj members, key => members.lookup key
  | _, _ => none

/-- The member of an object with the given name, `null` where there is none. -/
def member (json : Json) (key : String) : Json := (json.get? key).getD .null

def asText? : Json → Option String
  | .str s => some s
  | _ => none

def asBool? : Json → Option Bool
  | .bool b => some b
  | _ => none

def asItems? : Json → Option (List Json)
  | .arr items => some items
  | _ => none

/-- Whether a whole number is one of the `limit` numbers from zero up or of the `limit` numbers below
zero. The two sides are told apart by constructor, so that the kernel never counts up to a limit. -/
def isWithin (limit : Nat) : Int → Bool
  | .ofNat n => n < limit
  | .negSucc n => n < limit

theorem isWithin_iff {limit : Nat} {n : Int} : isWithin limit n = true ↔ -limit ≤ n ∧ n < limit := by
  cases n with
  | ofNat n =>
    have h : -(limit : Int) ≤ (n : Int) := by omega
    simp [isWithin, h]
  | negSucc n =>
    simp only [isWithin, decide_eq_true_eq]
    omega

/-- The whole number, if it fits 64 bits without sign. -/
def asWord64? : Json → Option UInt64
  | .int (.ofNat n) => if n < 0x10000000000000000 then some (UInt64.ofNat n) else none
  | _ => none

/-- The whole number, if it fits 64 bits with sign. -/
def asInt? : Json → Option Int
  | .int n => if isWithin 0x8000000000000000 n then some n else none
  | _ => none

/-- The whole number, if it fits 32 bits with sign. -/
def asInt32? : Json → Option Int32
  | .int n => if isWithin 0x80000000 n then some (Int32.ofInt n) else none
  | _ => none

/-! ## Reading back what was built -/

@[simp] theorem asText?_str (text : String) : (str text).asText? = some text := rfl

@[simp] theorem asBool?_bool (value : Bool) : (bool value).asBool? = some value := rfl

@[simp] theorem asWord64?_ofWord64 (n : UInt64) : (ofWord64 n).asWord64? = some n := by
  show (if n.toNat < 0x10000000000000000 then some (UInt64.ofNat n.toNat) else none) = some n
  rw [if_pos n.toNat_lt, UInt64.ofNat_toNat]

@[simp] theorem asInt32?_int (n : Int32) : (int n.toInt).asInt32? = some n := by
  rw [asInt32?, if_pos (isWithin_iff.2 ⟨n.le_toInt, n.toInt_lt⟩), Int32.ofInt_toInt]

/-! ## Changing a member -/

/-- The object with the member `key` set to a function of what it was, `null` where there was none.
A tree of another kind becomes an object with that one member. -/
def updateMember (json : Json) (key : String) (f : Json → Json) : Json :=
  match json with
  | .obj members => .obj (insertSorted key (f ((members.lookup key).getD .null)) members)
  | _ => .obj [(key, f .null)]

/-- The tree with the value at a path of member names replaced. -/
def setAt (json : Json) : List String → Json → Json
  | [], value => value
  | key :: rest, value => json.updateMember key fun inner => inner.setAt rest value

end Json

end DiskFleet
