import DiskFleet.Json.Basic

/-!
# Records in documents

A document with fixed fields is written in one of two forms: as an object with a member for each
field, or as an array with the fields one after the other. `Record` is either form, and the
functions below read one field of it:

* `required`: the field has to be there;
* `optional`: `null` stands for no value, and in the named form so does a missing member;
* `optionalOr`: the same, and the field may also be missing from the end of an array;
* `orElse`: a missing field has a default, while `null` is a value like any other.

A field may have a second name. Giving it twice is refused, members that no field asks for are
ignored, and an array must not be longer than the record (`fits`).
-/

namespace DiskFleet

/-- The fields of a record as they are written. -/
inductive Record (δ : Type)
  | named (members : List (String × δ))
  | positional (items : List δ)

namespace Record

variable {δ α : Type}

/-- How often and with what a field is given. -/
inductive Given (δ : Type)
  | missing
  | once (value : δ)
  | repeatedly

/-- The field that has position `index` and one of `names`. -/
def given (record : Record δ) (index : Nat) (names : List String) : Given δ :=
  match record with
  | named members =>
    match members.filter fun entry => names.contains entry.1 with
    | [] => .missing
    | [entry] => .once entry.2
    | _ => .repeatedly
  | positional items =>
    match items[index]? with
    | none => .missing
    | some value => .once value

/-- Whether an array form has no more than `size` fields. -/
def fits (record : Record δ) (size : Nat) : Bool :=
  match record with
  | named _ => true
  | positional items => items.length ≤ size

def required (record : Record δ) (index : Nat) (name : String) (decode : δ → Option α) : Option α :=
  match record.given index [name] with
  | .once value => decode value
  | _ => none

/-- A field with a default. -/
def orElse (record : Record δ) (index : Nat) (names : List String) (decode : δ → Option α)
    (default : α) : Option α :=
  match record.given index names with
  | .once value => decode value
  | .missing => some default
  | .repeatedly => none

end Record

namespace Json

variable {α : Type}

/-- The record that a tree writes, with at most `size` fields. -/
def record? (size : Nat) : Json → Option (Record Json)
  | .obj members => some (.named members)
  | .arr items => if items.length ≤ size then some (.positional items) else none
  | _ => none

/-- A value that may be `null`. -/
def nullable (decode : Json → Option α) : Json → Option (Option α)
  | .null => some none
  | json => (decode json).map some

/-- The word of an alternative without content: the word itself, or an object that gives it
`null`. -/
def asWord? : Json → Option String
  | .str word => some word
  | .obj [(word, .null)] => some word
  | _ => none

def asTexts? : Json → Option (List String)
  | .arr items => items.mapM asText?
  | _ => none

/-- An object whose members all decode. -/
def asMap? (decode : Json → Option α) : Json → Option (SortedMap α)
  | .obj members => do
    let entries ← members.mapM fun entry => (decode entry.2).map (entry.1, ·)
    return .ofList entries
  | _ => none

/-! ## Reading back what was built -/

@[simp] theorem nullable_str (text : String) : nullable asText? (str text) = some (some text) := rfl

@[simp] theorem nullable_ofOptionText (text : Option String) :
    nullable asText? (ofOptionText text) = some text := by
  cases text <;> rfl

@[simp] theorem nullable_ofOptionWord64 (n : Option UInt64) :
    nullable asWord64? (ofOptionWord64 n) = some n := by
  cases n with
  | none => rfl
  | some n => show (ofWord64 n).asWord64?.map some = _; simp

@[simp] theorem asTexts?_ofTexts (texts : List String) :
    (ofTexts texts).asTexts? = some texts := by
  show (texts.map str).mapM asText? = some texts
  induction texts with
  | nil => rfl
  | cons text rest ih => simp [ih]

/-- A map reads back if each of its values does. -/
theorem asMap?_ofSortedMap {encode : α → Json} {decode : Json → Option α}
    (h : ∀ value, decode (encode value) = some value) (map : SortedMap α) :
    (ofSortedMap encode map).asMap? decode = some map := by
  have hentries : ∀ entries : List (String × α),
      (entries.map fun entry => (entry.1, encode entry.2)).mapM
        (fun entry => (decode entry.2).map (entry.1, ·)) = some entries := by
    intro entries
    induction entries with
    | nil => rfl
    | cons entry rest ih => simp [h, ih]
  show (_ : Option (List (String × α))).bind _ = some map
  rw [hentries, Option.bind_some, SortedMap.ofList_entries]
  rfl

end Json

namespace Record

variable {α : Type}

def optional (record : Record Json) (index : Nat) (name : String) (decode : Json → Option α) :
    Option (Option α) :=
  match record with
  | named _ => record.orElse index [name] (Json.nullable decode) none
  | positional _ => record.required index name (Json.nullable decode)

def optionalOr (record : Record Json) (index : Nat) (name : String) (decode : Json → Option α) :
    Option (Option α) :=
  record.orElse index [name] (Json.nullable decode) none

end Record

end DiskFleet
