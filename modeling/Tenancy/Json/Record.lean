import Tenancy.Json.Codec

/-!
# Records

A record is written as an object with one member per field, in the order in which the fields are
declared. It is read from such an object, with its members in any order and with members of other
names passed over, or from a list of the fields in their order.
-/

namespace Tenancy.Json

/-- Where a field may be left out. -/
inductive Absence where
  /-- Nowhere. -/
  | refused
  /-- From an object. -/
  | fromObject
  /-- From an object, and from the end of a list. -/
  | anywhere
deriving DecidableEq, Repr, Inhabited

structure Field (σ : Type) where
  name : String
  absence : Absence := .refused
  /-- The value of the field, unless it is left out of the object. -/
  write : σ → Option Value
  read : Value → Except Fault (σ → σ)

namespace Field

def of {σ α : Type} (name : String) (absence : Absence) (c : Codec α) (get : σ → α)
    (set : α → σ → σ) : Field σ where
  name
  absence
  write s := some (c.encode (get s))
  read value := set <$> c.decode value

/-- A field that is left out of the object when it is absent. -/
def ofOption {σ α : Type} (name : String) (c : Codec α) (get : σ → Option α)
    (set : Option α → σ → σ) : Field σ where
  name
  absence := .anywhere
  write s := (get s).map c.encode
  read value := set <$> c.option.decode value

end Field

/-- The fields of a record, with the name that messages give it. -/
structure Shape (σ : Type) where
  title : String
  fields : List (Field σ)
  /-- The record before any field has been read: what a field that is left out comes to. -/
  blank : σ

/-- Reads the fields of a record from the members of an object. A field that is given twice is a
fault as soon as its name is read for the second time. Answers the record and the names of the
fields that were given. -/
def Members.decodeFields {σ : Type} (fields : List (Field σ)) (given : List String) (s : σ) :
    Members → Except Fault (σ × List String)
  | .close => .ok (s, given)
  | .cut | .member none _ _ => .error .malformed
  | .member (some key) value rest =>
    match fields.find? (·.name = key) with
    -- a member that is passed over has to be complete, but may hold anything
    | none => if value.isComplete then rest.decodeFields fields given s else .error .malformed
    | some field =>
      if key ∈ given then .error (.duplicateField key)
      else do
        let set ← field.read value
        rest.decodeFields fields (key :: given) (set s)

/-- Reads the fields of a record from the items of a list. `position` is the number of fields that
have been read; `title` and `count` describe the record. -/
def Items.decodeFields {σ : Type} (title : String) (count position : Nat) (s : σ) :
    List (Field σ) → Items → Except Fault σ
  | [], .close => .ok s
  | [], _ => .error .malformed
  | field :: fields, .item value rest => do
    let set ← field.read value
    Items.decodeFields title count (position + 1) (set s) fields rest
  | field :: fields, .close =>
    if field.absence = .anywhere then
      Items.decodeFields title count (position + 1) s fields .close
    else .error (.shortList position title count)
  | _ :: _, .cut => .error .malformed

/-- Records of the given shape. Of fields that are missing the first in order is reported. -/
def Shape.codec {σ : Type} (shape : Shape σ) : Codec σ where
  encode s := .object <| .ofList <| shape.fields.filterMap fun field =>
    (field.write s).map fun value => (field.name, value)
  decode
    | .object members => do
      let (s, given) ← members.decodeFields shape.fields [] shape.blank
      match shape.fields.find? fun f => f.absence = .refused && f.name ∉ given with
      | some field => .error (.missingField field.name)
      | none => .ok s
    | .list items =>
      Items.decodeFields shape.title shape.fields.length 0 shape.blank shape.fields items
    | value => .error (value.mismatch s!"struct {shape.title}")

end Tenancy.Json
