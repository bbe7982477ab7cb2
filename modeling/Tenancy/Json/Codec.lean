import Std.Data.ExtTreeMap
import Std.Data.ExtTreeSet
import Tenancy.Json.Fault

/-!
# Codecs

A codec says how the values of a type are written to JSON and how they are read back. Reading
looks at the parts of a value in the order of the text and stops at the first fault.
-/

namespace Tenancy.Json

/-- How the values of a type are written and read. -/
structure Codec (α : Type) where
  encode : α → Value
  decode : Value → Except Fault α

def Items.ofList : List Value → Items := List.foldr .item .close

def Members.ofList : List (String × Value) → Members :=
  List.foldr (fun (key, value) rest => .member (some key) value rest) .close

def Items.decode {α : Type} (decode : Value → Except Fault α) : Items → Except Fault (List α)
  | .close => .ok []
  | .cut => .error .malformed
  | .item value rest => do
    let a ← decode value
    let as ← rest.decode decode
    return a :: as

/-- Reads every member of an object, keys being free. -/
def Members.decode {α : Type} (decode : Value → Except Fault α) :
    Members → Except Fault (List (String × α))
  | .close => .ok []
  | .cut | .member none _ _ => .error .malformed
  | .member (some key) value rest => do
    let a ← decode value
    let as ← rest.decode decode
    return (key, a) :: as

namespace Codec

/-! ## Plain values -/

def text : Codec String where
  encode content := .text (some content)
  decode
    | .text (some content) => .ok content
    | value => .error (value.mismatch "a string")

def bool : Codec Bool where
  encode b := .bool b
  decode
    | .bool b => .ok b
    | value => .error (value.mismatch "a boolean")

/-- Unsigned numbers of 64 bits. -/
def word : Codec UInt64 where
  encode n := .number (.whole n.toNat)
  decode
    | .number (.whole n) =>
      if 0 ≤ n ∧ n < UInt64.size then .ok (.ofNat n.toNat)
      else .error (.wrongValue (.integer n) "usize")
    | value => .error (value.mismatch "usize")

/-! ## Values with parts -/

/-- Values that may be absent, which is written `null`. -/
def option {α : Type} (c : Codec α) : Codec (Option α) where
  encode
    | some a => c.encode a
    | none => .null
  decode
    | .null => .ok none
    | value => some <$> c.decode value

def list {α : Type} (c : Codec α) : Codec (List α) where
  encode as := .list (.ofList (as.map c.encode))
  decode
    | .list items => items.decode c.decode
    | value => .error (value.mismatch "a sequence")

/-- Sets of texts, written as lists in ascending order. -/
def textSet : Codec (Std.ExtTreeSet String) where
  encode s := (list text).encode s.toList
  decode value := (Std.ExtTreeSet.ofList ·) <$> (list text).decode value

/-- Maps from texts to texts, written as objects with ascending keys. Of a key that is given more
than once the last value counts. -/
def textMap : Codec (Std.ExtTreeMap String String) where
  encode m := .object (.ofList (m.toList.map fun (key, content) => (key, text.encode content)))
  decode
    | .object members => (Std.ExtTreeMap.ofList ·) <$> members.decode text.decode
    | value => .error (value.mismatch "a map")

/-! ## Texts as a whole -/

/-- The text of a value, without blanks. -/
def print {α : Type} (c : Codec α) (a : α) : String := (c.encode a).print

/-- Reads a text that holds one value and, around it, nothing but blanks. -/
def parse {α : Type} (c : Codec α) (text : String) : Except Fault α := do
  let document := Document.ofText text
  let a ← c.decode document.root
  if document.ended then return a else throw .malformed

end Codec

/-! ## Variants -/

/-- A variant of a type: a value of its own, or one made from a text that the variant carries. -/
inductive Variant (α : Type) where
  | bare (name : String) (value : α)
  | carrying (name : String) (ofText : String → α)

namespace Variant

def name {α : Type} : Variant α → String
  | bare name _ => name
  | carrying name _ => name

def find {α : Type} (variants : List (Variant α)) (name : String) : Except Fault (Variant α) :=
  match variants.find? (·.name = name) with
  | some variant => .ok variant
  | none => .error (.unknownVariant name (variants.map (·.name)))

/-- Reads a variant: the name of one that carries nothing, or an object whose only member has the
name of a variant for its key and what the variant carries, if anything, for its value. -/
def decode {α : Type} (variants : List (Variant α)) : Value → Except Fault α
  | .text (some name) => do
    match ← find variants name with
    | bare _ value => .ok value
    | carrying .. => .error (.wrongType .bareVariant "newtype variant")
  | .object (.member (some name) carried rest) => do
    let value ←
      match ← find variants name with
      | bare _ value =>
        match carried with
        | .null => .ok value
        | other => .error (other.mismatch "unit")
      | carrying _ ofText => ofText <$> Codec.text.decode carried
    match rest with
    | .close => .ok value
    | _ => .error .malformed
  | _ => .error .malformed

end Variant

/-- Values that are written as bare names. -/
def Codec.named {α : Type} (names : List (String × α)) (nameOf : α → String) : Codec α where
  encode a := .text (some (nameOf a))
  decode := Variant.decode (names.map fun (name, value) => .bare name value)

end Tenancy.Json
