import Tenancy.Json.Codec
import Tenancy.Proofs.Json.Spelling

/-!
# Codecs that read back what they write

A codec is lawful if whatever it writes is written in full and is read back as what it was
(`Codec.Lawful`). Then the same holds of texts (`Codec.RoundTrips`). Codecs that are put together
from lawful ones are lawful; the laws are instances, so those of a codec are found by its parts.
-/

namespace Tenancy.Json

namespace Codec

variable {α : Type} {c : Codec α}

/-- What the codec writes says everything it holds and is read back. -/
class Lawful (c : Codec α) : Prop where
  written (a : α) : (c.encode a).Written
  decode_encode (a : α) : c.decode (c.encode a) = .ok a

/-- No value is written like a value that is absent. -/
class NeverNull (c : Codec α) : Prop where
  encode_ne_null (a : α) : c.encode a ≠ .null

attribute [simp] Lawful.written Lawful.decode_encode

/-- What is written as a text is read back from the text, and so no two values are written as the
same text. -/
structure RoundTrips (c : Codec α) : Prop where
  parse_print (a : α) : c.parse (c.print a) = .ok a
  print_injective : Function.Injective c.print

/-- Of a text nothing counts but the value that it spells. -/
theorem parse_of_spells {v : Value} {text : String} (h : v.Spells text) :
    c.parse text = c.decode v := by
  rw [parse, Document.ofText_of_spells h]
  cases c.decode v <;> rfl

theorem parse_print [c.Lawful] (a : α) : c.parse (c.print a) = .ok a := by
  rw [print, parse_of_spells (Value.spells_print (Lawful.written a)), Lawful.decode_encode]

theorem roundTrips [c.Lawful] : c.RoundTrips where
  parse_print := parse_print
  print_injective a b h := by
    have hparse : c.parse (c.print a) = c.parse (c.print b) := congrArg c.parse h
    rw [parse_print, parse_print] at hparse
    exact Except.ok.inj hparse

end Codec

/-! ## Lists of parts -/

theorem Items.written_ofList {values : List Value} (h : ∀ v ∈ values, v.Written) :
    (Items.ofList values).Written := by
  induction values with
  | nil => exact Items.written_close
  | cons v values ih =>
    rw [List.forall_mem_cons] at h
    exact Items.written_item.mpr ⟨h.1, ih h.2⟩

theorem Members.written_ofList {members : List (String × Value)}
    (h : ∀ m ∈ members, m.2.Written) : (Members.ofList members).Written := by
  induction members with
  | nil => exact Members.written_close
  | cons m members ih =>
    rw [List.forall_mem_cons] at h
    exact Members.written_member.mpr ⟨h.1, ih h.2⟩

section

variable {α : Type} (c : Codec α) [c.Lawful]

theorem Items.decode_ofList (as : List α) :
    (Items.ofList (as.map c.encode)).decode c.decode = .ok as := by
  induction as with
  | nil => rfl
  | cons a as ih =>
    show (do
      let a' ← c.decode (c.encode a)
      let as' ← (Items.ofList (as.map c.encode)).decode c.decode
      return a' :: as') = _
    rw [Codec.Lawful.decode_encode, ih]
    rfl

theorem Members.decode_ofList (entries : List (String × α)) :
    (Members.ofList (entries.map fun (key, a) => (key, c.encode a))).decode c.decode =
      .ok entries := by
  induction entries with
  | nil => rfl
  | cons entry entries ih =>
    show (do
      let a' ← c.decode (c.encode entry.2)
      let entries' ←
        (Members.ofList (entries.map fun (key, a) => (key, c.encode a))).decode c.decode
      return (entry.1, a') :: entries') = _
    rw [Codec.Lawful.decode_encode, ih]
    rfl

end

/-! ## The laws -/

namespace Codec

variable {α : Type} {c : Codec α}

instance : text.Lawful where
  written _ := by simp [text, Value.Written, Value.tokens, Token.Printable]
  decode_encode _ := rfl

instance : text.NeverNull where
  encode_ne_null _ := nofun

instance : bool.Lawful where
  written _ := by simp [bool, Value.Written, Value.tokens, Token.Printable]
  decode_encode _ := rfl

instance : bool.NeverNull where
  encode_ne_null _ := nofun

instance : word.Lawful where
  written n := by
    have hsize := n.toNat_lt_size
    have hrange : (Number.whole n.toNat).InRange := ⟨by omega, Int.ofNat_lt.mpr hsize⟩
    intro t ht
    obtain rfl : t = .number (.whole n.toNat) := List.mem_singleton.mp ht
    exact hrange
  decode_encode n := by
    have hsize : (n.toNat : Int) < UInt64.size := Int.ofNat_lt.mpr n.toNat_lt_size
    have hwhole : 0 ≤ (n.toNat : Int) ∧ (n.toNat : Int) < UInt64.size := ⟨by omega, hsize⟩
    simp only [word]
    rw [if_pos hwhole, Int.toNat_natCast, UInt64.ofNat_toNat]

instance : word.NeverNull where
  encode_ne_null _ := nofun

theorem decode_option_of_ne_null {v : Value} (h : v ≠ .null) :
    c.option.decode v = some <$> c.decode v := by
  cases v with
  | null => exact absurd rfl h
  | _ => rfl

instance [c.Lawful] [c.NeverNull] : c.option.Lawful where
  written
    | none => by simp [option, Value.Written, Value.tokens, Token.Printable]
    | some a => Lawful.written a
  decode_encode
    | none => rfl
    | some a => by
      show c.option.decode (c.encode a) = _
      rw [decode_option_of_ne_null (NeverNull.encode_ne_null a), Lawful.decode_encode]
      rfl

instance [c.Lawful] : c.list.Lawful where
  written as := by
    rw [list, Value.written_list]
    refine Items.written_ofList fun value hvalue => ?_
    obtain ⟨a, -, rfl⟩ := List.mem_map.mp hvalue
    exact Lawful.written a
  decode_encode as := Items.decode_ofList c as

instance : c.list.NeverNull where
  encode_ne_null _ := nofun

/-- A set is made up again from its members. -/
theorem ofList_toList_set (s : Std.ExtTreeSet String) : Std.ExtTreeSet.ofList s.toList = s := by
  refine Std.ExtTreeSet.ext_mem fun content => ?_
  simp [Std.ExtTreeSet.mem_ofList]

/-- A map is made up again from its entries. -/
theorem ofList_toList_map (m : Std.ExtTreeMap String String) :
    Std.ExtTreeMap.ofList m.toList = m := by
  refine Std.ExtTreeMap.ext_getElem? fun key => ?_
  cases hkey : m[key]? with
  | none =>
    have hkeys : (m.toList.map Prod.fst).contains key = false := by
      rw [Std.ExtTreeMap.map_fst_toList_eq_keys]
      simpa using hkey
    exact Std.ExtTreeMap.getElem?_ofList_of_contains_eq_false hkeys
  | some content =>
    have hmem := Std.ExtTreeMap.mem_toList_iff_getElem?_eq_some.mpr hkey
    exact Std.ExtTreeMap.getElem?_ofList_of_mem Std.ReflCmp.compare_self
      Std.ExtTreeMap.distinct_keys_toList hmem

instance : textSet.Lawful where
  written s := Lawful.written (c := list text) s.toList
  decode_encode s := by
    simp [textSet, ofList_toList_set]

instance : textMap.Lawful where
  written m := by
    rw [textMap, Value.written_object]
    refine Members.written_ofList fun member hmember => ?_
    obtain ⟨entry, -, rfl⟩ := List.mem_map.mp hmember
    exact Lawful.written (c := text) entry.2
  decode_encode m := by
    simp [textMap, Members.decode_ofList, ofList_toList_map]

end Codec

/-! ## Variants -/

/-- What is found by its key, where no two have the same. -/
theorem find?_key_of_nodup {α β : Type} [DecidableEq β] {key : α → β} {as : List α} {a : α}
    (hnodup : (as.map key).Nodup) (ha : a ∈ as) :
    as.find? (fun other => key other = key a) = some a := by
  induction as with
  | nil => cases ha
  | cons b as ih =>
    obtain ⟨hfirst, hrest⟩ := List.nodup_cons.mp hnodup
    rcases List.mem_cons.mp ha with rfl | ha
    · exact List.find?_cons_of_pos (decide_eq_true rfl)
    · have hne : key b ≠ key a := fun heq => hfirst (heq ▸ List.mem_map_of_mem ha)
      rw [List.find?_cons_of_neg (by simpa using hne)]
      exact ih hrest ha

namespace Variant

variable {α : Type} {variants : List (Variant α)} {name : String}

theorem find_of_mem {variant : Variant α} (hnames : (variants.map Variant.name).Nodup)
    (hmem : variant ∈ variants) : find variants variant.name = .ok variant := by
  rw [find, find?_key_of_nodup hnames hmem]

theorem decode_bare {value : α} (hnames : (variants.map Variant.name).Nodup)
    (hmem : bare name value ∈ variants) : decode variants (.text (some name)) = .ok value := by
  have hfind : find variants name = .ok (bare name value) := find_of_mem hnames hmem
  rw [decode, hfind]
  rfl

theorem decode_carrying {ofText : String → α} (hnames : (variants.map Variant.name).Nodup)
    (hmem : carrying name ofText ∈ variants) (content : String) :
    decode variants (.object (.ofList [(name, .text (some content))])) = .ok (ofText content) := by
  have hfind : find variants name = .ok (carrying name ofText) := find_of_mem hnames hmem
  rw [Members.ofList, List.foldr_cons, List.foldr_nil, decode, hfind]
  rfl

end Variant

/-- Values are read back from their names, if each has one and no two have the same. -/
theorem Codec.named_lawful {α : Type} {names : List (String × α)} {nameOf : α → String}
    (hnames : (names.map Prod.fst).Nodup) (hmem : ∀ a, (nameOf a, a) ∈ names) :
    (Codec.named names nameOf).Lawful where
  written _ := by simp [named, Value.Written, Value.tokens, Token.Printable]
  decode_encode a := by
    refine Variant.decode_bare ?_ (List.mem_map.mpr ⟨_, hmem a, rfl⟩)
    rw [List.map_map]
    exact hnames

end Tenancy.Json
