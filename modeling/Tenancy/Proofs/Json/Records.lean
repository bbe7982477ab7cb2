import Tenancy.Json.Record
import Tenancy.Proofs.Json.Codecs

/-!
# Records that are read back

A field restores its part of a record: read back from what it wrote of a record, it puts that
part into the record being read (`Field.restore`). Where the fields have distinct names and
together restore every record from the blank one, the record is read back
(`Shape.codec_lawful`).
-/

namespace Tenancy.Json

/-! ## Fields -/

namespace Field

variable {σ α : Type} {name : String} {absence : Absence} {c : Codec α}

/-- Puts what the field writes of `s` into `t`, by way of reading it; what is not written, or not
read, leaves `t` as it is. -/
def restore (f : Field σ) (s t : σ) : σ :=
  match f.write s with
  | none => t
  | some value =>
    match f.read value with
    | .ok set => set t
    | .error _ => t

/-- What the field writes says everything it holds and is read, and where the field may not be left
out it is written. -/
class Lawful (f : Field σ) : Prop where
  written (s : σ) : ∀ value ∈ f.write s, value.Written
  read_write (s : σ) : ∀ value ∈ f.write s, f.read value = .ok (f.restore s)
  isSome_write (s : σ) (h : f.absence = .refused) : (f.write s).isSome

/-- Fields all of which are lawful. -/
class AllLawful (fields : List (Field σ)) : Prop where
  lawful (f : Field σ) (hf : f ∈ fields) : f.Lawful

instance : AllLawful ([] : List (Field σ)) where
  lawful _ hf := absurd hf List.not_mem_nil

instance {f : Field σ} {fields : List (Field σ)} [f.Lawful] [AllLawful fields] :
    AllLawful (f :: fields) where
  lawful g hg := by
    rcases List.mem_cons.mp hg with rfl | hg
    · infer_instance
    · exact AllLawful.lawful g hg

section

variable [c.Lawful] {get : σ → α} {set : α → σ → σ}

@[simp] theorem restore_of (s t : σ) :
    (Field.of name absence c get set).restore s t = set (get s) t := by
  simp [restore, Field.of]

instance : (Field.of name absence c get set).Lawful where
  written s value hvalue := by
    obtain rfl := Option.some.inj hvalue
    exact Codec.Lawful.written (get s)
  read_write s value hvalue := by
    obtain rfl := Option.some.inj hvalue
    have hrestore : (Field.of name absence c get set).restore s = set (get s) :=
      funext (restore_of s)
    rw [hrestore]
    show set <$> c.decode (c.encode (get s)) = _
    rw [Codec.Lawful.decode_encode]
    rfl
  isSome_write _ _ := rfl

end

section

variable [c.Lawful] [c.NeverNull] {get : σ → Option α} {set : Option α → σ → σ}

theorem read_ofOption (a : α) :
    (Field.ofOption name c get set).read (c.encode a) = .ok (set (some a)) := by
  show set <$> c.option.decode (c.option.encode (some a)) = _
  rw [Codec.Lawful.decode_encode]
  rfl

@[simp] theorem restore_ofOption (s t : σ) :
    (Field.ofOption name c get set).restore s t =
      match get s with
      | none => t
      | some a => set (some a) t := by
  have hwrite : (Field.ofOption name c get set).write s = (get s).map c.encode := rfl
  rw [restore, hwrite]
  cases get s with
  | none => rfl
  | some a => simp [read_ofOption]

instance : (Field.ofOption name c get set).Lawful where
  written s value hvalue := by
    obtain ⟨a, -, rfl⟩ := Option.map_eq_some_iff.mp hvalue
    exact Codec.Lawful.written a
  read_write s value hvalue := by
    obtain ⟨a, ha, rfl⟩ := Option.map_eq_some_iff.mp hvalue
    have hrestore : (Field.ofOption name c get set).restore s = set (some a) := by
      funext t
      rw [restore_ofOption, ha]
    rw [read_ofOption, hrestore]
  isSome_write s h := nomatch h

end

end Field

/-! ## Shapes -/

section

variable {σ : Type} {fields : List (Field σ)}

/-- The members that the fields write of a record. -/
def Field.members (fields : List (Field σ)) (s : σ) : List (String × Value) :=
  fields.filterMap fun field => (field.write s).map fun value => (field.name, value)

theorem Field.members_cons_of_none {f : Field σ} {s : σ} (h : f.write s = none) :
    members (f :: fields) s = members fields s := by
  simp [members, h]

theorem Field.members_cons_of_some {f : Field σ} {s : σ} {value : Value}
    (h : f.write s = some value) :
    members (f :: fields) s = (f.name, value) :: members fields s := by
  simp [members, h]

/-- What has a name of its own has not been given once `f` is given. -/
theorem Field.forall_not_mem_cons {f : Field σ} {rest : List (Field σ)} {given : List String}
    (hfirst : f.name ∉ rest.map Field.name) (hnew : ∀ g ∈ rest, g.name ∉ given) :
    ∀ g ∈ rest, g.name ∉ f.name :: given := by
  intro g hg hmem
  rcases List.mem_cons.mp hmem with heq | hmem
  · exact hfirst (heq ▸ List.mem_map_of_mem hg)
  · exact hnew g hg hmem

theorem Members.decodeFields_known {f : Field σ} (hnames : (fields.map Field.name).Nodup)
    (hf : f ∈ fields) {given : List String} (hnew : f.name ∉ given) (v : Value) (rest : Members)
    (t : σ) :
    (Members.member (some f.name) v rest).decodeFields fields given t =
      (do rest.decodeFields fields (f.name :: given) ((← f.read v) t)) := by
  rw [Members.decodeFields, find?_key_of_nodup hnames hf]
  exact if_neg hnew

/-- The members that a part of the fields wrote are read in order, each field restoring what is
its own. -/
theorem Members.decodeFields_ofList [Field.AllLawful fields]
    (hnames : (fields.map Field.name).Nodup) (s : σ) {part : List (Field σ)}
    (hpart : part ⊆ fields) (hdistinct : (part.map Field.name).Nodup) (given : List String)
    (hnew : ∀ f ∈ part, f.name ∉ given) (t : σ) :
    (Members.ofList (Field.members part s)).decodeFields fields given t =
      .ok (part.foldl (fun t f => f.restore s t) t,
        ((Field.members part s).map Prod.fst).reverse ++ given) := by
  induction part generalizing given t with
  | nil => rfl
  | cons f rest ih =>
    obtain ⟨hf, hrest⟩ := List.cons_subset.mp hpart
    obtain ⟨hfirst, hdistinct⟩ := List.nodup_cons.mp hdistinct
    obtain ⟨hnewf, hnew⟩ := List.forall_mem_cons.mp hnew
    cases hwrite : f.write s with
    | none =>
      have hrestore : f.restore s t = t := by rw [Field.restore, hwrite]
      rw [Field.members_cons_of_none hwrite, List.foldl_cons, hrestore]
      exact ih hrest hdistinct given hnew t
    | some value =>
      have hread : (Members.ofList ((f.name, value) :: Field.members rest s)).decodeFields fields
          given t =
          (Members.ofList (Field.members rest s)).decodeFields fields (f.name :: given)
            (f.restore s t) := by
        refine (decodeFields_known hnames hf hnewf value _ t).trans ?_
        rw [(Field.AllLawful.lawful f hf).read_write s value hwrite]
        rfl
      rw [Field.members_cons_of_some hwrite, hread,
        ih hrest hdistinct _ (Field.forall_not_mem_cons hfirst hnew)]
      simp

namespace Shape

variable {shape : Shape σ}

theorem encode_eq (s : σ) :
    shape.codec.encode s = .object (.ofList (Field.members shape.fields s)) := rfl

theorem decode_object {members : Members} {s : σ} {given : List String}
    (hfields : members.decodeFields shape.fields [] shape.blank = .ok (s, given))
    (hgiven : ∀ f ∈ shape.fields, f.absence = .refused → f.name ∈ given) :
    shape.codec.decode (.object members) = .ok s := by
  have hmissing : shape.fields.find? (fun f => f.absence = .refused && f.name ∉ given) = none := by
    refine List.find?_eq_none.mpr fun f hf => ?_
    simpa using hgiven f hf
  simp only [codec, hfields, bind, Except.bind, hmissing]

/-- A field that may not be left out is not. -/
theorem name_mem_members [Field.AllLawful shape.fields] {f : Field σ} (hf : f ∈ shape.fields)
    (h : f.absence = .refused) (s : σ) :
    f.name ∈ (Field.members shape.fields s).map Prod.fst := by
  have hwritten := (Field.AllLawful.lawful f hf).isSome_write s h
  obtain ⟨value, hvalue⟩ := Option.isSome_iff_exists.mp hwritten
  have hmember : (f.name, value) ∈ Field.members shape.fields s :=
    List.mem_filterMap.mpr ⟨f, hf, by rw [hvalue, Option.map_some]⟩
  exact List.mem_map_of_mem (f := Prod.fst) hmember

instance : shape.codec.NeverNull where
  encode_ne_null _ := nofun

/-- Records are read back if their fields have distinct names and together restore them. -/
theorem codec_lawful (shape : Shape σ) [Field.AllLawful shape.fields]
    (hnames : (shape.fields.map Field.name).Nodup)
    (hrestores : ∀ s, shape.fields.foldl (fun t f => f.restore s t) shape.blank = s) :
    shape.codec.Lawful where
  written s := by
    rw [encode_eq, Value.written_object]
    refine Members.written_ofList fun member hmember => ?_
    obtain ⟨f, hf, hmember⟩ := List.mem_filterMap.mp hmember
    obtain ⟨value, hvalue, rfl⟩ := Option.map_eq_some_iff.mp hmember
    exact (Field.AllLawful.lawful f hf).written s value hvalue
  decode_encode s := by
    have hfields := Members.decodeFields_ofList hnames s (List.Subset.refl _) hnames [] (by simp)
      shape.blank
    rw [hrestores] at hfields
    rw [encode_eq]
    refine decode_object hfields fun f hf h => ?_
    rw [List.append_nil, List.mem_reverse]
    exact name_mem_members hf h s

end Shape

end

end Tenancy.Json
