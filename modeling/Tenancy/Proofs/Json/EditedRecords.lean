import Tenancy.Proofs.Json.Edits
import Tenancy.Proofs.Json.Records

/-!
# Edited records

The members of a record may be given in another order, those that hold what their absence means may
be left out, and members of unknown names may stand between them. It is a slip to leave out a member
that has to be given, and to give one again. Codecs of records tolerate these edits
(`Shape.codec_tolerates`): what is read does not depend on the order, as each field restores a part
of its own, and what is left out was in the blank record from the start.
-/

namespace Tenancy.Json

/-! ## What may be done to a record -/

/-- A member that a record is written with. -/
structure Part where
  name : String
  /-- The value that need not be written: what the absence of the member means, if it may be
  absent. -/
  default : Option Value := some .null
  edit : Edit := .same

/-- The members of a record, one for each part, and those of them that are kept. -/
inductive Chosen : List Part → Bool → List (String × Value) → List (String × Value) → Prop
  | nil : Chosen [] false [] []
  | kept {p : Part} {parts : List Part} {slip : Bool} {before after : Value}
      {befores afters : List (String × Value)} (h : p.edit false before after)
      (hrest : Chosen parts slip befores afters) :
      Chosen (p :: parts) slip ((p.name, before) :: befores) ((p.name, after) :: afters)
  /-- The member is kept, with a slip in its value. -/
  | slipped {p : Part} {parts : List Part} {slip : Bool} {before after : Value}
      {befores afters : List (String × Value)} (h : p.edit true before after)
      (hrest : Chosen parts slip befores afters) :
      Chosen (p :: parts) true ((p.name, before) :: befores) ((p.name, after) :: afters)
  | omitted {p : Part} {parts : List Part} {slip : Bool} {before : Value}
      {befores afters : List (String × Value)} (h : p.default = some before)
      (hrest : Chosen parts slip befores afters) :
      Chosen (p :: parts) slip ((p.name, before) :: befores) afters
  /-- The member is left out and may not be. -/
  | lost {p : Part} {parts : List Part} {slip : Bool} {before : Value}
      {befores afters : List (String × Value)} (h : p.default = none)
      (hrest : Chosen parts slip befores afters) :
      Chosen (p :: parts) true ((p.name, before) :: befores) afters

/-- The members of a record, and what is made of them: those that are kept and any of other names
are given in any order. To this comes whatever is done to the members one after the other. -/
def Edited (parts : List Part) (slip : Bool) (before after : List (String × Value)) : Prop :=
  ∃ kept added, Chosen parts slip before kept ∧
    (∀ m ∈ added, m.1 ∉ parts.map Part.name ∧ m.2.isComplete) ∧ after.Perm (kept ++ added)

/-- The members of a record are changed. -/
inductive Edit.record (parts : List Part) : Edit
  | edited {slip : Bool} {before after : List (String × Value)}
      (h : Edited parts slip before after) :
      record parts slip (.object (.ofList before)) (.object (.ofList after))
  /-- Behind some of the members one of them is given again, whatever it holds then and whatever
  follows. -/
  | repeated {slip : Bool} {before front back rest : List (String × Value)} {name : String}
      {value : Value} (h : Edited parts slip before (front ++ back))
      (hname : name ∈ parts.map Part.name) (hgiven : name ∈ front.map Prod.fst) :
      record parts true (.object (.ofList before))
        (.object (.ofList (front ++ (name, value) :: rest)))

/-! ## Fields -/

namespace Field

variable {σ α : Type}

/-- The field is always written, and reads what becomes of its part of a record. -/
class Tolerates (f : Field σ) (p : Part) : Prop where
  name_eq : f.name = p.name
  exists_write (s : σ) : ∃ value, f.write s = some value
  edit_self {s : σ} {value : Value} (hvalue : f.write s = some value) : p.edit false value value
  read_of_edit {s : σ} {slip : Bool} {value v : Value} (hvalue : f.write s = some value)
    (h : p.edit slip value v) : Answered (f.restore s) slip (f.read v)

/-- Fields that read what becomes of their parts, one after the other. -/
class AllTolerate (fields : List (Field σ)) (parts : List Part) : Prop where
  forall₂ : List.Forall₂ Tolerates fields parts

instance : AllTolerate ([] : List (Field σ)) [] where
  forall₂ := .nil

instance {f : Field σ} {p : Part} {fields : List (Field σ)} {parts : List Part} [f.Tolerates p]
    [AllTolerate fields parts] : AllTolerate (f :: fields) (p :: parts) where
  forall₂ := .cons inferInstance AllTolerate.forall₂

theorem AllTolerate.map_name {fields : List (Field σ)} {parts : List Part}
    (h : AllTolerate fields parts) : fields.map Field.name = parts.map Part.name := by
  induction h.forall₂ with
  | nil => rfl
  | cons hf _ ih => rw [List.map_cons, List.map_cons, hf.name_eq, ih ⟨‹_›⟩]

instance {name : String} {absence : Absence} {c : Codec α} {get : σ → α} {set : α → σ → σ}
    {default : Option Value} {edit : Edit} [c.Lawful] [c.Tolerates edit] :
    (Field.of name absence c get set).Tolerates { name, default, edit } where
  name_eq := rfl
  exists_write _ := ⟨_, rfl⟩
  edit_self {s} {value} hvalue := by
    obtain rfl : c.encode (get s) = value := Option.some.inj hvalue
    exact Codec.Tolerates.edit_self (get s)
  read_of_edit {s} {slip} {value} {v} hvalue h := by
    obtain rfl : c.encode (get s) = value := Option.some.inj hvalue
    have hrestore : (Field.of name absence c get set).restore s = set (get s) :=
      funext (restore_of s)
    rw [hrestore]
    exact (Codec.Tolerates.decode_of_edit (c := c) h).map set

/-- What is written of a part that need not be. -/
def default (blank : σ) (f : Field σ) : Option Value :=
  if f.absence = .refused then none else f.write blank

theorem of_default_eq_some {blank : σ} {f : Field σ} {value : Value}
    (h : f.default blank = some value) : f.absence ≠ .refused ∧ f.write blank = some value := by
  unfold default at h
  split_ifs at h with hrefused
  exact ⟨hrefused, h⟩

theorem Tolerates.of_default_eq_none {blank : σ} {f : Field σ} {p : Part} (hf : f.Tolerates p)
    (h : f.default blank = none) : f.absence = .refused := by
  by_contra hrefused
  rw [default, if_neg hrefused] at h
  obtain ⟨value, hvalue⟩ := hf.exists_write blank
  rw [hvalue] at h
  cases h

/-- What is restored depends on what is written alone. -/
theorem restore_congr {f : Field σ} {s s' : σ} (h : f.write s = f.write s') :
    f.restore s = f.restore s' := by
  funext t
  rw [restore, restore, h]

/-- The fields have names of their own and restore parts of their own, all of the record together
and nothing but what it holds of the blank one. -/
structure Independent (fields : List (Field σ)) (blank : σ) : Prop where
  names : (fields.map Field.name).Nodup
  foldl_restore : ∀ s, fields.foldl (fun t f => f.restore s t) blank = s
  commute : fields.Pairwise fun f g =>
    ∀ s t, f.restore s (g.restore s t) = g.restore s (f.restore s t)
  restore_blank : ∀ f ∈ fields, f.restore blank blank = blank

/-! ### Members -/

/-- How a member meets the fields when `s` is restored: it is passed over, or read as a part of
`s`, unless there is a slip in it. -/
inductive Meets (fields : List (Field σ)) (s : σ) : Bool → String × Value → Prop
  | known {f : Field σ} {v : Value} {slip : Bool} (hf : f ∈ fields)
      (h : Answered (f.restore s) slip (f.read v)) : Meets fields s slip (f.name, v)
  | unknown {key : String} {v : Value} (hkey : key ∉ fields.map Field.name)
      (hv : v.isComplete) : Meets fields s false (key, v)

theorem Meets.of_not_slip {fields : List (Field σ)} {s : σ} {m : String × Value}
    (h : ∃ slip, Meets fields s slip m) (hslip : ¬ Meets fields s true m) :
    Meets fields s false m := by
  obtain ⟨slip, hm⟩ := h
  cases slip with
  | false => exact hm
  | true => exact absurd hm hslip

/-- The fields that the members are read as. -/
def known (fields : List (Field σ)) (ms : List (String × Value)) : List (Field σ) :=
  ms.filterMap fun m => fields.find? (·.name = m.1)

variable {fields : List (Field σ)} {ms : List (String × Value)}

theorem find?_name_eq_none {key : String} (h : key ∉ fields.map Field.name) :
    fields.find? (·.name = key) = none := by
  refine List.find?_eq_none.mpr fun f hf => ?_
  rw [decide_eq_true_eq]
  exact fun heq => h (heq ▸ List.mem_map_of_mem hf)

theorem known_cons_of_mem {f : Field σ} (hnames : (fields.map Field.name).Nodup) (hf : f ∈ fields)
    (v : Value) : known fields ((f.name, v) :: ms) = f :: known fields ms :=
  List.filterMap_cons_some (find?_key_of_nodup hnames hf)

theorem known_cons_of_not_mem {key : String} (h : key ∉ fields.map Field.name) (v : Value) :
    known fields ((key, v) :: ms) = known fields ms :=
  List.filterMap_cons_none (find?_name_eq_none h)

theorem known_append (ms ms' : List (String × Value)) :
    known fields (ms ++ ms') = known fields ms ++ known fields ms' :=
  List.filterMap_append

theorem known_eq_nil (h : ∀ m ∈ ms, m.1 ∉ fields.map Field.name) : known fields ms = [] :=
  List.filterMap_eq_nil_iff.mpr fun m hm => find?_name_eq_none (h m hm)

theorem known_perm {ms' : List (String × Value)} (h : ms.Perm ms') :
    (known fields ms).Perm (known fields ms') :=
  h.filterMap _

/-- A field is among those read if a member has its name. -/
theorem mem_known {f : Field σ} (hnames : (fields.map Field.name).Nodup) (hf : f ∈ fields)
    (h : f.name ∈ ms.map Prod.fst) : f ∈ known fields ms := by
  obtain ⟨m, hm, hname⟩ := List.mem_map.mp h
  refine List.mem_filterMap.mpr ⟨m, hm, ?_⟩
  rw [hname]
  exact find?_key_of_nodup hnames hf

end Field

namespace Members

variable {σ : Type} {fields : List (Field σ)}

theorem decodeFields_unknown {key : String} (hkey : key ∉ fields.map Field.name) {v : Value}
    (hv : v.isComplete) (rest : Members) (given : List String) (t : σ) :
    (Members.member (some key) v rest).decodeFields fields given t =
      rest.decodeFields fields given t := by
  rw [decodeFields, Field.find?_name_eq_none hkey]
  exact if_pos hv

theorem decodeFields_repeated {f : Field σ} (hnames : (fields.map Field.name).Nodup)
    (hf : f ∈ fields) {given : List String} (hgiven : f.name ∈ given) (v : Value) (rest : Members)
    (t : σ) : (Members.member (some f.name) v rest).decodeFields fields given t =
      .error (.duplicateField f.name) := by
  rw [decodeFields, find?_key_of_nodup hnames hf]
  exact if_pos hgiven

/-- Members without a slip are read one after the other, each restoring its part. -/
theorem decodeFields_append (hnames : (fields.map Field.name).Nodup) {s : σ}
    {front : List (String × Value)} (hmeets : ∀ m ∈ front, Field.Meets fields s false m)
    (back : List (String × Value)) {given : List String}
    (hdistinct : ((Field.known fields front).map Field.name).Nodup)
    (hnew : ∀ f ∈ Field.known fields front, f.name ∉ given) (t : σ) :
    (ofList (front ++ back)).decodeFields fields given t =
      (ofList back).decodeFields fields
        (((Field.known fields front).map Field.name).reverse ++ given)
        ((Field.known fields front).foldl (fun t f => f.restore s t) t) := by
  induction front generalizing given t with
  | nil => rfl
  | cons m front ih =>
    obtain ⟨hm, hfront⟩ := List.forall_mem_cons.mp hmeets
    cases hm with
    | @known f v _ hf hanswer =>
      rw [Field.known_cons_of_mem hnames hf] at hdistinct hnew ⊢
      obtain ⟨hfirst, hdistinct⟩ := List.nodup_cons.mp hdistinct
      obtain ⟨hnewf, hnew⟩ := List.forall_mem_cons.mp hnew
      have hread : (ofList ((f.name, v) :: front ++ back)).decodeFields fields given t =
          (ofList (front ++ back)).decodeFields fields (f.name :: given) (f.restore s t) := by
        refine (decodeFields_known hnames hf hnewf v _ t).trans ?_
        rw [hanswer.eq_ok]
        rfl
      rw [hread, ih hfront hdistinct (Field.forall_not_mem_cons hfirst hnew)]
      simp
    | unknown hkey hv =>
      rw [Field.known_cons_of_not_mem hkey] at hdistinct hnew ⊢
      exact (decodeFields_unknown hkey hv _ given t).trans (ih hfront hdistinct hnew t)

/-- Of the members with a slip the first is reported. -/
theorem decodeFields_slip (hnames : (fields.map Field.name).Nodup) {s : σ}
    {front : List (String × Value)} (hmeets : ∀ m ∈ front, ∃ slip, Field.Meets fields s slip m)
    (hslip : ∃ m ∈ front, Field.Meets fields s true m) (back : List (String × Value))
    (hdistinct : ((Field.known fields front).map Field.name).Nodup) (t : σ) :
    ∃ fault : Fault, fault.IsSlip ∧
      (ofList (front ++ back)).decodeFields fields [] t = .error fault := by
  classical
  obtain ⟨m, hfind⟩ : ∃ m, front.find? (fun m => decide (Field.Meets fields s true m)) = some m :=
    Option.isSome_iff_exists.mp (List.find?_isSome.mpr (by simpa using hslip))
  obtain ⟨hm, first, rest, rfl, hfirst⟩ := List.find?_eq_some_iff_append.mp hfind
  rw [decide_eq_true_eq] at hm
  have hgood : ∀ m ∈ first, Field.Meets fields s false m :=
    fun m hmem => .of_not_slip (hmeets m (List.mem_append_left _ hmem))
      (by simpa using hfirst m hmem)
  cases hm with
  | @known f v _ hf hanswer =>
    obtain ⟨fault, hreport, hread⟩ := hanswer.exists_fault
    rw [Field.known_append, Field.known_cons_of_mem hnames hf, List.map_append, List.map_cons,
      List.nodup_append] at hdistinct
    obtain ⟨hdistinct, -, hdisjoint⟩ := hdistinct
    have hnew : f.name ∉ ((Field.known fields first).map Field.name).reverse ++ [] := by
      rw [List.append_nil, List.mem_reverse]
      exact fun hmem => hdisjoint _ hmem _ List.mem_cons_self rfl
    refine ⟨fault, hreport, ?_⟩
    rw [List.append_assoc, decodeFields_append hnames hgood _ hdistinct (by simp)]
    refine (decodeFields_known hnames hf hnew v _ _).trans ?_
    rw [hread]
    rfl

end Members

/-! ## Records -/

theorem Members.ofList_injective : Function.Injective Members.ofList := by
  intro ms ms' h
  induction ms generalizing ms' with
  | nil => cases ms' with
    | nil => rfl
    | cons m' ms' => cases h
  | cons m ms ih => cases ms' with
    | nil => cases h
    | cons m' ms' =>
      obtain ⟨hkey, hvalue, hrest⟩ := Members.member.inj h
      rw [ih hrest, Prod.ext (Option.some.inj hkey) hvalue]

namespace Chosen

variable {σ : Type} {blank s : σ} {fields : List (Field σ)}

/-- All members may be kept as they are. -/
theorem self {parts : List Part} (h : List.Forall₂ Field.Tolerates fields parts) (s : σ) :
    Chosen parts false (Field.members fields s) (Field.members fields s) := by
  induction h with
  | nil => exact .nil
  | cons hf _ ih =>
    obtain ⟨value, hvalue⟩ := hf.exists_write s
    rw [Field.members_cons_of_some hvalue, hf.name_eq]
    exact .kept (hf.edit_self hvalue) ih

/-- The fields of a record, split into those whose members are kept and the others. -/
structure Split (blank s : σ) (fields part : List (Field σ)) (slip : Bool)
    (kept : List (String × Value)) (left : List (Field σ)) : Prop where
  perm : part.Perm (left ++ Field.known fields kept)
  meets : ∀ m ∈ kept, ∃ slip, Field.Meets fields s slip m
  meets_of_eq_false : slip = false → ∀ m ∈ kept, Field.Meets fields s false m
  left_of_eq_false : slip = false →
    ∀ f ∈ left, f.absence ≠ .refused ∧ f.restore s = f.restore blank
  of_eq_true : slip = true →
    (∃ m ∈ kept, Field.Meets fields s true m) ∨ ∃ f ∈ left, f.absence = .refused

namespace Split

variable {f : Field σ} {part left : List (Field σ)} {slip : Bool} {kept : List (String × Value)}
  {v : Value}

theorem perm_cons (h : Split blank s fields part slip kept left)
    (hnames : (fields.map Field.name).Nodup) (hf : f ∈ fields) :
    (f :: part).Perm (left ++ Field.known fields ((f.name, v) :: kept)) := by
  rw [Field.known_cons_of_mem hnames hf]
  exact (h.perm.cons f).trans List.perm_middle.symm

theorem cons_kept (h : Split blank s fields part slip kept left)
    (hnames : (fields.map Field.name).Nodup) (hf : f ∈ fields)
    (hread : Answered (f.restore s) false (f.read v)) :
    Split blank s fields (f :: part) slip ((f.name, v) :: kept) left where
  perm := h.perm_cons hnames hf
  meets := List.forall_mem_cons.mpr ⟨⟨false, .known hf hread⟩, h.meets⟩
  meets_of_eq_false hslip := List.forall_mem_cons.mpr ⟨.known hf hread, h.meets_of_eq_false hslip⟩
  left_of_eq_false := h.left_of_eq_false
  of_eq_true hslip := (h.of_eq_true hslip).imp_left fun ⟨m, hmem, hm⟩ =>
    ⟨m, List.mem_cons_of_mem _ hmem, hm⟩

theorem cons_slipped (h : Split blank s fields part slip kept left)
    (hnames : (fields.map Field.name).Nodup) (hf : f ∈ fields)
    (hread : Answered (f.restore s) true (f.read v)) :
    Split blank s fields (f :: part) true ((f.name, v) :: kept) left where
  perm := h.perm_cons hnames hf
  meets := List.forall_mem_cons.mpr ⟨⟨true, .known hf hread⟩, h.meets⟩
  meets_of_eq_false := nofun
  left_of_eq_false := nofun
  of_eq_true _ := .inl ⟨_, List.mem_cons_self, .known hf hread⟩

theorem cons_omitted (h : Split blank s fields part slip kept left)
    (habsence : f.absence ≠ .refused) (hrestore : f.restore s = f.restore blank) :
    Split blank s fields (f :: part) slip kept (f :: left) where
  perm := h.perm.cons f
  meets := h.meets
  meets_of_eq_false := h.meets_of_eq_false
  left_of_eq_false hslip :=
    List.forall_mem_cons.mpr ⟨⟨habsence, hrestore⟩, h.left_of_eq_false hslip⟩
  of_eq_true hslip := (h.of_eq_true hslip).imp_right fun ⟨g, hg, hrefused⟩ =>
    ⟨g, List.mem_cons_of_mem _ hg, hrefused⟩

theorem cons_lost (h : Split blank s fields part slip kept left) (hrefused : f.absence = .refused) :
    Split blank s fields (f :: part) true kept (f :: left) where
  perm := h.perm.cons f
  meets := h.meets
  meets_of_eq_false := nofun
  left_of_eq_false := nofun
  of_eq_true _ := .inr ⟨f, List.mem_cons_self, hrefused⟩

end Split

theorem exists_split (hnames : (fields.map Field.name).Nodup) {part : List (Field σ)}
    {parts : List Part} {slip : Bool} {kept : List (String × Value)}
    (hparts : List.Forall₂ Field.Tolerates part parts) (hsubset : part ⊆ fields)
    (hdefaults : parts.map Part.default = part.map (Field.default blank))
    (h : Chosen parts slip (Field.members part s) kept) :
    ∃ left, Split blank s fields part slip kept left := by
  induction hparts generalizing slip kept with
  | nil =>
    cases h with
    | nil => exact ⟨[], by constructor <;> simp [Field.known]⟩
  | @cons f p part parts hfield hparts ih =>
    obtain ⟨hf, hsubset⟩ := List.cons_subset.mp hsubset
    obtain ⟨hdefault, hdefaults⟩ := List.cons.inj hdefaults
    obtain ⟨value, hvalue⟩ := hfield.exists_write s
    rw [Field.members_cons_of_some hvalue, hfield.name_eq] at h
    cases h with
    | kept h hrest =>
      obtain ⟨left, hsplit⟩ := ih hsubset hdefaults hrest
      rw [← hfield.name_eq]
      exact ⟨left, hsplit.cons_kept hnames hf (hfield.read_of_edit hvalue h)⟩
    | slipped h hrest =>
      obtain ⟨left, hsplit⟩ := ih hsubset hdefaults hrest
      rw [← hfield.name_eq]
      exact ⟨left, hsplit.cons_slipped hnames hf (hfield.read_of_edit hvalue h)⟩
    | omitted h hrest =>
      obtain ⟨left, hsplit⟩ := ih hsubset hdefaults hrest
      obtain ⟨habsence, hwrite⟩ := Field.of_default_eq_some (hdefault.symm.trans h)
      exact ⟨f :: left,
        hsplit.cons_omitted habsence (Field.restore_congr (hvalue.trans hwrite.symm))⟩
    | lost h hrest =>
      obtain ⟨left, hsplit⟩ := ih hsubset hdefaults hrest
      exact ⟨f :: left, hsplit.cons_lost (hfield.of_default_eq_none (hdefault.symm.trans h))⟩

end Chosen

section

variable {σ : Type} {blank s : σ} {fields : List (Field σ)} {parts : List Part}

namespace Chosen.Split

variable {part left : List (Field σ)} {slip : Bool} {kept : List (String × Value)}

/-- A field is read from no more than one member, and from none if it is left out. -/
theorem nodup_known (h : Split blank s fields part slip kept left)
    (hnames : (part.map Field.name).Nodup) :
    ((Field.known fields kept).map Field.name).Nodup ∧
      ∀ f ∈ left, f.name ∉ (Field.known fields kept).map Field.name := by
  have hall := (h.perm.map Field.name).nodup_iff.mp hnames
  rw [List.map_append, List.nodup_append] at hall
  obtain ⟨-, hknown, hdisjoint⟩ := hall
  exact ⟨hknown, fun f hf hmem => hdisjoint _ (List.mem_map_of_mem hf) _ hmem rfl⟩

/-- Members that no field is read from may be given too, and all in any order. -/
theorem of_perm (h : Split blank s fields part slip kept left) {added after : List (String × Value)}
    (hadded : ∀ m ∈ added, m.1 ∉ fields.map Field.name ∧ m.2.isComplete)
    (hafter : after.Perm (kept ++ added)) : Split blank s fields part slip after left := by
  have hknown : (Field.known fields after).Perm (Field.known fields kept) := by
    have hperm : (Field.known fields after).Perm (Field.known fields (kept ++ added)) :=
      Field.known_perm hafter
    rwa [Field.known_append, Field.known_eq_nil fun m hm => (hadded m hm).1, List.append_nil]
      at hperm
  have hmem : ∀ m ∈ after, m ∈ kept ∨ Field.Meets fields s false m := by
    intro m hm
    rcases List.mem_append.mp (hafter.mem_iff.mp hm) with hkept | hm
    · exact .inl hkept
    · exact .inr (.unknown (hadded m hm).1 (hadded m hm).2)
  refine ⟨h.perm.trans (hknown.symm.append_left left), fun m hm => ?_, fun hslip m hm => ?_,
    h.left_of_eq_false, fun hslip => (h.of_eq_true hslip).imp_left fun ⟨m, hm, hmeets⟩ => ?_⟩
  · exact (hmem m hm).elim (h.meets m) fun hmeets => ⟨false, hmeets⟩
  · exact (hmem m hm).elim (h.meets_of_eq_false hslip m) id
  · exact ⟨m, hafter.mem_iff.mpr (List.mem_append_left _ hm), hmeets⟩

/-- What is kept of a record, without a slip, restores it. -/
theorem foldl_restore (h : Split blank s fields fields false kept left)
    (hfields : Field.Independent fields blank) :
    (Field.known fields kept).foldl (fun t f => f.restore s t) blank = s := by
  have hleft : left.foldl (fun t f => f.restore s t) blank = blank := by
    refine List.foldlRecOn (motive := (· = blank)) left _ rfl fun t ht f hf => ?_
    have hmem : f ∈ fields := h.perm.mem_iff.mpr (List.mem_append_left _ hf)
    rw [ht, (h.left_of_eq_false rfl f hf).2, hfields.restore_blank f hmem]
  have hall : fields.foldl (fun t f => f.restore s t) blank =
      (left ++ Field.known fields kept).foldl (fun t f => f.restore s t) blank := by
    have : Std.Symm fun f g : Field σ =>
        ∀ s t, f.restore s (g.restore s t) = g.restore s (f.restore s t) :=
      ⟨fun _ _ hcommute s t => (hcommute s t).symm⟩
    exact h.perm.foldl_eq' (fun f hf g hg t =>
      hfields.commute.forall_of_forall (fun _ _ _ _ => rfl) hg hf s t) blank
  rw [List.foldl_append, hleft] at hall
  rw [← hall, hfields.foldl_restore]

end Chosen.Split

theorem Edited.exists_split [hparts : Field.AllTolerate fields parts]
    (hnames : (fields.map Field.name).Nodup)
    (hdefaults : parts.map Part.default = fields.map (Field.default blank)) {slip : Bool}
    {after : List (String × Value)} (h : Edited parts slip (Field.members fields s) after) :
    ∃ left, Chosen.Split blank s fields fields slip after left := by
  obtain ⟨kept, added, hchosen, hadded, hafter⟩ := h
  obtain ⟨left, hsplit⟩ :=
    hchosen.exists_split hnames hparts.forall₂ (List.Subset.refl _) hdefaults
  rw [← hparts.map_name] at hadded
  exact ⟨left, hsplit.of_perm hadded hafter⟩

end

namespace Shape

variable {σ : Type} {shape : Shape σ} {parts : List Part}

theorem decode_object_of_error {members : Members} {fault : Fault}
    (h : members.decodeFields shape.fields [] shape.blank = .error fault) :
    shape.codec.decode (.object members) = .error fault := by
  simp only [codec, h, bind, Except.bind]

/-- A field that may not be left out and is not given is missed, unless another one is before. -/
theorem decode_object_of_missing {members : Members} {s : σ} {given : List String}
    (hfields : members.decodeFields shape.fields [] shape.blank = .ok (s, given)) {f : Field σ}
    (hf : f ∈ shape.fields) (hrefused : f.absence = .refused) (hmissing : f.name ∉ given) :
    ∃ fault : Fault, fault.IsSlip ∧ shape.codec.decode (.object members) = .error fault := by
  obtain ⟨first, hfirst⟩ : ∃ first, shape.fields.find?
      (fun f => f.absence = .refused && f.name ∉ given) = some first :=
    Option.isSome_iff_exists.mp (List.find?_isSome.mpr ⟨f, hf, by simp [hrefused, hmissing]⟩)
  refine ⟨.missingField first.name, ⟨_, .inl rfl⟩, ?_⟩
  simp only [codec, hfields, bind, Except.bind, hfirst]

section

variable {s : σ} {left : List (Field σ)} {after : List (String × Value)}

/-- Members without a slip are read, and with them the names of their fields. -/
theorem decodeFields_of_split {slip : Bool}
    (h : Chosen.Split shape.blank s shape.fields shape.fields slip after left)
    (hnames : (shape.fields.map Field.name).Nodup)
    (hmeets : ∀ m ∈ after, Field.Meets shape.fields s false m) :
    (Members.ofList after).decodeFields shape.fields [] shape.blank =
      .ok ((Field.known shape.fields after).foldl (fun t f => f.restore s t) shape.blank,
        ((Field.known shape.fields after).map Field.name).reverse) := by
  have hall : (Members.ofList (after ++ [])).decodeFields shape.fields [] shape.blank = _ :=
    Members.decodeFields_append hnames hmeets [] (h.nodup_known hnames).1 (by simp) shape.blank
  rw [List.append_nil, List.append_nil] at hall
  exact hall

/-- What is made of the members of a record without a slip is read as the record. -/
theorem decode_of_split (h : Chosen.Split shape.blank s shape.fields shape.fields false after left)
    (hfields : Field.Independent shape.fields shape.blank) :
    shape.codec.decode (.object (.ofList after)) = .ok s := by
  have hread := decodeFields_of_split h hfields.names (h.meets_of_eq_false rfl)
  rw [h.foldl_restore hfields] at hread
  refine decode_object hread fun f hf hrefused => ?_
  rw [List.mem_reverse]
  refine List.mem_map_of_mem ((List.mem_append.mp (h.perm.mem_iff.mp hf)).resolve_left ?_)
  exact fun hleft => (h.left_of_eq_false rfl f hleft).1 hrefused

/-- A slip is reported. One in a member that is given comes before any member that is missing. -/
theorem decode_of_slip (h : Chosen.Split shape.blank s shape.fields shape.fields true after left)
    (hnames : (shape.fields.map Field.name).Nodup) :
    ∃ fault : Fault, fault.IsSlip ∧
      shape.codec.decode (.object (.ofList after)) = .error fault := by
  obtain ⟨hdistinct, hmissing⟩ := h.nodup_known hnames
  by_cases hslip : ∃ m ∈ after, Field.Meets shape.fields s true m
  · obtain ⟨fault, hfault, hread⟩ :=
      Members.decodeFields_slip hnames h.meets hslip [] hdistinct shape.blank
    rw [List.append_nil] at hread
    exact ⟨fault, hfault, decode_object_of_error hread⟩
  · obtain ⟨f, hf, hrefused⟩ := (h.of_eq_true rfl).resolve_left hslip
    have hread := decodeFields_of_split h hnames fun m hm =>
      .of_not_slip (h.meets m hm) fun hm' => hslip ⟨m, hm, hm'⟩
    refine decode_object_of_missing hread (h.perm.mem_iff.mpr (List.mem_append_left _ hf))
      hrefused ?_
    rw [List.mem_reverse]
    exact hmissing f hf

/-- A member that is given again is reported, unless there is a slip before it. -/
theorem decode_of_repeated {slip : Bool} {front back rest : List (String × Value)}
    (h : Chosen.Split shape.blank s shape.fields shape.fields slip (front ++ back) left)
    (hnames : (shape.fields.map Field.name).Nodup) {name : String}
    (hname : name ∈ shape.fields.map Field.name) (hgiven : name ∈ front.map Prod.fst)
    (value : Value) : ∃ fault : Fault, fault.IsSlip ∧
      shape.codec.decode (.object (.ofList (front ++ (name, value) :: rest))) = .error fault := by
  have hall := (h.nodup_known hnames).1
  rw [Field.known_append, List.map_append] at hall
  have hdistinct := (List.nodup_append.mp hall).1
  have hmeets : ∀ m ∈ front, ∃ slip, Field.Meets shape.fields s slip m :=
    fun m hm => h.meets m (List.mem_append_left _ hm)
  by_cases hslip : ∃ m ∈ front, Field.Meets shape.fields s true m
  · obtain ⟨fault, hfault, hread⟩ :=
      Members.decodeFields_slip hnames hmeets hslip ((name, value) :: rest) hdistinct shape.blank
    exact ⟨fault, hfault, decode_object_of_error hread⟩
  · obtain ⟨f, hf, rfl⟩ := List.mem_map.mp hname
    have hgood : ∀ m ∈ front, Field.Meets shape.fields s false m :=
      fun m hm => .of_not_slip (hmeets m hm) fun hm' => hslip ⟨m, hm, hm'⟩
    have hmem : f.name ∈ ((Field.known shape.fields front).map Field.name).reverse ++ [] := by
      rw [List.append_nil, List.mem_reverse]
      exact List.mem_map_of_mem (Field.mem_known hnames hf hgiven)
    refine ⟨.duplicateField f.name, ⟨_, .inr rfl⟩, decode_object_of_error ?_⟩
    rw [Members.decodeFields_append hnames hgood _ hdistinct (by simp)]
    exact Members.decodeFields_repeated hnames hf hmem value _ _

end

/-- Records tolerate the edits of their fields, if these are independent. -/
theorem codec_tolerates (shape : Shape σ) (parts : List Part)
    [hparts : Field.AllTolerate shape.fields parts]
    (hfields : Field.Independent shape.fields shape.blank)
    (hdefaults : parts.map Part.default = shape.fields.map (Field.default shape.blank)) :
    shape.codec.Tolerates (.record parts) where
  edit_self s := .edited ⟨_, [], .self hparts.forall₂ s, nofun, .of_eq (List.append_nil _).symm⟩
  decode_of_edit {s} {slip} {v} h := by
    generalize hbefore : shape.codec.encode s = before at h
    cases h with
    | edited h =>
      rw [← Members.ofList_injective (Value.object.inj hbefore)] at h
      obtain ⟨left, hsplit⟩ := h.exists_split hfields.names hdefaults
      cases slip with
      | false => exact decode_of_split hsplit hfields ▸ .read
      | true =>
        obtain ⟨fault, hfault, hdecode⟩ := decode_of_slip hsplit hfields.names
        exact hdecode ▸ .slip hfault
    | repeated h hname hgiven =>
      rw [← Members.ofList_injective (Value.object.inj hbefore)] at h
      obtain ⟨left, hsplit⟩ := h.exists_split hfields.names hdefaults
      rw [← hparts.map_name] at hname
      obtain ⟨fault, hfault, hdecode⟩ := decode_of_repeated hsplit hfields.names hname hgiven _
      exact hdecode ▸ .slip hfault
  ne_null {s} {slip} {v} h _ := by
    generalize shape.codec.encode s = before at h
    cases h <;> exact nofun

end Shape

end Tenancy.Json
