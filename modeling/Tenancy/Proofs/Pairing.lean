import Mathlib.Data.List.Perm.Subperm
import Mathlib.Data.List.Nodup
import Tenancy.Request.Check

/-!
# The pairing of a foreign key with a primary key

A same-tenant constraint is sound when its mapping pairs the columns of the foreign key one to one
with those of the primary key. The check of foreign keys compares two numbers and looks for a
column missing on either side; `foreignKeyFault?_eq_none_iff` says that this amounts to a pairing,
so the ownership routine gets exactly one column for each of its parameters.
-/

namespace Tenancy

/-! ## Maps as lists -/

/-- The values of a map are read off its list of entries. -/
theorem values_eq_map_snd {α β : Type} [Ord α] [Std.TransOrd α] (t : Std.ExtTreeMap α β) :
    t.values = t.toList.map Prod.snd := by
  obtain ⟨⟨q⟩⟩ := t
  induction q using Quotient.inductionOn with
  | _ m =>
    show m.inner.values = (Std.DTreeMap.Internal.Impl.Const.toList m.inner).map Prod.snd
    rw [Std.DTreeMap.Internal.Impl.values_eq_map_snd,
      Std.DTreeMap.Internal.Impl.Const.toList_eq_toListModel_map]
    simp

/-- In an ordered list, what stands before an item are the smaller ones. -/
theorem mem_before_iff {α : Type} {R : α → α → Prop} (hasymm : ∀ a b, R a b → ¬ R b a)
    {before after : List α} {a b : α} (h : (before ++ a :: after).Pairwise R) :
    b ∈ before ↔ b ∈ before ++ a :: after ∧ R b a := by
  obtain ⟨-, hrest, hbefore⟩ := List.pairwise_append.mp h
  constructor
  · intro hb
    exact ⟨List.mem_append_left _ hb, hbefore b hb a List.mem_cons_self⟩
  · rintro ⟨hmem, hsmaller⟩
    rcases List.mem_append.mp hmem with hb | hb
    · exact hb
    · exfalso
      rcases List.mem_cons.mp hb with rfl | hafter
      · exact hasymm b b hsmaller hsmaller
      · exact hasymm a b ((List.pairwise_cons.mp hrest).1 b hafter) hsmaller

section Columns

variable {mapping primaryKey : Std.ExtTreeMap String String}

theorem mem_values_iff {p : String} : p ∈ mapping.values ↔ ∃ f : String, mapping[f]? = some p := by
  simp [values_eq_map_snd]

theorem length_values : mapping.values.length = mapping.size := by
  simp [values_eq_map_snd]

/-! ## Pairings -/

/-- The mapping pairs columns with those of a primary key one to one. -/
structure Pairs (mapping primaryKey : Std.ExtTreeMap String String) : Prop where
  into : ∀ f p : String, mapping[f]? = some p → p ∈ primaryKey
  onto : ∀ p ∈ primaryKey, ∃ f : String, mapping[f]? = some p
  injective : ∀ f g p : String, mapping[f]? = some p → mapping[g]? = some p → f = g

/-- The columns mapped to are those of the primary key. -/
theorem Pairs.mem_values (h : Pairs mapping primaryKey) (p : String) :
    p ∈ mapping.values ↔ p ∈ primaryKey := by
  rw [mem_values_iff]
  exact ⟨fun ⟨f, hf⟩ => h.into f p hf, h.onto p⟩

/-- A mapping that hits no column twice has its values without repetition, and conversely. -/
theorem nodup_values_iff :
    mapping.values.Nodup ↔
      ∀ f g p : String, mapping[f]? = some p → mapping[g]? = some p → f = g := by
  have hentries : mapping.toList.Nodup :=
    List.Nodup.of_map Prod.fst (by simpa using mapping.nodup_keys)
  rw [values_eq_map_snd, List.nodup_map_iff_inj_on hentries]
  constructor
  · intro h f g p hf hg
    have := h (f, p) (by simpa using hf) (g, p) (by simpa using hg) rfl
    exact congrArg Prod.fst this
  · rintro h ⟨f, p⟩ hf ⟨g, q⟩ hg (rfl : p = q)
    rw [h f g p (by simpa using hf) (by simpa using hg)]

/-- Two lists of columns of one length, each a part of the other, are a pairing: the primary key
names no column twice, so the mapping has none to spare. -/
theorem pairs_iff :
    Pairs mapping primaryKey ↔
      mapping.size = primaryKey.size ∧ (∀ p ∈ mapping.values, p ∈ primaryKey) ∧
        ∀ p ∈ primaryKey, p ∈ mapping.values := by
  constructor
  · intro h
    refine ⟨?_, fun p hp => (h.mem_values p).mp hp, fun p hp => (h.mem_values p).mpr hp⟩
    have hperm : mapping.values.Perm primaryKey.keys :=
      (List.perm_ext_iff_of_nodup (nodup_values_iff.mpr h.injective) primaryKey.nodup_keys).mpr
        fun p => by simp [h.mem_values p]
    simpa [length_values] using hperm.length_eq
  · rintro ⟨hsize, hinto, honto⟩
    -- the key columns are among the values without repetition, and there are no more values
    have hsub : primaryKey.keys.Subperm mapping.values :=
      List.subperm_of_subset primaryKey.nodup_keys fun p hp => honto p (by simpa using hp)
    have hperm : primaryKey.keys.Perm mapping.values :=
      hsub.perm_of_length_le (by simp [length_values, hsize])
    exact {
      into := fun f p hf => hinto p (mem_values_iff.mpr ⟨f, hf⟩)
      onto := fun p hp => mem_values_iff.mp (honto p hp)
      injective := nodup_values_iff.mp (hperm.nodup_iff.mp primaryKey.nodup_keys) }

/-- Each column of the primary key has one column that is mapped to it. -/
theorem Pairs.exists_source (h : Pairs mapping primaryKey) :
    ∃ source : String → String, ∀ p ∈ primaryKey, ∀ f : String,
      mapping[f]? = some p ↔ f = source p := by
  choose! source hsource using h.onto
  refine ⟨source, fun p hp f => ⟨fun hf => h.injective f (source p) p hf (hsource p hp), ?_⟩⟩
  rintro rfl
  exact hsource p hp

/-- Going through the primary key, each mapped column comes up once. -/
theorem Pairs.perm_map_source (h : Pairs mapping primaryKey) {source : String → String}
    (hsource : ∀ p ∈ primaryKey, ∀ f : String, mapping[f]? = some p ↔ f = source p) :
    (primaryKey.keys.map source).Perm mapping.keys := by
  have hinj : ∀ p ∈ primaryKey.keys, ∀ q ∈ primaryKey.keys, source p = source q → p = q := by
    intro p hp q hq heq
    have hmapped := (hsource p (by simpa using hp) (source p)).mpr rfl
    have hmapped' := (hsource q (by simpa using hq) (source q)).mpr rfl
    rw [heq, hmapped'] at hmapped
    exact (Option.some.inj hmapped).symm
  apply (List.perm_ext_iff_of_nodup (primaryKey.nodup_keys.map_on hinj) mapping.nodup_keys).mpr
  intro f
  rw [List.mem_map, Std.ExtTreeMap.mem_keys, Std.ExtTreeMap.mem_iff_isSome_getElem?]
  constructor
  · rintro ⟨p, hp, rfl⟩
    rw [(hsource p (by simpa using hp) (source p)).mpr rfl]
    rfl
  · intro hf
    obtain ⟨p, hp⟩ := Option.isSome_iff_exists.mp hf
    have hkey := h.into f p hp
    exact ⟨p, by simpa using hkey, ((hsource p hkey f).mp hp).symm⟩

end Columns

/-! ## The check of foreign keys -/

/-- The last part of the check looks for a column that is missing on either side: it finds none
when each side has the columns of the other. -/
theorem findColumn_eq_none_iff {α : Type} {values : List String}
    {primaryKey : Std.ExtTreeMap String String} (fault fault' : String → α) :
    (match values.find? (· ∉ primaryKey) with
      | some p => some (fault p)
      | none => (primaryKey.keys.find? (· ∉ values)).map fault') = none ↔
      (∀ p ∈ values, p ∈ primaryKey) ∧ ∀ p ∈ primaryKey, p ∈ values := by
  cases hfind : values.find? (· ∉ primaryKey) with
  | none =>
    have hinto : ∀ p ∈ values, p ∈ primaryKey := by simpa using hfind
    simpa using fun _ => hinto
  | some p =>
    have hmem : p ∈ values := List.mem_of_find?_eq_some hfind
    have hout : p ∉ primaryKey := by simpa using List.find?_some hfind
    simp only [reduceCtorEq, false_iff, not_and]
    exact fun h => absurd (h p hmem) hout

/-- The check finds nothing wrong with a constraint exactly when both tables are known, the
referenced one has a primary key, the foreign key has the mapped columns, and these are paired
with the primary key. -/
theorem Request.foreignKeyFault?_eq_none_iff (r : Request) (key : ForeignKey)
    (constraint : SameTenantConstraint) :
    r.foreignKeyFault? key constraint = none ↔
      key.main ∈ r.columns ∧ ∃ foreign, r.columns[key.foreign]? = some foreign ∧
        foreign.primaryKey ≠ ∅ ∧ constraint.mapping.keys = key.columns.toList ∧
        Pairs constraint.mapping foreign.primaryKey := by
  unfold Request.foreignKeyFault?
  by_cases hmain : key.main ∈ r.columns
  swap
  · simp [hmain]
  cases hforeign : r.columns[key.foreign]? with
  | none => simp [hmain]
  | some foreign =>
    simp only [hmain, not_true_eq_false, if_false, true_and, Option.some.injEq,
      exists_eq_left', pairs_iff]
    by_cases hkey : foreign.primaryKey = ∅
    · simp [hkey]
    by_cases hmapping : constraint.mapping = ∅
    · -- a mapping of no column is short of the primary key in any case
      have hpos : foreign.primaryKey.size ≠ 0 := fun h =>
        hkey (Std.ExtTreeMap.eq_empty_iff_size_eq_zero.mpr h)
      simp [hkey, hmapping, Ne.symm hpos]
    by_cases hsize : constraint.mapping.size = foreign.primaryKey.size
    swap
    · simp [hkey, hmapping, hsize]
    by_cases hcolumns : constraint.mapping.keys = key.columns.toList
    swap
    · simp [hkey, hmapping, hsize, hcolumns]
    simp only [Std.ExtTreeMap.isEmpty_iff, hkey, hmapping, hsize, hcolumns, if_false, ne_eq,
      not_true_eq_false, not_false_eq_true, true_and]
    exact findColumn_eq_none_iff _ _

end Tenancy
