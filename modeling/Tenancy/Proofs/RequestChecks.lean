import Mathlib.Data.Set.Function
import Tenancy.Proofs.SameTenant

/-!
# What the checks of a request ask for

The check of foreign keys compares numbers and looks for a column missing on either side. Over maps
of any size this says that the mapping is a bijection from the columns of the foreign key onto the
primary key that it refers to (`Request.foreignKeyFault?_eq_none_iff_sound`). Constraints and tables
are gone through in the order of their keys, so the fault reported is that of the first one that is
not sound, whatever comes after it (`RequestCheck.checks_outcome`).
-/

namespace Tenancy

/-! ## The first entry -/

section First

variable {α β : Type} {R : α → α → Prop} {l : List α}

/-- In an ordered list, the first item with an answer is the smallest one. -/
theorem findSome?_eq_some_iff_of_ordered (hasymm : ∀ a b, R a b → ¬ R b a) (h : l.Pairwise R)
    {f : α → Option β} {answer : β} :
    l.findSome? f = some answer ↔
      ∃ a ∈ l, f a = some answer ∧ ∀ b ∈ l, R b a → f b = none := by
  rw [List.findSome?_eq_some_iff]
  constructor
  · rintro ⟨before, a, after, rfl, ha, hbefore⟩
    refine ⟨a, by simp, ha, fun b hb hsmaller => ?_⟩
    exact hbefore b ((mem_before_iff hasymm h).mpr ⟨hb, hsmaller⟩)
  · rintro ⟨a, hmem, ha, hsmaller⟩
    obtain ⟨before, after, rfl⟩ := List.append_of_mem hmem
    refine ⟨before, a, after, rfl, ha, fun b hb => ?_⟩
    obtain ⟨hb, hlt⟩ := (mem_before_iff hasymm h).mp hb
    exact hsmaller b hb hlt

theorem find?_eq_some_iff_of_ordered (hasymm : ∀ a b, R a b → ¬ R b a) (h : l.Pairwise R)
    {p : α → Bool} {a : α} :
    l.find? p = some a ↔ a ∈ l ∧ p a = true ∧ ∀ b ∈ l, R b a → p b = false := by
  rw [List.find?_eq_findSome?_guard, findSome?_eq_some_iff_of_ordered hasymm h]
  simp [Option.guard_eq_some_iff, Option.guard_eq_none_iff]

/-- Of two keys at most one is smaller. -/
theorem compare_lt_asymm [Ord α] [Std.TransOrd α] (a b : α) (h : compare a b = .lt) :
    ¬ compare b a = .lt := by
  rw [Std.OrientedOrd.eq_swap (a := b), h]
  simp

end First

/-! ## Sound constraints -/

/-- A pairing is a bijection onto the primary key. -/
theorem pairs_iff_bijOn {mapping primaryKey : Std.ExtTreeMap String String} :
    Pairs mapping primaryKey ↔
      Set.BijOn (fun f => mapping.getD f default) {f | f ∈ mapping} {p | p ∈ primaryKey} := by
  have hvalue : ∀ f ∈ mapping, mapping[f]? = some (mapping.getD f default) := by
    intro f hf
    simp [Std.ExtTreeMap.getD_eq_getD_getElem?, hf]
  have hmem : ∀ f p : String, mapping[f]? = some p → f ∈ mapping ∧ mapping.getD f default = p := by
    intro f p hf
    refine ⟨Std.ExtTreeMap.mem_iff_isSome_getElem?.mpr (by simp [hf]), ?_⟩
    simp [Std.ExtTreeMap.getD_eq_getD_getElem?, hf]
  constructor
  · intro h
    refine ⟨fun f hf => h.into f _ (hvalue f hf), fun f hf g hg heq => ?_, fun p hp => ?_⟩
    · have hfg : mapping[g]? = some (mapping.getD f default) :=
        (hvalue g hg).trans (congrArg some heq.symm)
      exact h.injective f g _ (hvalue f hf) hfg
    · obtain ⟨f, hf⟩ := h.onto p hp
      exact ⟨f, hmem f p hf⟩
  · rintro ⟨hinto, hinj, honto⟩
    exact {
      into := fun f p hf => by
        obtain ⟨hfm, rfl⟩ := hmem f p hf
        exact hinto hfm
      onto := fun p hp => by
        obtain ⟨f, hf, rfl⟩ := honto hp
        exact ⟨f, hvalue f hf⟩
      injective := fun f g p hf hg => by
        obtain ⟨hfm, hfp⟩ := hmem f p hf
        obtain ⟨hgm, hgp⟩ := hmem g p hg
        have heq : mapping.getD f default = mapping.getD g default := hfp.trans hgp.symm
        exact hinj hfm hgm heq }

/-- A set has the keys of a map when both have the same members. -/
theorem keys_eq_toList_iff {mapping : Std.ExtTreeMap String String} {s : Std.ExtTreeSet String} :
    mapping.keys = s.toList ↔ ∀ f, f ∈ s ↔ f ∈ mapping := by
  constructor
  · intro h f
    rw [← Std.ExtTreeSet.mem_toList, ← h, Std.ExtTreeMap.mem_keys]
  · intro h
    have hperm : mapping.keys.Perm s.toList := by
      refine (List.perm_ext_iff_of_nodup mapping.nodup_keys ?_).mpr fun f => by simp [h f]
      exact (ordered_toList s).imp fun hlt => String.ne_of_lt hlt
    exact hperm.eq_of_pairwise (fun f g _ _ hfg hgf => absurd hgf (String.lt_asymm hfg))
      (ordered_keys mapping) (ordered_toList s)

namespace Request

/-- A same-tenant constraint is sound when both tables are known, the one referred to has a primary
key, and the mapping takes the columns of the foreign key one to one onto the primary key. -/
structure Sound (r : Request) (key : ForeignKey) (constraint : SameTenantConstraint)
    (columns : TableColumns) : Prop where
  main : key.main ∈ r.columns
  foreign : r.columns[key.foreign]? = some columns
  hasKey : columns.primaryKey ≠ ∅
  mapped : ∀ f, f ∈ key.columns ↔ f ∈ constraint.mapping
  bijective : Set.BijOn (fun f => constraint.mapping.getD f default) {f | f ∈ constraint.mapping}
    {p | p ∈ columns.primaryKey}

theorem foreignKeyFault?_eq_none_iff_sound (r : Request) (key : ForeignKey)
    (constraint : SameTenantConstraint) :
    r.foreignKeyFault? key constraint = none ↔ ∃ columns, r.Sound key constraint columns := by
  rw [foreignKeyFault?_eq_none_iff]
  constructor
  · rintro ⟨hmain, columns, hforeign, hkey, hkeys, hpairs⟩
    exact ⟨columns, hmain, hforeign, hkey, keys_eq_toList_iff.mp hkeys, pairs_iff_bijOn.mp hpairs⟩
  · rintro ⟨columns, h⟩
    exact ⟨h.main, columns, h.foreign, h.hasKey, keys_eq_toList_iff.mpr h.mapped,
      pairs_iff_bijOn.mpr h.bijective⟩

end Request

/-- Every constraint of the request is sound. -/
def Request.AllSound (r : Request) : Prop :=
  ∀ (key : ForeignKey) (constraint : SameTenantConstraint),
    r.sameTenant[key]? = some constraint → ∃ columns, r.Sound key constraint columns

/-! ## Faults of constraints -/

namespace RequestFault

/-- The constraint that the fault is about. -/
def constraint? : RequestFault → Option String
  | unknownMainTable name _ | unknownForeignTable name _ | noPrimaryKey name _ | noMappings name
  | mappingCount name _ _ _ | columnsNotMapped name | notKeyColumn name _ _
  | keyColumnNotMapped name _ _ => some name
  | unknownColumnTable _ | unknownSkippedTable _ | zeroMinLength | minLengthAboveMax _ _ => none

theorem rule_of_constraint? {fault : RequestFault} {name : String}
    (h : fault.constraint? = some name) : fault.rule = .foreignKeyMapping := by
  cases fault with
  | unknownColumnTable | unknownSkippedTable | zeroMinLength | minLengthAboveMax => cases h
  | _ => rfl

/-- The message of a fault of a constraint begins with the name of the constraint. -/
theorem message_of_constraint? {fault : RequestFault} {name : String}
    (h : fault.constraint? = some name) :
    (s!"constraint '{name}'").toList <+: fault.message.toList := by
  cases fault with
  | unknownColumnTable | unknownSkippedTable | zeroMinLength | minLengthAboveMax => cases h
  | _ =>
    obtain rfl := Option.some.inj h
    unfold message
    simp

end RequestFault

/-- The fault found in a constraint is about this constraint. -/
theorem Request.constraint?_of_foreignKeyFault? {r : Request} {key : ForeignKey}
    {constraint : SameTenantConstraint} {fault : RequestFault}
    (h : r.foreignKeyFault? key constraint = some fault) :
    fault.constraint? = some constraint.name := by
  unfold foreignKeyFault? at h
  by_cases hmain : key.main ∉ r.columns
  · rw [if_pos hmain] at h
    cases h
    rfl
  rw [if_neg hmain] at h
  cases hforeign : r.columns[key.foreign]? with
  | none =>
    rw [hforeign] at h
    cases h
    rfl
  | some foreign =>
    rw [hforeign] at h
    dsimp only at h
    -- each of the comparisons of the mapping with the primary key names the constraint
    split_ifs at h
    · cases h; rfl
    · cases h; rfl
    · cases h; rfl
    · cases h; rfl
    · split at h
      · cases h; rfl
      · obtain ⟨column, -, rfl⟩ := Option.map_eq_some_iff.mp h
        rfl

/-! ## The check of foreign keys -/

/-- The first constraint that is not sound, and the fault that is reported for it. -/
structure FirstUnsound (r : Request) (key : ForeignKey) (constraint : SameTenantConstraint)
    (fault : RequestFault) : Prop where
  entry : r.sameTenant[key]? = some constraint
  unsound : ¬ ∃ columns, r.Sound key constraint columns
  earlier : ∀ (k : ForeignKey) (c : SameTenantConstraint), r.sameTenant[k]? = some c →
    compare k key = .lt → ∃ columns, r.Sound k c columns
  rule : fault.rule = .foreignKeyMapping
  named : (s!"constraint '{constraint.name}'").toList <+: fault.message.toList
  /-- Whatever the entries after it, it is the one reported. -/
  later : ∀ r' : Request, r'.columns = r.columns →
    (∀ k, (compare k key).isLE → r'.sameTenant[k]? = r.sameTenant[k]?) →
    RequestCheck.foreignKeys.fault? r' = some fault

namespace RequestCheck

variable {r : Request}

theorem foreignKeys_fault?_eq_none_iff : foreignKeys.fault? r = none ↔ r.AllSound := by
  unfold fault? Request.AllSound
  rw [List.findSome?_eq_none_iff]
  simp only [Prod.forall, Std.ExtTreeMap.mem_toList_iff_getElem?_eq_some,
    r.foreignKeyFault?_eq_none_iff_sound]

/-- The check reports the fault of the constraint with the smallest key among those at fault. -/
theorem foreignKeys_fault?_eq_some_iff {fault : RequestFault} :
    foreignKeys.fault? r = some fault ↔
      ∃ (key : ForeignKey) (constraint : SameTenantConstraint),
        r.sameTenant[key]? = some constraint ∧ r.foreignKeyFault? key constraint = some fault ∧
          ∀ (k : ForeignKey) (c : SameTenantConstraint), r.sameTenant[k]? = some c →
            compare k key = .lt → r.foreignKeyFault? k c = none := by
  unfold fault?
  rw [findSome?_eq_some_iff_of_ordered (fun _ _ => compare_lt_asymm _ _)
    r.sameTenant.ordered_keys_toList]
  simp only [Prod.exists, Prod.forall, Std.ExtTreeMap.mem_toList_iff_getElem?_eq_some]

theorem exists_firstUnsound {fault : RequestFault} (h : foreignKeys.fault? r = some fault) :
    ∃ key constraint, FirstUnsound r key constraint fault := by
  obtain ⟨key, constraint, hentry, hfault, hearlier⟩ := foreignKeys_fault?_eq_some_iff.mp h
  have hconstraint := Request.constraint?_of_foreignKeyFault? hfault
  refine ⟨key, constraint, {
    entry := hentry
    unsound := ?_
    earlier := ?_
    rule := RequestFault.rule_of_constraint? hconstraint
    named := RequestFault.message_of_constraint? hconstraint
    later := ?_ }⟩
  · rw [← r.foreignKeyFault?_eq_none_iff_sound, hfault]
    simp
  · intro k c hc hlt
    exact (r.foreignKeyFault?_eq_none_iff_sound k c).mp (hearlier k c hc hlt)
  · intro r' hcolumns hagree
    -- a constraint is looked at together with the tables, and with no other constraint
    have hsame : ∀ k c, r'.foreignKeyFault? k c = r.foreignKeyFault? k c := by
      intro k c
      unfold Request.foreignKeyFault?
      rw [hcolumns]
    refine foreignKeys_fault?_eq_some_iff.mpr ⟨key, constraint, ?_, ?_, ?_⟩
    · rw [hagree key (by simp), hentry]
    · rw [hsame, hfault]
    · intro k c hc hlt
      rw [hagree k (by simp [hlt])] at hc
      rw [hsame, hearlier k c hc hlt]

/-! ## The checks in their order -/

/-- The first table of a set that has no column metadata. -/
structure FirstUnknown (tables : Std.ExtTreeSet Table) (r : Request) (t : Table) : Prop where
  mem : t ∈ tables
  unknown : t ∉ r.columns
  earlier : ∀ u ∈ tables, compare u t = .lt → u ∈ r.columns

/-- Both checks of a set of tables look for the first one that has no column metadata. -/
theorem find?_unknown_eq_some_iff {tables : Std.ExtTreeSet Table} {t : Table} :
    tables.toList.find? (· ∉ r.columns) = some t ↔ FirstUnknown tables r t := by
  rw [find?_eq_some_iff_of_ordered compare_lt_asymm tables.ordered_toList]
  simp only [Std.ExtTreeSet.mem_toList, decide_eq_true_eq, decide_eq_false_iff_not, not_not]
  exact ⟨fun ⟨hmem, hunknown, hearlier⟩ => ⟨hmem, hunknown, hearlier⟩,
    fun h => ⟨h.mem, h.unknown, h.earlier⟩⟩

theorem find?_unknown_eq_none_iff {tables : Std.ExtTreeSet Table} :
    tables.toList.find? (· ∉ r.columns) = none ↔ ∀ t ∈ tables, t ∈ r.columns := by
  simp

/-- What the checks say of any request. The check of foreign keys accepts it exactly when every
constraint is sound, and otherwise reports the first one that is not. The checks in their order
accept it exactly when moreover the tables of both sets have column metadata. Otherwise the first
check that fails is the one reported, with the first table that it fails for. -/
theorem checks_outcome (r : Request) :
    (foreignKeys.fault? r = none ↔ r.AllSound) ∧
      (∀ fault, foreignKeys.fault? r = some fault →
        ∃ key constraint, FirstUnsound r key constraint fault) ∧
      (defaults.findSome? (·.fault? r) = none ↔
        r.AllSound ∧ (∀ t ∈ r.createdColumns, t ∈ r.columns) ∧
          ∀ t ∈ r.skippedDefaults, t ∈ r.columns) ∧
      ∀ fault, defaults.findSome? (·.fault? r) = some fault →
        (foreignKeys.fault? r = some fault ∨
          (r.AllSound ∧ ∃ t, FirstUnknown r.createdColumns r t ∧
            fault = .unknownColumnTable t) ∨
          (r.AllSound ∧ (∀ t ∈ r.createdColumns, t ∈ r.columns) ∧
            ∃ t, FirstUnknown r.skippedDefaults r t ∧ fault = .unknownSkippedTable t)) ∧
        ∀ b : Builder, b.request = r → b.checks = defaults →
          b.build = .error (.request fault) := by
  refine ⟨foreignKeys_fault?_eq_none_iff, fun _ => exists_firstUnsound, ?_, fun fault h => ⟨?_, ?_⟩⟩
  · rw [← foreignKeys_fault?_eq_none_iff, ← find?_unknown_eq_none_iff, ← find?_unknown_eq_none_iff]
    simp only [defaults, List.findSome?_eq_none_iff, List.forall_mem_cons, List.not_mem_nil,
      false_imp_iff, implies_true, and_true, fault?, Option.map_eq_none_iff]
  · cases hkeys : foreignKeys.fault? r with
    | some first =>
      simp only [defaults, List.findSome?_cons, hkeys] at h
      exact .inl h
    | none =>
      have hsound : r.AllSound := foreignKeys_fault?_eq_none_iff.mp hkeys
      cases hcreated : createdColumns.fault? r with
      | some first =>
        simp only [defaults, List.findSome?_cons, hkeys, hcreated, Option.some.injEq] at h
        obtain ⟨t, hfind, rfl⟩ := Option.map_eq_some_iff.mp hcreated
        exact .inr (.inl ⟨hsound, t, find?_unknown_eq_some_iff.mp hfind, h.symm⟩)
      | none =>
        have hknown := find?_unknown_eq_none_iff.mp (Option.map_eq_none_iff.mp hcreated)
        simp only [defaults, List.findSome?_cons, hkeys, hcreated] at h
        have hskipped : skippedDefaults.fault? r = some fault := by
          cases hlast : skippedDefaults.fault? r with
          | none => simp [hlast] at h
          | some last => simpa [hlast] using h
        obtain ⟨t, hfind, heq⟩ := Option.map_eq_some_iff.mp hskipped
        exact .inr (.inr ⟨hsound, hknown, t, find?_unknown_eq_some_iff.mp hfind, heq.symm⟩)
  · rintro b rfl hchecks
    exact Builder.build_of_findSome? (by rw [hchecks, h])

end RequestCheck

end Tenancy
