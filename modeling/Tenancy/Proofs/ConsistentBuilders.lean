import Tenancy.Proofs.Consistency
import Tenancy.Proofs.DefaultSchema

/-!
# Builders with a consistent request

A request is plain data, and settings are all that a caller has. They are enough for every builder
whose request is consistent: each of its fields and entries is what one setting leaves there
(`Builder.settings`), and what these settings make of a new builder in its schema is the builder
again (`Builder.setAll_settings`). So from a new builder a caller arrives at just those with a
consistent request in the schema of the start (`Builder.reachableFrom_inSchema_iff`), and what holds
of all of these follows from consistency alone.
-/

namespace Tenancy

/-! ## The settings of a builder -/

section

variable {α β : Type} [DecidableEq α] [Ord α] [Std.TransOrd α] [Std.LawfulEqOrd α]

/-- A map keeps as it is when it is given an entry that it has. -/
theorem insert_entry_eq_self {entries : Std.ExtTreeMap α β} {a : α} {v : β}
    (h : entries[a]? = some v) : entries.insert a v = entries := by
  refine Std.ExtTreeMap.ext_getElem? fun {k} => ?_
  rw [Builder.getElem?_insert_eq_ite]
  split
  · subst k
    exact h.symm
  · rfl

theorem insert_member_eq_self {members : Std.ExtTreeSet α} {a : α} (h : a ∈ members) :
    members.insert a = members := by
  refine Std.ExtTreeSet.ext_contains fun {k} => ?_
  rw [Builder.contains_insert_eq_ite]
  split
  · subst k
    exact (Std.ExtTreeSet.contains_iff_mem.mpr h).symm
  · rfl

end

namespace Request

/-- The settings for the plain fields of a request. -/
def fieldSettings (r : Request) : List Setting :=
  [.tenantSetting r.tenantSetting, .currentTenantName r.currentTenantName,
    .assignTenantName r.assignTenantName, .isCurrentTenantName r.isCurrentTenantName,
    .authorityName r.authorityName, .forceOwner r.forceOwner,
    .defaultTenantColumn r.defaultTenantColumn, .defaultEverywhere r.defaultEverywhere,
    .minNameLength r.minNameLength, .maxNameLength r.maxNameLength] ++
    (r.tenantType.map .tenantType).toList ++ (r.grantee.map .grantee).toList ++
    (r.blacklist.map .blacklist).toList

/-- The settings for the entries of a request. -/
def entrySettings (r : Request) : List Setting :=
  (r.policies.toList.map fun (t, policy) =>
    let columns := r.columns.getD t default
    .policy (.exactly t) columns.primaryKey columns.tenantColumn policy.name) ++
    (r.createdColumns.toList.map fun t => .createColumn (.exactly t)) ++
    (r.skippedDefaults.toList.map fun t => .skipDefault (.exactly t)) ++
    (r.sameTenant.toList.map fun (key, constraint) =>
      .sameTenant (.exactly key.main) (.exactly key.foreign) constraint.mapping constraint.name) ++
    (r.ownershipNames.toList.map fun (t, name) => .ownershipName (.exactly t) name) ++
    r.blacklistNames.toList.map fun (t, name) => .blacklistName (.exactly t) name

end Request

namespace Builder

/-- The settings for everything in a builder but the changes of the caller's own. -/
def settings (b : Builder) : List Setting :=
  b.request.fieldSettings ++ b.request.entrySettings ++
    [.stages b.stages, .checks b.checks, .skipNameBounds b.skipsNameBounds] ++
    (b.nameBounds.map .nameBounds).toList

variable {b : Builder}

theorem set_of_mem_fieldSettings {s : Setting} (h : s ∈ b.request.fieldSettings) : b.set s = b := by
  simp only [Request.fieldSettings, List.mem_append, List.mem_cons, List.not_mem_nil, or_false,
    Option.mem_toList, Option.map_eq_some_iff] at h
  rcases h with ((h | ⟨type, htype, rfl⟩) | ⟨role, hrole, rfl⟩) | ⟨blacklist, hblacklist, rfl⟩
  · rcases h with rfl | rfl | rfl | rfl | rfl | rfl | rfl | rfl | rfl | rfl <;> rfl
  · simp only [set, Request.set, ← htype]
  · simp only [set, Request.set, ← hrole]
  · simp only [set, Request.set, ← hblacklist]

/-- The settings for the entries find them as they are, if the request is consistent: the columns
are there that come with a policy, and the key that a constraint is kept under. -/
theorem set_of_mem_entrySettings (hr : b.request.Consistent) {s : Setting}
    (h : s ∈ b.request.entrySettings) : b.set s = b := by
  simp only [Request.entrySettings, List.mem_append, List.mem_map, Prod.exists,
    Std.ExtTreeMap.mem_toList_iff_getElem?_eq_some, Std.ExtTreeSet.mem_toList] at h
  rcases h with ((((⟨t, policy, hentry, rfl⟩ | ⟨t, ht, rfl⟩) | ⟨t, ht, rfl⟩) |
    ⟨key, constraint, hentry, rfl⟩) | ⟨t, name, hentry, rfl⟩) | ⟨t, name, hentry, rfl⟩
  · have hmem : t ∈ b.request.columns := by
      rw [hr.registered t, Std.ExtTreeMap.mem_iff_isSome_getElem?, hentry]
      rfl
    obtain ⟨columns, hcolumns⟩ :=
      Option.isSome_iff_exists.mp (Std.ExtTreeMap.mem_iff_isSome_getElem?.mp hmem)
    simp only [set, Request.set, Request.resolve, Std.ExtTreeMap.getD_eq_getD_getElem?, hcolumns,
      Option.getD_some, insert_entry_eq_self hcolumns, insert_entry_eq_self hentry]
  · simp only [set, Request.set, Request.resolve, insert_member_eq_self ht]
  · simp only [set, Request.set, Request.resolve, insert_member_eq_self ht]
  · have hkey := ForeignKey.ofMapping_eq_iff.mpr (hr.keyed key constraint hentry)
    have hkept : b.request.sameTenant.insert
        (.ofMapping key.main key.foreign constraint.mapping) constraint = b.request.sameTenant := by
      rw [hkey, insert_entry_eq_self hentry]
    exact congrArg (fun entries => { b with request := { b.request with sameTenant := entries } })
      hkept
  · simp only [set, Request.set, Request.resolve, insert_entry_eq_self hentry]
  · simp only [set, Request.set, Request.resolve, insert_entry_eq_self hentry]

theorem set_of_mem_settings (hr : b.request.Consistent) {s : Setting} (h : s ∈ b.settings) :
    b.set s = b := by
  simp only [settings, List.mem_append, List.mem_cons, List.not_mem_nil, or_false,
    Option.mem_toList, Option.map_eq_some_iff] at h
  rcases h with ((h | h) | rfl | rfl | rfl) | ⟨bounds, hbounds, rfl⟩
  · exact set_of_mem_fieldSettings h
  · exact set_of_mem_entrySettings hr h
  · rfl
  · rfl
  · rfl
  · simp only [set, ← hbounds]

theorem setAll_eq_self {settings : List Setting} (h : ∀ s ∈ settings, b.set s = b) :
    b.setAll settings = b := by
  induction settings with
  | nil => rfl
  | cons s rest ih =>
    rw [List.forall_mem_cons] at h
    show (b.set s).setAll rest = b
    rw [h.1, ih h.2]

/-- The settings are about every plain field that is not as in a new builder. -/
theorem exists_setting_of_field {slot : Slot} (ht : slot.table? = none) (hcustom : slot ≠ .custom)
    (hne : b.read slot ≠ (inSchema b.request.defaultSchema).read slot) :
    ∃ s ∈ b.settings, slot ∈ s.slots b.request.defaultSchema := by
  rw [← List.mem_flatMap]
  cases slot with
  | columns | policy | createdColumn | skippedDefault | ownershipName | blacklistName
  | sameTenant => cases ht
  | custom => exact absurd rfl hcustom
  | tenantType =>
    obtain ⟨type, htype⟩ := Option.ne_none_iff_exists'.mp hne
    simp [settings, Request.fieldSettings, Setting.slots, show b.request.tenantType = _ from htype]
  | grantee =>
    obtain ⟨role, hrole⟩ := Option.ne_none_iff_exists'.mp hne
    simp [settings, Request.fieldSettings, Setting.slots, show b.request.grantee = _ from hrole]
  | blacklist =>
    obtain ⟨list, hlist⟩ := Option.ne_none_iff_exists'.mp hne
    simp [settings, Request.fieldSettings, Setting.slots, show b.request.blacklist = _ from hlist]
  | nameBounds =>
    obtain ⟨bounds, hbounds⟩ := Option.ne_none_iff_exists'.mp hne
    simp [settings, Setting.slots, show b.nameBounds = _ from hbounds]
  | _ => simp [settings, Request.fieldSettings, Setting.slots]

/-- They are about every entry that there is. -/
theorem exists_setting_of_has (hr : b.request.Consistent) {slot : Slot} {t : Table}
    (ht : slot.table? = some t) (h : b.Has slot) :
    ∃ s ∈ b.request.entrySettings, slot ∈ s.slots b.request.defaultSchema := by
  have hvalue {α β : Type} [Ord α] [Std.TransOrd α] {entries : Std.ExtTreeMap α β} {a : α}
      (hmem : a ∈ entries) : ∃ v, entries[a]? = some v :=
    Option.isSome_iff_exists.mp (Std.ExtTreeMap.mem_iff_isSome_getElem?.mp hmem)
  have hpolicy {t : Table} (hmem : t ∈ b.request.policies) : ∃ primaryKey tenantColumn name,
      .policy (.exactly t) primaryKey tenantColumn name ∈ b.request.entrySettings := by
    simpa [Request.entrySettings] using hvalue hmem
  cases slot with
  | columns t =>
    obtain ⟨primaryKey, tenantColumn, name, hs⟩ := hpolicy ((hr.registered t).mp h)
    exact ⟨_, hs, List.mem_cons_self⟩
  | policy t =>
    obtain ⟨primaryKey, tenantColumn, name, hs⟩ := hpolicy h
    exact ⟨_, hs, List.mem_cons_of_mem _ List.mem_cons_self⟩
  | createdColumn t =>
    have hmem : t ∈ b.request.createdColumns := h
    exact ⟨.createColumn (.exactly t), by simp [Request.entrySettings, hmem], List.mem_cons_self⟩
  | skippedDefault t =>
    have hmem : t ∈ b.request.skippedDefaults := h
    exact ⟨.skipDefault (.exactly t), by simp [Request.entrySettings, hmem], List.mem_cons_self⟩
  | ownershipName t =>
    obtain ⟨name, hentry⟩ := hvalue h
    exact ⟨.ownershipName (.exactly t) name, by simp [Request.entrySettings, hentry],
      List.mem_cons_self⟩
  | blacklistName t =>
    obtain ⟨name, hentry⟩ := hvalue h
    exact ⟨.blacklistName (.exactly t) name, by simp [Request.entrySettings, hentry],
      List.mem_cons_self⟩
  | sameTenant key =>
    obtain ⟨constraint, hentry⟩ := hvalue h
    have hkey := ForeignKey.ofMapping_eq_iff.mpr (hr.keyed key constraint hentry)
    refine ⟨.sameTenant (.exactly key.main) (.exactly key.foreign) constraint.mapping
      constraint.name, ?_, List.mem_singleton.mpr (congrArg Slot.sameTenant hkey.symm)⟩
    have hsame : ∃ (k : ForeignKey) (c : SameTenantConstraint), b.request.sameTenant[k]? = some c ∧
        k.main = key.main ∧ k.foreign = key.foreign ∧ c.mapping = constraint.mapping ∧
        c.name = constraint.name :=
      ⟨key, constraint, hentry, rfl, rfl, rfl, rfl⟩
    simpa [Request.entrySettings] using hsame
  | _ => cases ht

/-- A slot for an entry that there is not is as in a new builder. -/
theorem read_of_not_has {slot : Slot} {t : Table} (ht : slot.table? = some t) (h : ¬b.Has slot)
    (schema : Option String) : b.read slot = (inSchema schema).read slot := by
  cases slot with
  | createdColumn t | skippedDefault t =>
    exact Bool.eq_false_iff.mpr (mt Std.ExtTreeSet.contains_iff_mem.mp h)
  | columns | policy | ownershipName | blacklistName | sameTenant =>
    simpa [Has, read, inSchema] using h
  | _ => cases ht

/-- So there is a setting for whatever is not as in a new builder. -/
theorem exists_setting_of_ne (hr : b.request.Consistent) {slot : Slot} (hcustom : slot ≠ .custom)
    (hne : b.read slot ≠ (inSchema b.request.defaultSchema).read slot) :
    ∃ s ∈ b.settings, slot ∈ s.slots b.request.defaultSchema := by
  cases ht : slot.table? with
  | none => exact exists_setting_of_field ht hcustom hne
  | some t =>
    have hhas : b.Has slot := Classical.byContradiction fun h => hne (read_of_not_has ht h _)
    obtain ⟨s, hs, hslot⟩ := exists_setting_of_has hr ht hhas
    exact ⟨s, by simp [settings, hs], hslot⟩

theorem custom_not_mem_slots {s : Setting} (hs : s ∈ b.settings) (schema : Option String) :
    Slot.custom ∉ s.slots schema := by
  have hflat : Slot.custom ∉ b.settings.flatMap (·.slots schema) := by
    simp [settings, Request.fieldSettings, Request.entrySettings, Setting.slots]
  exact fun hslot => hflat (List.mem_flatMap.mpr ⟨s, hs, hslot⟩)

/-- A builder with a consistent request is what its settings make of a new one in its schema, with
the caller's own changes behind them. -/
theorem setAll_settings (hr : b.request.Consistent) :
    ((inSchema b.request.defaultSchema).setAll b.settings).addCustom b.request.custom = b := by
  -- without those changes the settings leave the builder as it is, so it agrees with what they
  -- make of a new one wherever one of them writes
  let bare : Builder := { b with request := { b.request with custom := [] } }
  have hconsistent : bare.request.Consistent := ⟨hr.registered, hr.keyed⟩
  have hbare : bare.setAll b.settings = bare :=
    setAll_eq_self fun _ => set_of_mem_settings hconsistent
  have hmade : (inSchema b.request.defaultSchema).setAll b.settings = bare := by
    refine ext_read (by simp [inSchema, bare]) fun slot => ?_
    by_cases hcustom : slot = .custom
    · subst hcustom
      exact read_setAll_of_forall_not fun s hs =>
        mt Setting.writes_iff.mp (custom_not_mem_slots hs _)
    · rw [← hbare]
      refine read_setAll_congr rfl hcustom (or_iff_not_imp_left.mpr fun hne => ?_)
      obtain ⟨s, hs, hslot⟩ := exists_setting_of_ne hconsistent hcustom (Ne.symm hne)
      exact ⟨s, hs, Setting.writes_iff.mpr hslot⟩
  rw [hmade]
  rfl

/-! ## What a caller can arrive at -/

theorem ReachableFrom.setAll {start : Builder} (h : ReachableFrom start b)
    (settings : List Setting) : ReachableFrom start (b.setAll settings) := by
  induction settings generalizing b with
  | nil => exact h
  | cons s rest ih => exact ih (h.set s)

/-- From a new builder a caller can arrive at just those in its schema whose request is
consistent. -/
theorem reachableFrom_inSchema_iff {schema : Option String} :
    ReachableFrom (.inSchema schema) b ↔
      b.request.Consistent ∧ b.request.defaultSchema = schema := by
  constructor
  · intro h
    exact ⟨h.consistent, h.defaultSchema⟩
  · rintro ⟨hr, rfl⟩
    have hreach : ReachableFrom (.inSchema b.request.defaultSchema)
        (((inSchema b.request.defaultSchema).setAll b.settings).setAll
          (b.request.custom.map Configuration.customSetting)) :=
      (ReachableFrom.refl.setAll _).setAll _
    rwa [Configuration.setAll_customSetting, setAll_settings hr] at hreach

/-- So a builder is reachable when its request is consistent. -/
theorem reachable_iff_consistent : b.Reachable ↔ b.request.Consistent := by
  simp [reachable_iff_exists_schema, reachableFrom_inSchema_iff]

end Builder

end Tenancy
