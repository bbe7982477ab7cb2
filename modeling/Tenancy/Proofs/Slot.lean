import Tenancy.Builder.Setting

/-!
# Slots

The state of a builder in its smallest parts: each plain field, each entry of each map or set, and
the list of the caller's own changes. Builders in one schema that agree on all slots are equal
(`Builder.ext_read`). A setting writes the slots that it can change (`Setting.Writes`), and these
are few: it leaves the others alone (`Builder.read_set_of_notMem`), and puts into its own what it
has been given, whatever was there (`Builder.read_set_of_mem`). Only the caller's own changes pile
up.
-/

namespace Tenancy

inductive Slot where
  | tenantSetting
  | tenantType
  | currentTenantName
  | assignTenantName
  | isCurrentTenantName
  | authorityName
  | forceOwner
  | defaultTenantColumn
  | grantee
  | defaultEverywhere
  | blacklist
  | minNameLength
  | maxNameLength
  | stages
  | checks
  | nameBounds
  | skipsNameBounds
  | columns (t : Table)
  | policy (t : Table)
  | createdColumn (t : Table)
  | skippedDefault (t : Table)
  | ownershipName (t : Table)
  | blacklistName (t : Table)
  | sameTenant (key : ForeignKey)
  /-- All changes of the caller's own. -/
  | custom
deriving DecidableEq

/-- What a slot holds. -/
@[reducible] def Slot.Value : Slot → Type
  | tenantSetting | currentTenantName | assignTenantName | isCurrentTenantName | authorityName
  | defaultTenantColumn => String
  | tenantType | grantee | ownershipName _ | blacklistName _ => Option String
  | forceOwner | defaultEverywhere | skipsNameBounds | createdColumn _ | skippedDefault _ => Bool
  | minNameLength | maxNameLength => UInt64
  | blacklist => Option Blacklist
  | stages => List Stage
  | checks => List RequestCheck
  | nameBounds => Option (List LengthBounds)
  | columns _ => Option TableColumns
  | policy _ => Option Policy
  | sameTenant _ => Option SameTenantConstraint
  | custom => List CustomChange

namespace Builder

def read (b : Builder) : (slot : Slot) → slot.Value
  | .tenantSetting => b.request.tenantSetting
  | .tenantType => b.request.tenantType
  | .currentTenantName => b.request.currentTenantName
  | .assignTenantName => b.request.assignTenantName
  | .isCurrentTenantName => b.request.isCurrentTenantName
  | .authorityName => b.request.authorityName
  | .forceOwner => b.request.forceOwner
  | .defaultTenantColumn => b.request.defaultTenantColumn
  | .grantee => b.request.grantee
  | .defaultEverywhere => b.request.defaultEverywhere
  | .blacklist => b.request.blacklist
  | .minNameLength => b.request.minNameLength
  | .maxNameLength => b.request.maxNameLength
  | .stages => b.stages
  | .checks => b.checks
  | .nameBounds => b.nameBounds
  | .skipsNameBounds => b.skipsNameBounds
  | .columns t => b.request.columns[t]?
  | .policy t => b.request.policies[t]?
  | .createdColumn t => b.request.createdColumns.contains t
  | .skippedDefault t => b.request.skippedDefaults.contains t
  | .ownershipName t => b.request.ownershipNames[t]?
  | .blacklistName t => b.request.blacklistNames[t]?
  | .sameTenant key => b.request.sameTenant[key]?
  | .custom => b.request.custom

/-- Nothing but the schema is outside the slots. -/
theorem ext_read {b b' : Builder} (hschema : b.request.defaultSchema = b'.request.defaultSchema)
    (hread : ∀ slot, b.read slot = b'.read slot) : b = b' := by
  obtain ⟨r, stages, checks, bounds, skips⟩ := b
  obtain ⟨r', stages', checks', bounds', skips'⟩ := b'
  have hcolumns : r.columns = r'.columns :=
    Std.ExtTreeMap.ext_getElem? fun {t} => hread (.columns t)
  have hpolicies : r.policies = r'.policies :=
    Std.ExtTreeMap.ext_getElem? fun {t} => hread (.policy t)
  have hcreated : r.createdColumns = r'.createdColumns :=
    Std.ExtTreeSet.ext_contains fun {t} => hread (.createdColumn t)
  have hskipped : r.skippedDefaults = r'.skippedDefaults :=
    Std.ExtTreeSet.ext_contains fun {t} => hread (.skippedDefault t)
  have hownership : r.ownershipNames = r'.ownershipNames :=
    Std.ExtTreeMap.ext_getElem? fun {t} => hread (.ownershipName t)
  have hblacklist : r.blacklistNames = r'.blacklistNames :=
    Std.ExtTreeMap.ext_getElem? fun {t} => hread (.blacklistName t)
  have hsame : r.sameTenant = r'.sameTenant :=
    Std.ExtTreeMap.ext_getElem? fun {key} => hread (.sameTenant key)
  have hrequest : r = r' := by
    cases r
    cases r'
    rw [Request.mk.injEq]
    exact ⟨hschema, hread .tenantSetting, hread .tenantType, hread .currentTenantName,
      hread .assignTenantName, hread .isCurrentTenantName, hread .authorityName,
      hread .forceOwner, hread .defaultTenantColumn, hread .grantee, hcolumns, hpolicies,
      hcreated, hsame, hownership, hread .blacklist, hblacklist, hread .defaultEverywhere,
      hskipped, hread .custom, hread .minNameLength, hread .maxNameLength⟩
  rw [Builder.mk.injEq]
  exact ⟨hrequest, hread .stages, hread .checks, hread .nameBounds, hread .skipsNameBounds⟩

/-- A builder unlike a new one in every plain field and in what it has for a table and a foreign
key. -/
def unlikeNew (schema : Option String) (t : Table) (key : ForeignKey) : Builder where
  request :=
    { defaultSchema := schema, tenantSetting := "", tenantType := some "", currentTenantName := "",
      assignTenantName := "", isCurrentTenantName := "", authorityName := "", forceOwner := true,
      defaultTenantColumn := "", grantee := some "", columns := .ofList [(t, default)],
      policies := .ofList [(t, default)], createdColumns := .ofList [t],
      sameTenant := .ofList [(key, default)], ownershipNames := .ofList [(t, "")],
      blacklist := some default, blacklistNames := .ofList [(t, "")], defaultEverywhere := true,
      skippedDefaults := .ofList [t], custom := [default], minNameLength := 0, maxNameLength := 0 }
  stages := []
  checks := []
  nameBounds := some []
  skipsNameBounds := true

/-- No slot holds the same in all builders of a schema. -/
theorem exists_read_ne (schema : Option String) (slot : Slot) :
    ∃ b : Builder, b.request.defaultSchema = schema ∧
      b.read slot ≠ (inSchema schema).read slot := by
  cases slot with
  | columns t | policy t | createdColumn t | skippedDefault t | ownershipName t | blacklistName t =>
    exact ⟨unlikeNew schema t default, rfl, by simp [read, unlikeNew, inSchema]⟩
  | sameTenant key =>
    exact ⟨unlikeNew schema default key, rfl, by simp [read, unlikeNew, inSchema]⟩
  | _ =>
    exact ⟨unlikeNew schema default default, rfl, by
      simp [read, unlikeNew, inSchema, Stage.defaultChain, RequestCheck.defaults]⟩

end Builder

/-- The table that a reference means in a schema. -/
def TableReference.within (schema : Option String) : TableReference → Table
  | .named name => { schema, name }
  | .exactly table => table

theorem Request.resolve_eq (r : Request) (ref : TableReference) :
    r.resolve ref = ref.within r.defaultSchema := by
  cases ref <;> rfl

/-- The foreign key that a mapping is for. -/
def ForeignKey.ofMapping (main foreign : Table) (mapping : Std.ExtTreeMap String String) :
    ForeignKey where
  main
  foreign
  columns := .ofList mapping.keys

namespace Setting

/-- The foreign key that a setting keeps inside the tenant. -/
def foreignKey? (schema : Option String) : Setting → Option ForeignKey
  | .sameTenant main foreign mapping _ =>
    some (.ofMapping (main.within schema) (foreign.within schema) mapping)
  | _ => none

/-- The slots that a setting is for. A policy comes with the columns of its table. -/
def slots (schema : Option String) : Setting → List Slot
  | .tenantSetting _ => [.tenantSetting]
  | .tenantType _ => [.tenantType]
  | .currentTenantName _ => [.currentTenantName]
  | .assignTenantName _ => [.assignTenantName]
  | .isCurrentTenantName _ => [.isCurrentTenantName]
  | .authorityName _ => [.authorityName]
  | .forceOwner _ => [.forceOwner]
  | .defaultTenantColumn _ => [.defaultTenantColumn]
  | .grantee _ => [.grantee]
  | .policy t _ _ _ => [.columns (t.within schema), .policy (t.within schema)]
  | .createColumn t => [.createdColumn (t.within schema)]
  | .defaultEverywhere _ => [.defaultEverywhere]
  | .skipDefault t => [.skippedDefault (t.within schema)]
  | .sameTenant main foreign mapping _ =>
    [.sameTenant (.ofMapping (main.within schema) (foreign.within schema) mapping)]
  | .ownershipName t _ => [.ownershipName (t.within schema)]
  | .blacklist _ => [.blacklist]
  | .blacklistName t _ => [.blacklistName (t.within schema)]
  | .custom _ _ => [.custom]
  | .stages _ => [.stages]
  | .checks _ => [.checks]
  | .nameBounds _ => [.nameBounds]
  | .skipNameBounds _ => [.skipsNameBounds]
  | .maxNameLength _ => [.maxNameLength]
  | .minNameLength _ => [.minNameLength]

end Setting

namespace Builder

@[simp] theorem defaultSchema_set (b : Builder) (s : Setting) :
    (b.set s).request.defaultSchema = b.request.defaultSchema := by
  cases s <;> rfl

/-! ## Entries -/

section

variable {α β : Type} [DecidableEq α] [Ord α] [Std.TransOrd α] [Std.LawfulEqOrd α]

theorem getElem?_insert_eq_ite (entries : Std.ExtTreeMap α β) (a k : α) (v : β) :
    (entries.insert a v)[k]? = if a = k then some v else entries[k]? := by
  by_cases h : a = k <;> simp [Std.ExtTreeMap.getElem?_insert, h]

theorem contains_insert_eq_ite (members : Std.ExtTreeSet α) (a k : α) :
    (members.insert a).contains k = if a = k then true else members.contains k := by
  by_cases h : a = k <;> simp [Std.ExtTreeSet.contains_insert, h]

end

section

variable (b : Builder) (ref : TableReference) (t : Table)

theorem read_columns_set (primaryKey : Std.ExtTreeMap String String) (tenantColumn : Option String)
    (name : String) :
    (b.set (.policy ref primaryKey tenantColumn name)).read (.columns t) =
      if ref.within b.request.defaultSchema = t then some { tenantColumn, primaryKey }
      else b.read (.columns t) := by
  simp only [read, set, Request.set, Request.resolve_eq, getElem?_insert_eq_ite]

theorem read_policy_set (primaryKey : Std.ExtTreeMap String String) (tenantColumn : Option String)
    (name : String) :
    (b.set (.policy ref primaryKey tenantColumn name)).read (.policy t) =
      if ref.within b.request.defaultSchema = t then some { name } else b.read (.policy t) := by
  simp only [read, set, Request.set, Request.resolve_eq, getElem?_insert_eq_ite]

theorem read_createdColumn_set :
    (b.set (.createColumn ref)).read (.createdColumn t) =
      if ref.within b.request.defaultSchema = t then true else b.read (.createdColumn t) := by
  simp only [read, set, Request.set, Request.resolve_eq, contains_insert_eq_ite]

theorem read_skippedDefault_set :
    (b.set (.skipDefault ref)).read (.skippedDefault t) =
      if ref.within b.request.defaultSchema = t then true else b.read (.skippedDefault t) := by
  simp only [read, set, Request.set, Request.resolve_eq, contains_insert_eq_ite]

theorem read_ownershipName_set (name : String) :
    (b.set (.ownershipName ref name)).read (.ownershipName t) =
      if ref.within b.request.defaultSchema = t then some name
      else b.read (.ownershipName t) := by
  simp only [read, set, Request.set, Request.resolve_eq, getElem?_insert_eq_ite]

theorem read_blacklistName_set (name : String) :
    (b.set (.blacklistName ref name)).read (.blacklistName t) =
      if ref.within b.request.defaultSchema = t then some name
      else b.read (.blacklistName t) := by
  simp only [read, set, Request.set, Request.resolve_eq, getElem?_insert_eq_ite]

theorem read_sameTenant_set (main foreign : TableReference)
    (mapping : Std.ExtTreeMap String String) (name : String) (key : ForeignKey) :
    (b.set (.sameTenant main foreign mapping name)).read (.sameTenant key) =
      if .ofMapping (main.within b.request.defaultSchema) (foreign.within b.request.defaultSchema)
        mapping = key then some { name, mapping }
      else b.read (.sameTenant key) := by
  show (b.request.sameTenant.insert (.ofMapping (b.request.resolve main)
    (b.request.resolve foreign) mapping) _)[key]? = _
  simp only [read, Request.resolve_eq, getElem?_insert_eq_ite]

end

/-! ## What a setting writes -/

section

variable {b b' : Builder} {s : Setting} {slot : Slot}

/-- A setting leaves the slots alone that are not its own. -/
theorem read_set_of_notMem (h : slot ∉ s.slots b.request.defaultSchema) :
    (b.set s).read slot = b.read slot := by
  cases s with
  | policy ref primaryKey tenantColumn name =>
    cases slot with
    | columns t =>
      rw [read_columns_set, if_neg fun heq => h (by simp [Setting.slots, heq])]
    | policy t =>
      rw [read_policy_set, if_neg fun heq => h (by simp [Setting.slots, heq])]
    | _ => rfl
  | createColumn ref =>
    cases slot with
    | createdColumn t =>
      rw [read_createdColumn_set, if_neg fun heq => h (by simp [Setting.slots, heq])]
    | _ => rfl
  | skipDefault ref =>
    cases slot with
    | skippedDefault t =>
      rw [read_skippedDefault_set, if_neg fun heq => h (by simp [Setting.slots, heq])]
    | _ => rfl
  | sameTenant main foreign mapping name =>
    cases slot with
    | sameTenant key =>
      rw [read_sameTenant_set, if_neg fun heq => h (by simp [Setting.slots, heq])]
    | _ => rfl
  | ownershipName ref name =>
    cases slot with
    | ownershipName t =>
      rw [read_ownershipName_set, if_neg fun heq => h (by simp [Setting.slots, heq])]
    | _ => rfl
  | blacklistName ref name =>
    cases slot with
    | blacklistName t =>
      rw [read_blacklistName_set, if_neg fun heq => h (by simp [Setting.slots, heq])]
    | _ => rfl
  -- a plain field: every other slot is untouched, and its own is excluded
  | _ => cases slot <;> first | rfl | exact absurd List.mem_cons_self h

/-- A setting puts the same into its slots in all builders of a schema. -/
theorem read_set_of_mem (hschema : b.request.defaultSchema = b'.request.defaultSchema)
    (h : slot ∈ s.slots b.request.defaultSchema) (hcustom : slot ≠ .custom) :
    (b.set s).read slot = (b'.set s).read slot := by
  cases s with
  | policy ref primaryKey tenantColumn name =>
    simp only [Setting.slots, List.mem_cons, List.not_mem_nil, or_false] at h
    rcases h with rfl | rfl
    · rw [read_columns_set, read_columns_set, ← hschema, if_pos rfl, if_pos rfl]
    · rw [read_policy_set, read_policy_set, ← hschema, if_pos rfl, if_pos rfl]
  | createColumn ref =>
    cases List.mem_singleton.mp h
    rw [read_createdColumn_set, read_createdColumn_set, ← hschema, if_pos rfl, if_pos rfl]
  | skipDefault ref =>
    cases List.mem_singleton.mp h
    rw [read_skippedDefault_set, read_skippedDefault_set, ← hschema, if_pos rfl, if_pos rfl]
  | sameTenant main foreign mapping name =>
    cases List.mem_singleton.mp h
    rw [read_sameTenant_set, read_sameTenant_set, ← hschema, if_pos rfl, if_pos rfl]
  | ownershipName ref name =>
    cases List.mem_singleton.mp h
    rw [read_ownershipName_set, read_ownershipName_set, ← hschema, if_pos rfl, if_pos rfl]
  | blacklistName ref name =>
    cases List.mem_singleton.mp h
    rw [read_blacklistName_set, read_blacklistName_set, ← hschema, if_pos rfl, if_pos rfl]
  | custom position change => exact absurd (List.mem_singleton.mp h) hcustom
  | _ =>
    cases List.mem_singleton.mp h
    rfl

/-- What a setting leaves in a slot depends on nothing else than what was there. -/
theorem read_set_congr (hschema : b.request.defaultSchema = b'.request.defaultSchema)
    (hread : b.read slot = b'.read slot) : (b.set s).read slot = (b'.set s).read slot := by
  by_cases h : slot ∈ s.slots b.request.defaultSchema
  · by_cases hcustom : slot = .custom
    · subst hcustom
      cases s with
      | custom position change => exact congrArg (· ++ [{ position, change }]) hread
      | _ => exact hread
    · exact read_set_of_mem hschema h hcustom
  · rw [read_set_of_notMem h, read_set_of_notMem (hschema ▸ h), hread]

end

end Builder

/-- A setting writes a slot if it can change what a builder of the schema holds there. -/
def Setting.Writes (schema : Option String) (s : Setting) (slot : Slot) : Prop :=
  ∃ b : Builder, b.request.defaultSchema = schema ∧ (b.set s).read slot ≠ b.read slot

theorem Setting.writes_iff {schema : Option String} {s : Setting} {slot : Slot} :
    s.Writes schema slot ↔ slot ∈ s.slots schema := by
  constructor
  · rintro ⟨b, rfl, hne⟩
    exact Decidable.byContradiction fun hout => hne (Builder.read_set_of_notMem hout)
  · intro h
    by_cases hcustom : slot = .custom
    · subst hcustom
      refine ⟨.inSchema schema, rfl, ?_⟩
      cases s with
      | custom position change => nofun
      | _ => simp [slots] at h
    · -- the setting makes two builders equal in the slot that differ there, so it changes one
      obtain ⟨b, hb, hne⟩ := Builder.exists_read_ne schema slot
      refine Classical.byContradiction fun hnone => hne ?_
      have hkept (b : Builder) (hb : b.request.defaultSchema = schema) :
          (b.set s).read slot = b.read slot :=
        Classical.byContradiction fun hchanged => hnone ⟨b, hb, hchanged⟩
      rw [← hkept b hb, ← hkept (.inSchema schema) rfl]
      exact Builder.read_set_of_mem hb (hb ▸ h) hcustom

instance (schema : Option String) (s : Setting) (slot : Slot) : Decidable (s.Writes schema slot) :=
  decidable_of_iff _ Setting.writes_iff.symm

end Tenancy
