import Tenancy.Configuration.Basic
import Tenancy.Proofs.Reordering

/-!
# What a configuration mentions

A configuration mentions the fields that it gives and, for each of its tables, the entries that the
section of the table asks for (`Configuration.Mentions`). These are the slots that its settings
write (`Configuration.mem_slots_iff`), so carrying it out leaves every other slot alone and adds
one change for each of its own (`Configuration.apply_mentioned`). It is refused for a custom place
that is not named, and for nothing else.
-/

namespace Tenancy

/-- The table that an entry is for; of a foreign key the one that refers. -/
def Slot.table? : Slot → Option Table
  | columns t | policy t | createdColumn t | skippedDefault t | ownershipName t | blacklistName t =>
    some t
  | sameTenant key => some key.main
  | _ => none

/-- The builder with changes of the caller's own behind those there are. -/
def Builder.addCustom (b : Builder) (added : List CustomChange) : Builder :=
  { b with request := { b.request with custom := b.request.custom ++ added } }

@[simp] theorem Builder.defaultSchema_addCustom (b : Builder) (added : List CustomChange) :
    (b.addCustom added).request.defaultSchema = b.request.defaultSchema := rfl

@[simp] theorem Builder.custom_addCustom (b : Builder) (added : List CustomChange) :
    (b.addCustom added).request.custom = b.request.custom ++ added := rfl

theorem Builder.read_addCustom (b : Builder) (added : List CustomChange) {slot : Slot}
    (h : slot ≠ .custom) : (b.addCustom added).read slot = b.read slot := by
  cases slot with
  | custom => exact absurd rfl h
  | _ => rfl

namespace Configuration

/-! ## Changes of the caller's own -/

namespace CustomSection

/-- The place that a section means. -/
inductive PlacedAt (s : CustomSection) : Position → Prop where
  | atBeginning : s.placement = .atBeginning → PlacedAt s .atBeginning
  | atEnd : s.placement = .atEnd → PlacedAt s .atEnd
  | custom {label : String} :
      s.placement = .custom → s.label = some label → PlacedAt s (.custom label)

/-- A section that is for a custom place and does not say for which. -/
def IsUnplaced (s : CustomSection) : Prop := s.placement = .custom ∧ s.label = none

/-- The change that a section is for: its own scripts, and `SELECT 1` for those it leaves out. -/
structure Describes (s : CustomSection) (c : CustomChange) : Prop where
  placed : s.PlacedAt c.position
  create : c.change.create = s.create
  drop : c.change.drop = s.drop.getD "SELECT 1"
  checks : c.change.checks = s.checks.getD ["SELECT 1"]
  defines : c.change.defines = none

theorem describes_iff {s : CustomSection} {c : CustomChange} :
    s.Describes c ↔ s.PlacedAt c.position ∧ c.change = s.change := by
  constructor
  · rintro ⟨hplaced, hcreate, hdrop, hchecks, hdefines⟩
    exact ⟨hplaced, (Change.mk.injEq ..).mpr ⟨hcreate, hdrop, hchecks, hdefines⟩⟩
  · rintro ⟨hplaced, hchange⟩
    exact ⟨hplaced, by rw [hchange]; rfl, by rw [hchange]; rfl, by rw [hchange]; rfl,
      by rw [hchange]; rfl⟩

theorem position_eq_ok_iff {s : CustomSection} {position : Position} :
    s.position = .ok position ↔ s.PlacedAt position := by
  constructor
  · intro h
    unfold CustomSection.position at h
    split at h
    · cases h
      exact .atBeginning ‹_›
    · cases h
      exact .atEnd ‹_›
    · cases h
      exact .custom ‹_› ‹_›
    · cases h
  · rintro (hplace | hplace | ⟨hplace, hlabel⟩)
    · simp [CustomSection.position, hplace]
    · simp [CustomSection.position, hplace]
    · simp [CustomSection.position, hplace, hlabel]

theorem position_eq_error_iff {s : CustomSection} {fault : ConfigurationFault} :
    s.position = .error fault ↔ s.IsUnplaced := by
  cases fault
  cases hplacement : s.placement <;> cases hlabel : s.label <;>
    simp [CustomSection.position, IsUnplaced, hplacement, hlabel]

end CustomSection

/-- The setting for a change of the caller's own. -/
def customSetting (c : CustomChange) : Setting := .custom c.position c.change

theorem CustomSection.setting_eq_ok_iff {s : CustomSection} {setting : Setting} :
    s.setting = .ok setting ↔ ∃ c, s.Describes c ∧ setting = customSetting c := by
  constructor
  · intro h
    cases hposition : s.position with
    | error fault =>
      rw [CustomSection.setting, hposition] at h
      cases h
    | ok position =>
      rw [CustomSection.setting, hposition] at h
      cases h
      exact ⟨{ position, change := s.change },
        describes_iff.mpr ⟨position_eq_ok_iff.mp hposition, rfl⟩, rfl⟩
  · rintro ⟨c, hc, rfl⟩
    obtain ⟨hplaced, hchange⟩ := describes_iff.mp hc
    rw [CustomSection.setting, position_eq_ok_iff.mpr hplaced, customSetting, hchange]
    rfl

theorem CustomSection.setting_eq_error_iff {s : CustomSection} {fault : ConfigurationFault} :
    s.setting = .error fault ↔ s.IsUnplaced := by
  rw [← position_eq_error_iff, CustomSection.setting]
  cases s.position with
  | error other =>
    cases other
    cases fault
    exact iff_of_true rfl rfl
  | ok position => exact iff_of_false nofun nofun

theorem setAll_customSetting (b : Builder) (added : List CustomChange) :
    b.setAll (added.map customSetting) = b.addCustom added := by
  induction added generalizing b with
  | nil => simp [Builder.setAll, Builder.addCustom]
  | cons c rest ih =>
    refine (ih (b.set (customSetting c))).trans ?_
    simp [Builder.set, Request.set, customSetting, Builder.addCustom]

/-- The settings for a list of sections are there when each section says its place. -/
theorem mapM_setting_eq_ok_iff {l : List CustomSection} {settings : List Setting} :
    l.mapM (·.setting) = .ok settings ↔
      ∃ added, List.Forall₂ CustomSection.Describes l added ∧
        settings = added.map customSetting := by
  induction l generalizing settings with
  | nil =>
    constructor
    · intro h
      cases h
      exact ⟨[], .nil, rfl⟩
    · rintro ⟨added, hadded, rfl⟩
      cases hadded
      rfl
  | cons s rest ih =>
    rw [List.mapM_cons]
    constructor
    · intro h
      cases hs : s.setting with
      | error fault =>
        rw [hs] at h
        cases h
      | ok setting =>
        cases hrest : rest.mapM (·.setting) with
        | error fault =>
          rw [hs, hrest] at h
          cases h
        | ok settings =>
          rw [hs, hrest] at h
          cases h
          obtain ⟨c, hc, rfl⟩ := CustomSection.setting_eq_ok_iff.mp hs
          obtain ⟨added, hadded, rfl⟩ := ih.mp hrest
          exact ⟨c :: added, .cons hc hadded, rfl⟩
    · rintro ⟨_, hall, rfl⟩
      obtain ⟨c, added, hc, hadded, rfl⟩ := List.forall₂_cons_left_iff.mp hall
      rw [CustomSection.setting_eq_ok_iff.mpr ⟨c, hc, rfl⟩, ih.mpr ⟨added, hadded, rfl⟩]
      rfl

/-- The first section that does not say its place is refused. -/
theorem mapM_setting_eq_error_iff {l : List CustomSection} {fault : ConfigurationFault} :
    l.mapM (·.setting) = .error fault ↔ ∃ s ∈ l, s.IsUnplaced := by
  cases fault
  induction l with
  | nil => exact iff_of_false nofun (by simp)
  | cons s rest ih =>
    rw [List.mapM_cons, List.exists_mem_cons_iff, ← ih,
      ← @CustomSection.setting_eq_error_iff _ .unnamedPosition]
    cases hs : s.setting with
    | error fault =>
      cases fault
      exact iff_of_true rfl (.inl rfl)
    | ok setting =>
      cases hrest : rest.mapM (·.setting) with
      | error fault =>
        cases fault
        exact iff_of_true rfl (.inr rfl)
      | ok settings => exact iff_of_false nofun (by simp)

/-! ## Carrying out -/

/-- What a configuration sets apart from the changes of the caller's own. -/
def requestSettings (c : Configuration) (schema : Option String) : List Setting :=
  c.generalSettings ++ c.tables.flatMap (·.settings schema) ++
    (c.nameLength.map (·.settings)).getD []

/-- Carrying out means to make the settings, with the changes of the caller's own at the end. -/
theorem apply_eq_ok_iff {c : Configuration} {b b' : Builder} :
    c.apply b = .ok b' ↔
      ∃ added, List.Forall₂ CustomSection.Describes c.custom added ∧
        b' = (b.setAll (c.requestSettings b.request.defaultSchema)).addCustom added := by
  unfold Configuration.apply Configuration.settings
  cases hcustom : c.custom.mapM (·.setting) with
  | error fault =>
    refine iff_of_false nofun ?_
    rintro ⟨added, hadded, -⟩
    rw [mapM_setting_eq_ok_iff.mpr ⟨added, hadded, rfl⟩] at hcustom
    cases hcustom
  | ok settings =>
    have hmade (added : List CustomChange) :
        b.setAll (c.requestSettings b.request.defaultSchema ++ added.map customSetting) =
          (b.setAll (c.requestSettings b.request.defaultSchema)).addCustom added := by
      rw [Builder.setAll_append, setAll_customSetting]
    constructor
    · intro h
      cases h
      obtain ⟨added, hadded, rfl⟩ := mapM_setting_eq_ok_iff.mp hcustom
      exact ⟨added, hadded, hmade added⟩
    · rintro ⟨added, hadded, rfl⟩
      rw [mapM_setting_eq_ok_iff.mpr ⟨added, hadded, rfl⟩] at hcustom
      cases hcustom
      rw [← hmade]
      rfl

theorem apply_eq_error_iff {c : Configuration} {b : Builder} {e : Error} :
    c.apply b = .error e ↔
      e = .configuration .unnamedPosition ∧ ∃ s ∈ c.custom, s.IsUnplaced := by
  unfold Configuration.apply Configuration.settings
  rw [← @mapM_setting_eq_error_iff _ .unnamedPosition]
  cases c.custom.mapM (·.setting) with
  | error fault =>
    cases fault
    exact ⟨fun h => by cases h; exact ⟨rfl, rfl⟩, fun h => by rw [h.1]; rfl⟩
  | ok settings => exact iff_of_false nofun (by simp)

/-! ## Mentioned slots -/

/-- The entries that the policy of a table asks for. -/
def PolicySection.Mentions (p : PolicySection) (t : Table) : Slot → Prop
  | .columns t' | .policy t' => t' = t
  | .createdColumn t' => t' = t ∧ p.createColumn
  | .skippedDefault t' => t' = t ∧ p.skipDefault
  | .blacklistName t' => t' = t ∧ p.blacklistName.isSome
  | .ownershipName t' => t' = t ∧ ∃ key ∈ p.primaryKey, key.ownershipName.isSome
  | _ => False

/-- The foreign key of a table in `schema`. What it refers to lies in the same schema. -/
def ForeignKeySection.foreignKey (s : ForeignKeySection) (schema : Option String)
    (main : String) : ForeignKey :=
  .ofMapping { schema, name := main } { schema, name := s.table } s.mapping

/-- The entries that a table asks for when it lies in `schema`. -/
def TableSection.Mentions (s : TableSection) (schema : Option String) (slot : Slot) : Prop :=
  (∃ p ∈ s.policy, p.Mentions { schema, name := s.name } slot) ∨
    ∃ key ∈ s.foreignKeys, slot = .sameTenant (key.foreignKey schema s.name)

/-- What a configuration mentions to a builder with the given default schema. -/
def Mentions (c : Configuration) (defaultSchema : Option String) : Slot → Prop
  | .tenantSetting => c.tenantSetting.isSome
  | .tenantType => c.tenantType.isSome
  | .currentTenantName => c.currentTenantName.isSome
  | .assignTenantName => c.assignTenantName.isSome
  | .isCurrentTenantName => c.isCurrentTenantName.isSome
  | .authorityName => c.authorityName.isSome
  | .forceOwner => c.forceOwner.isSome
  | .defaultTenantColumn => c.defaultTenantColumn.isSome
  | .grantee => c.grantee.isSome
  | .defaultEverywhere => c.defaultEverywhere.isSome
  | .blacklist => c.blacklist.isSome
  | .minNameLength => ∃ s ∈ c.nameLength, s.min.isSome
  | .maxNameLength => ∃ s ∈ c.nameLength, s.max.isSome
  | .skipsNameBounds => c.nameLength.isSome
  | .custom => c.custom ≠ []
  | .stages | .checks | .nameBounds => False
  -- an entry, by a table that lies in its own schema if it names one
  | slot => ∃ s ∈ c.tables, s.Mentions (s.schema.or defaultSchema) slot

section

variable {slot : Slot} {schema : Option String}

theorem mem_slots_ite {p : Bool} {setting : Setting} :
    slot ∈ (if p then [setting] else []).flatMap (·.slots schema) ↔
      p ∧ slot ∈ setting.slots schema := by
  cases p <;> simp

theorem mem_slots_option {α : Type} {o : Option α} {f : α → Setting} :
    slot ∈ (o.map f).toList.flatMap (·.slots schema) ↔ ∃ a ∈ o, slot ∈ (f a).slots schema := by
  cases o <;> simp

theorem PolicySection.mem_slots_iff {p : PolicySection} {t : Table} :
    slot ∈ (p.settings t).flatMap (·.slots schema) ↔ p.Mentions t slot := by
  have hownership : (∃ name, (p.primaryKey.getD {}).ownershipName = some name) ↔
      ∃ key, p.primaryKey = some key ∧ ∃ name, key.ownershipName = some name := by
    cases p.primaryKey <;> simp
  simp only [PolicySection.settings, List.flatMap_append, List.flatMap_singleton, List.mem_append,
    mem_slots_ite, mem_slots_option]
  cases slot <;>
    simp [PolicySection.Mentions, Setting.slots, TableReference.within, Option.isSome_iff_exists,
      hownership, and_comm]

theorem TableSection.mem_slots_iff {s : TableSection} :
    slot ∈ (s.settings schema).flatMap (·.slots schema) ↔ s.Mentions (s.schema.or schema) slot := by
  have hpolicy : slot ∈ ((s.policy.map (·.settings (s.table schema))).getD []).flatMap
      (·.slots schema) ↔ ∃ p ∈ s.policy, p.Mentions (s.table schema) slot := by
    cases s.policy with
    | none => simp
    | some p => simpa using PolicySection.mem_slots_iff
  rw [TableSection.settings, List.flatMap_append, List.mem_append, hpolicy, List.flatMap_map]
  refine or_congr Iff.rfl ?_
  simp [Setting.slots, TableReference.within, ForeignKeySection.foreignKey, TableSection.table]

theorem NameLengthSection.mem_slots_iff {s : NameLengthSection} :
    slot ∈ s.settings.flatMap (·.slots schema) ↔
      s.max.isSome ∧ slot = .maxNameLength ∨ s.min.isSome ∧ slot = .minNameLength ∨
        slot = .skipsNameBounds := by
  simp only [NameLengthSection.settings, List.flatMap_append, List.flatMap_singleton,
    List.mem_append, mem_slots_option]
  simp [Setting.slots, Option.isSome_iff_exists, or_assoc]

/-- The slots that a configuration writes before the changes of the caller's own. -/
theorem mem_slots_iff {c : Configuration} :
    slot ∈ (c.requestSettings schema).flatMap (·.slots schema) ↔
      slot ≠ .custom ∧ c.Mentions schema slot := by
  have htables : slot ∈ (c.tables.flatMap (·.settings schema)).flatMap (·.slots schema) ↔
      ∃ s ∈ c.tables, s.Mentions (s.schema.or schema) slot := by
    rw [List.flatMap_assoc, List.mem_flatMap]
    simp only [TableSection.mem_slots_iff]
  have hlength : slot ∈ ((c.nameLength.map (·.settings)).getD []).flatMap (·.slots schema) ↔
      ∃ s ∈ c.nameLength, s.max.isSome ∧ slot = .maxNameLength ∨
        s.min.isSome ∧ slot = .minNameLength ∨ slot = .skipsNameBounds := by
    cases c.nameLength with
    | none => simp
    | some s => simpa using NameLengthSection.mem_slots_iff
  simp only [requestSettings, generalSettings, List.flatMap_append, List.mem_append,
    mem_slots_option]
  rw [htables, hlength]
  cases slot <;>
    simp [Mentions, TableSection.Mentions, PolicySection.Mentions, Setting.slots,
      Option.isSome_iff_exists]

end

/-! ## What stays -/

theorem PolicySection.Mentions.table?_eq {p : PolicySection} {t : Table} {slot : Slot}
    (h : p.Mentions t slot) : slot.table? = some t := by
  cases slot with
  | columns t' | policy t' => exact congrArg some h
  | createdColumn t' | skippedDefault t' | ownershipName t' | blacklistName t' =>
    exact congrArg some h.1
  | _ => exact h.elim

theorem TableSection.Mentions.table?_eq {s : TableSection} {schema : Option String} {slot : Slot}
    (h : s.Mentions schema slot) : slot.table? = some { schema, name := s.name } := by
  obtain ⟨p, -, hp⟩ | ⟨key, -, rfl⟩ := h
  · exact hp.table?_eq
  · rfl

/-- An entry that is mentioned is one of a table of the configuration. -/
theorem Mentions.exists_table {c : Configuration} {defaultSchema : Option String} {slot : Slot}
    (h : c.Mentions defaultSchema slot) {t : Table} (ht : slot.table? = some t) :
    ∃ s ∈ c.tables, s.table defaultSchema = t := by
  have hmention : ∃ s ∈ c.tables, s.Mentions (s.schema.or defaultSchema) slot := by
    cases slot with
    | columns | policy | createdColumn | skippedDefault | ownershipName | blacklistName
    | sameTenant => exact h
    | _ => cases ht
  obtain ⟨s, hs, hslot⟩ := hmention
  exact ⟨s, hs, Option.some.inj (hslot.table?_eq.symm.trans ht)⟩

theorem not_writes_custom (c : Configuration) (schema : Option String) :
    ∀ s ∈ c.requestSettings schema, ¬s.Writes schema .custom := by
  intro s hs hwrites
  have hmem : Slot.custom ∈ (c.requestSettings schema).flatMap (·.slots schema) :=
    List.mem_flatMap.mpr ⟨s, hs, Setting.writes_iff.mp hwrites⟩
  exact (mem_slots_iff.mp hmem).1 rfl

theorem read_apply_of_not_mentions {c : Configuration} {b b' : Builder} {slot : Slot}
    (h : c.apply b = .ok b') (hslot : ¬c.Mentions b.request.defaultSchema slot) :
    b'.read slot = b.read slot := by
  obtain ⟨added, hadded, rfl⟩ := apply_eq_ok_iff.mp h
  have hkept : (b.setAll (c.requestSettings b.request.defaultSchema)).read slot = b.read slot := by
    refine Builder.read_setAll_of_forall_not fun setting hsetting hwrites => hslot ?_
    exact (mem_slots_iff.mp
      (List.mem_flatMap.mpr ⟨setting, hsetting, Setting.writes_iff.mp hwrites⟩)).2
  by_cases hcustom : slot = .custom
  · subst hcustom
    have hnone : added = [] := by
      simpa [Classical.not_not.mp hslot] using hadded
    rw [← hkept, hnone]
    exact List.append_nil _
  · rw [Builder.read_addCustom _ _ hcustom, hkept]

/-- A configuration is refused for a custom place that is not named, and for nothing else. Carried
out, it leaves everything alone that it does not mention, such as the stages, the checks, the
entries of other tables and the fields that it does not give. One change for each of its sections
comes behind the changes there are. -/
theorem apply_mentioned (c : Configuration) (b : Builder) :
    ((∃ e, c.apply b = .error e) ↔ ∃ s ∈ c.custom, s.IsUnplaced) ∧
      (∀ e, c.apply b = .error e → e = .configuration .unnamedPosition) ∧
      ∀ b', c.apply b = .ok b' →
        b'.request.defaultSchema = b.request.defaultSchema ∧
          (∀ slot, ¬c.Mentions b.request.defaultSchema slot → b'.read slot = b.read slot) ∧
          (∀ slot t, slot.table? = some t →
            (∀ s ∈ c.tables, s.table b.request.defaultSchema ≠ t) →
              b'.read slot = b.read slot) ∧
          ∃ added, List.Forall₂ CustomSection.Describes c.custom added ∧
            b'.request.custom = b.request.custom ++ added := by
  refine ⟨?_, fun e h => (apply_eq_error_iff.mp h).1, fun b' h => ⟨?_, ?_, ?_, ?_⟩⟩
  · simp [apply_eq_error_iff]
  · obtain ⟨added, -, rfl⟩ := apply_eq_ok_iff.mp h
    rw [Builder.defaultSchema_addCustom, Builder.defaultSchema_setAll]
  · exact fun slot hslot => read_apply_of_not_mentions h hslot
  · intro slot t ht hother
    refine read_apply_of_not_mentions h fun hmentions => ?_
    obtain ⟨s, hs, heq⟩ := hmentions.exists_table ht
    exact hother s hs heq
  · obtain ⟨added, hadded, rfl⟩ := apply_eq_ok_iff.mp h
    have hkept : (b.setAll (c.requestSettings b.request.defaultSchema)).request.custom =
        b.request.custom := Builder.read_setAll_of_forall_not (c.not_writes_custom _)
    exact ⟨added, hadded, by rw [Builder.custom_addCustom, hkept]⟩

def appLines : Table := { schema := some "app", name := "lines" }

/-- A builder with a table of its own and a change at the end. -/
def preparedLines : Builder :=
  (Builder.inSchema (some "app")).setAll
    [.policy (.named "lines") ∅ none "lines_policy", .custom .atEnd (.ofScript "ANALYZE")]

/-- A configuration for another table, with a change at the place that `label` names. -/
def forItems (label : Option String) : Configuration where
  grantee := some "clerk"
  tables := [{ name := "items", policy := some { name := "items_policy" } }]
  custom := [{
    placement := .custom, label
    create := "CREATE ROLE clerk", drop := some "DROP ROLE clerk" }]

theorem apply_mentioned_forItems :
    (∃ e, (forItems none).apply preparedLines = .error e) ∧
      ∃ b', (forItems (some "roles")).apply preparedLines = .ok b' ∧
        b'.read (.policy appLines) = some { name := "lines_policy" } ∧
        b'.read .stages = Stage.defaultChain ∧
        ∃ added, List.Forall₂ CustomSection.Describes (forItems (some "roles")).custom added ∧
          b'.request.custom = { position := .atEnd, change := .ofScript "ANALYZE" } :: added := by
  obtain ⟨hrefused, -, -⟩ := apply_mentioned (forItems none) preparedLines
  obtain ⟨-, -, hdone⟩ := apply_mentioned (forItems (some "roles")) preparedLines
  have happly : (forItems (some "roles")).apply preparedLines = .ok _ := rfl
  obtain ⟨-, hother, htable, added, hadded, hcustom⟩ := hdone _ happly
  refine ⟨hrefused.mpr ⟨_, List.mem_cons_self, rfl, rfl⟩, _, happly, ?_, ?_, added, hadded, hcustom⟩
  · exact (htable (.policy appLines) appLines rfl (by decide)).trans (by decide +kernel)
  · exact hother .stages id

end Configuration

end Tenancy
