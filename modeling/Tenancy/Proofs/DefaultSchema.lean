import Tenancy.Proofs.Mentions

/-!
# The schema of tables that name none

A builder has a default schema, and so may a configuration that is carried out on it. A table that
names no schema goes to the builder's: afterwards the builder has the entries that it had and those
of the tables, each in its own schema or else in the builder's (`Configuration.has_apply_iff`), and
the schema of the configuration makes no difference (`Configuration.apply_registered`). A new
builder in another schema follows the configuration only where a table names that schema itself.
-/

namespace Tenancy

/-! ## Entries -/

namespace Builder

/-- Whether there is an entry in a slot. A plain field always holds something. -/
def Has (b : Builder) : Slot → Prop
  | .columns t => t ∈ b.request.columns
  | .policy t => t ∈ b.request.policies
  | .createdColumn t => t ∈ b.request.createdColumns
  | .skippedDefault t => t ∈ b.request.skippedDefaults
  | .ownershipName t => t ∈ b.request.ownershipNames
  | .blacklistName t => t ∈ b.request.blacklistNames
  | .sameTenant key => key ∈ b.request.sameTenant
  | _ => True

theorem not_has_inSchema {schema : Option String} {slot : Slot} {t : Table}
    (ht : slot.table? = some t) : ¬(inSchema schema).Has slot := by
  cases slot with
  | columns | policy | createdColumn | skippedDefault | ownershipName | blacklistName
  | sameTenant => simp [Has, inSchema]
  | _ => cases ht

/-- A setting adds the entries that it is for, and takes none away. -/
theorem has_set_iff {b : Builder} {s : Setting} {slot : Slot} :
    (b.set s).Has slot ↔ b.Has slot ∨ slot ∈ s.slots b.request.defaultSchema := by
  cases slot with
  | columns | policy | createdColumn | skippedDefault | ownershipName | blacklistName
  | sameTenant =>
    cases s <;> simp [Has, set, Request.set, Request.resolve_eq, Request.addSameTenant,
      ForeignKey.ofMapping, Setting.slots]
    -- what is left is the one setting that is for the map
    exact or_comm.trans (or_congr Iff.rfl eq_comm)
  | _ => simp [Has]

theorem has_setAll_iff {b : Builder} {settings : List Setting} {slot : Slot} :
    (b.setAll settings).Has slot ↔
      b.Has slot ∨ slot ∈ settings.flatMap (·.slots b.request.defaultSchema) := by
  induction settings generalizing b with
  | nil => simp [setAll]
  | cons s rest ih =>
    have hrest : ((b.set s).setAll rest).Has slot ↔ _ := ih
    rw [has_set_iff, defaultSchema_set, or_assoc] at hrest
    rw [List.flatMap_cons, List.mem_append]
    exact hrest

theorem has_addCustom_iff {b : Builder} {added : List CustomChange} {slot : Slot} :
    (b.addCustom added).Has slot ↔ b.Has slot := by
  cases slot <;> exact Iff.rfl

end Builder

namespace Configuration

/-- Everything that a table asks for is there, with the table in `schema`. -/
def TableSection.RegisteredIn (s : TableSection) (schema : Option String) (b : Builder) : Prop :=
  ∀ slot, s.Mentions schema slot → b.Has slot

/-- The tables that name no schema are in that of the configuration if it has one, and in that of
the builder `b` otherwise. -/
def Followed (c : Configuration) (b b' : Builder) : Prop :=
  ∀ s ∈ c.tables, s.schema = none →
    s.RegisteredIn (c.defaultSchema.or b.request.defaultSchema) b'

/-- The entries are those there were and those of the tables. -/
theorem has_apply_iff {c : Configuration} {b b' : Builder} (h : c.apply b = .ok b') {slot : Slot} :
    b'.Has slot ↔
      b.Has slot ∨ ∃ s ∈ c.tables, s.Mentions (s.schema.or b.request.defaultSchema) slot := by
  obtain ⟨added, -, rfl⟩ := apply_eq_ok_iff.mp h
  rw [Builder.has_addCustom_iff, Builder.has_setAll_iff, mem_slots_iff]
  cases slot <;> simp [Builder.Has, Mentions]

/-- The schema of a configuration is not used to carry it out. -/
theorem apply_withSchema (c : Configuration) (schema : Option String) (b : Builder) :
    { c with defaultSchema := schema }.apply b = c.apply b := rfl

theorem followed_of_apply {c : Configuration} {b b' : Builder} (h : c.apply b = .ok b')
    (hschema : c.defaultSchema = none ∨ c.defaultSchema = b.request.defaultSchema) :
    c.Followed b b' := by
  intro s hs hnone slot hslot
  have heq : c.defaultSchema.or b.request.defaultSchema = b.request.defaultSchema := by
    rcases hschema with hschema | hschema <;> simp [hschema]
  refine (has_apply_iff h).mpr (.inr ⟨s, hs, ?_⟩)
  rwa [hnone, Option.none_or, ← heq]

/-- In a new builder of another schema the schema of the configuration is only where a table names
it. -/
theorem followed_inSchema_iff {c : Configuration} {schema : Option String} {b' : Builder}
    (h : c.apply (.inSchema schema) = .ok b') (hsome : c.defaultSchema ≠ none)
    (hother : c.defaultSchema ≠ schema) :
    c.Followed (.inSchema schema) b' ↔
      ∀ s ∈ c.tables, s.schema = none → ∀ slot, s.Mentions c.defaultSchema slot →
        ∃ s' ∈ c.tables, s'.schema = c.defaultSchema ∧ s'.Mentions c.defaultSchema slot := by
  obtain ⟨own, hown⟩ := Option.ne_none_iff_exists'.mp hsome
  have hhas {s : TableSection} {slot : Slot} (hslot : s.Mentions c.defaultSchema slot) :
      b'.Has slot ↔
        ∃ s' ∈ c.tables, s'.schema = c.defaultSchema ∧ s'.Mentions c.defaultSchema slot := by
    rw [has_apply_iff h, or_iff_right (Builder.not_has_inSchema hslot.table?_eq)]
    refine exists_congr fun s' => and_congr_right fun _ => ?_
    constructor
    · intro hslot'
      have htable := Option.some.inj (hslot.table?_eq.symm.trans hslot'.table?_eq)
      have heq : c.defaultSchema = s'.schema.or schema := congrArg QualifiedName.schema htable
      cases hs' : s'.schema with
      | none =>
        rw [hs', Option.none_or] at heq
        exact absurd heq hother
      | some named =>
        rw [hs', Option.some_or] at heq
        refine ⟨heq.symm, ?_⟩
        rw [hs', Option.some_or] at hslot'
        rwa [heq]
    · rintro ⟨hs', hslot'⟩
      rw [hs', hown, Option.some_or, ← hown]
      exact hslot'
  have hor : c.defaultSchema.or schema = c.defaultSchema := by rw [hown, Option.some_or]
  constructor
  · intro hfollowed s hs hnone slot hslot
    exact (hhas hslot).mp (hfollowed s hs hnone slot (hor.symm ▸ hslot))
  · intro hnamed s hs hnone slot hslot
    have hslot : s.Mentions c.defaultSchema slot := hor ▸ hslot
    exact (hhas hslot).mpr (hnamed s hs hnone slot hslot)

/-- A configuration leaves a builder with the entries it had and those of the tables, in the schema
that a table names or else in the builder's; the schema of the configuration has no part in it. So
tables that name no schema lie where the configuration has them if it has no schema or the
builder's. In a new builder of another schema they do only as far as a table names that schema. -/
theorem apply_registered (c : Configuration) (b b' : Builder) (h : c.apply b = .ok b') :
    (∀ slot, b'.Has slot ↔
      b.Has slot ∨ ∃ s ∈ c.tables, s.Mentions (s.schema.or b.request.defaultSchema) slot) ∧
    (∀ schema, { c with defaultSchema := schema }.apply b = .ok b') ∧
    (c.defaultSchema = none ∨ c.defaultSchema = b.request.defaultSchema → c.Followed b b') ∧
    ∀ schema, b = .inSchema schema → c.defaultSchema ≠ none → c.defaultSchema ≠ schema →
      (c.Followed b b' ↔
        ∀ s ∈ c.tables, s.schema = none → ∀ slot, s.Mentions c.defaultSchema slot →
          ∃ s' ∈ c.tables, s'.schema = c.defaultSchema ∧ s'.Mentions c.defaultSchema slot) := by
  refine ⟨fun slot => has_apply_iff h, fun schema => ?_, followed_of_apply h, ?_⟩
  · rw [apply_withSchema, h]
  · rintro schema rfl hsome hother
    exact followed_inSchema_iff h hsome hother

/-- A table with a foreign key to itself, in a configuration with a default schema. -/
def treeInApp : Configuration where
  defaultSchema := some "app"
  tables :=
    [{ name := "items"
       policy := some {
         name := "items_policy", createColumn := true,
         primaryKey := some { columns := .ofList [("id", "bigint")] } }
       foreignKeys := [{
         constraint := "items_parent", table := "items",
         mapping := .ofList [("parent_id", "id")] }] }]

/-- The table without its schema. -/
def bareItems : Table := { name := "items" }

/-- The foreign key of the table, without its schema. -/
def bareParent : ForeignKey := .ofMapping bareItems bareItems (.ofList [("parent_id", "id")])

/-- On a builder without a default schema the table gets none, although the configuration has
one. -/
theorem exists_not_followed :
    ∃ (c : Configuration) (b b' : Builder),
      c.defaultSchema = some "app" ∧ c.apply b = .ok b' ∧ ¬c.Followed b b' := by
  refine ⟨treeInApp, .inSchema none, _, rfl, rfl, fun hfollowed => ?_⟩
  have hhas := hfollowed _ List.mem_cons_self rfl
    (.policy { schema := some "app", name := "items" }) (.inl ⟨_, rfl, rfl⟩)
  exact absurd hhas (by unfold Builder.Has; decide +kernel)

theorem apply_registered_treeInApp :
    ∃ b', treeInApp.apply (.inSchema none) = .ok b' ∧ b'.Has (.createdColumn bareItems) ∧
      b'.Has (.sameTenant bareParent) ∧ ¬treeInApp.Followed (.inSchema none) b' := by
  have happly : treeInApp.apply (.inSchema none) = .ok _ := rfl
  obtain ⟨hhas, -, -, hnew⟩ := apply_registered _ _ _ happly
  refine ⟨_, happly, (hhas _).mpr (.inr ⟨_, List.mem_cons_self, .inl ⟨_, rfl, rfl, rfl⟩⟩),
    (hhas _).mpr (.inr ⟨_, List.mem_cons_self, .inr ⟨_, List.mem_cons_self, rfl⟩⟩), ?_⟩
  rw [hnew none rfl nofun nofun]
  intro hnamed
  obtain ⟨s, hs, hschema, -⟩ := hnamed _ List.mem_cons_self rfl
    (.policy { schema := some "app", name := "items" }) (.inl ⟨_, rfl, rfl⟩)
  cases List.mem_singleton.mp hs
  cases hschema

end Configuration

end Tenancy
