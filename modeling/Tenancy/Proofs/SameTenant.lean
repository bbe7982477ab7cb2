import Mathlib.Data.List.Count
import Tenancy.Proofs.Build
import Tenancy.Proofs.Sql.Reader

/-!
# Foreign keys inside a tenant

What the stages emit to keep a foreign key inside the tenant: the ownership routine of the table
it refers to and a check constraint that calls the routine. The routine takes the primary key
columns in name order, while the foreign key lists its own columns in name order, and these two
orders need not agree. The call hands each column over at the position of the column it is mapped
to (`Builder.sameTenant_emitted`).
-/

namespace Tenancy

/-! ## Order -/

theorem ordered_keys {β : Type} (m : Std.ExtTreeMap String β) : m.keys.Pairwise (· < ·) :=
  m.ordered_keys.imp fun h => compareOfLessAndEq_eq_lt.mp h

theorem ordered_toList (s : Std.ExtTreeSet String) : s.toList.Pairwise (· < ·) :=
  s.ordered_toList.imp fun h => compareOfLessAndEq_eq_lt.mp h

/-- A set lists each of its members once. -/
theorem count_toList {s : Std.ExtTreeSet String} {a : String} (h : a ∈ s) :
    s.toList.count a = 1 := by
  have hnodup : s.toList.Nodup := (ordered_toList s).imp fun hlt => String.ne_of_lt hlt
  exact List.count_eq_one_of_mem hnodup (by simpa using h)

/-! ## The scripts -/

/-- The script of the ownership routine of `table`. `entries` are its primary key columns with
their types, and `current` reads the current tenant. -/
def ownershipScript (routine : QualifiedName) (table : Table) (entries : List (String × String))
    (tenantColumn current : String) : String :=
  let types := ", ".intercalate (entries.map fun (_, type) => type)
  let conditions := " AND ".intercalate
    ((entries.zipIdx 1).map (fun ((column, _), k) => s!"rt.{Sql.identifier column} = ${k}") ++
      [s!"rt.{Sql.identifier tenantColumn} = {current}"])
  s!"CREATE OR REPLACE FUNCTION {routine.render}({types}) RETURNS BOOLEAN AS $$\n" ++
    s!"SELECT EXISTS (\n\tSELECT 1 FROM {table.render} rt WHERE {conditions}\n)\n" ++
    "$$ LANGUAGE sql\nSTABLE\nPARALLEL SAFE;"

/-- The condition of a same-tenant constraint: one of the `columns` is null, or `routine` holds of
the `arguments`. -/
def ownedCondition (columns : List String) (routine : QualifiedName) (arguments : List String) :
    String :=
  let nulls := " OR ".intercalate (columns.map fun column => s!"{Sql.identifier column} IS NULL")
  let owned := ", ".intercalate (arguments.map Sql.identifier)
  s!"({nulls}) OR ({routine.render}({owned}))"

/-- The script of a same-tenant constraint on `table`. -/
def sameTenantScript (table : Table) (name : String) (columns : List String)
    (routine : QualifiedName) (arguments : List String) : String :=
  s!"ALTER TABLE {table.render} ADD CONSTRAINT {Sql.identifier name} CHECK (" ++
    s!"{ownedCondition columns routine arguments});"

theorem sameTenantCondition_call (columns : List String) (routine : Routine)
    (arguments : List String) :
    sameTenantCondition columns (routine.call (arguments.map Sql.identifier)) =
      ownedCondition columns routine.name arguments := by
  unfold sameTenantCondition ownedCondition Routine.call Sql.commaList
  simp [String.append_assoc]

/-- The routine that reads the current tenant goes by the name that the request gives it. -/
theorem Request.callCurrentTenant_currentTenant (r : Request) :
    r.currentTenant.callCurrentTenant = s!"{(r.routineName r.currentTenantName).render}()" := by
  unfold Request.currentTenant Routine.currentTenant
  cases r.tenantType <;>
    simp [Routine.callCurrentTenant, Routine.call, Sql.commaList, String.append_assoc]

/-- An ownership routine is defined by its script. -/
theorem Ownership.create_ofTable (name : String) (table : Table) (tenantColumn : String)
    (primaryKey : Std.ExtTreeMap String String) (current : Routine) :
    (Ownership.ofTable name table tenantColumn primaryKey current).routine.create =
      ownershipScript { schema := table.schema, name } table primaryKey.toList tenantColumn
        current.callCurrentTenant := by
  unfold Ownership.ofTable Routine.create Routine.signature Ownership.conditions ownershipScript
  rw [values_eq_map_snd, ← Std.ExtTreeMap.map_fst_toList_eq_keys, List.zipIdx_map, List.map_map]
  simp [Sql.commaList, Function.comp_def, Language.word, Volatility.clauses,
    String.append_assoc]

/-- A same-tenant constraint is added by its script. -/
theorem create_addConstraint_ownedCondition (table : Table) (name : String)
    (columns : List String) (routine : QualifiedName) (arguments : List String) :
    (table.addConstraint name (ownedCondition columns routine arguments)).create =
      sameTenantScript table name columns routine arguments := by
  unfold Table.addConstraint sameTenantScript
  simp [String.append_assoc]

/-! ## What the stages add for a constraint -/

namespace Request

variable {r : Request}

theorem ownership_mem_changesOf {t : Table} {ownership : Ownership}
    (h : r.ownershipMap[t]? = some ownership) :
    ownership.routine.change ∈ r.changesOf .ownership := by
  rw [getElem?_ownershipMap] at h
  have hguarded : t ∈ r.policies := by
    by_contra hnone
    simp [hnone] at h
  rw [if_pos hguarded] at h
  refine List.mem_map.mpr ⟨(t, ownership), ?_, rfl⟩
  exact List.mem_filterMap.mpr ⟨t, by simpa using hguarded, by simp [h]⟩

theorem constraint_mem_changesOf {key : ForeignKey} {constraint : SameTenantConstraint}
    (hentry : r.sameTenant[key]? = some constraint) {ownership : Ownership} {call : String}
    (howner : r.ownershipMap[key.foreign]? = some ownership)
    (hcall : ownership.call constraint.values = .ok call) :
    key.main.addConstraint constraint.name (sameTenantCondition key.columns.toList call) ∈
      r.changesOf .sameTenant := by
  refine List.mem_filterMap.mpr ⟨(key, constraint), by simpa using hentry, ?_⟩
  simp [sameTenantChange?, howner, sameTenantChange_eq_ok hcall, Except.toOption]

theorem tenantColumn_eq {t : Table} {columns : TableColumns}
    (h : r.columns[t]? = some columns) :
    r.tenantColumn t = columns.tenantColumn.getD r.defaultTenantColumn := by
  simp [tenantColumn, h]

end Request

/-- The call that a paired constraint makes: each parameter gets the column mapped to it. -/
theorem Pairs.call_eq_ok {constraint : SameTenantConstraint}
    {primaryKey : Std.ExtTreeMap String String} (h : Pairs constraint.mapping primaryKey)
    {source : String → String}
    (hsource : ∀ p ∈ primaryKey, ∀ f : String, constraint.mapping[f]? = some p ↔ f = source p)
    (ownership : Ownership) (hkeys : ownership.keyColumns = primaryKey.keys) :
    ownership.call constraint.values =
      .ok (ownership.routine.call ((primaryKey.keys.map source).map Sql.identifier)) := by
  rw [Ownership.call_eq_ok, hkeys, List.map_map]
  · congr 2
    -- no two columns are mapped to one, so each parameter finds its own column among the values
    apply List.map_congr_left
    intro p hp
    have hmapped := (hsource p (by simpa using hp) (source p)).mpr rfl
    rw [constraint.getD_values (nodup_values_iff.mpr h.injective) hmapped]
    rfl
  · rw [hkeys]
    exact primaryKey.nodup_keys
  · intro p
    rw [constraint.mem_values_iff, h.mem_values, hkeys]
    exact Std.ExtTreeMap.mem_keys.symm

/-! ## What is emitted for a constraint -/

/-- What a run leaves behind for a constraint: the ownership routine and the check that calls it,
each with the script that creates it. `source` tells for each column of the primary key which column
refers to it. -/
structure SameTenantEmitted (r : Request) (context : Context) (key : ForeignKey)
    (constraint : SameTenantConstraint) (columns : TableColumns) (ownership : Ownership)
    (source : String → String) : Prop where
  known : r.columns[key.foreign]? = some columns
  nonempty : columns.primaryKey ≠ ∅
  keyOrdered : columns.primaryKey.keys.Pairwise (· < ·)
  columnsOrdered : key.columns.toList.Pairwise (· < ·)
  /-- The source of a key column is the one and only column mapped to it. -/
  source_iff : ∀ p ∈ columns.primaryKey, ∀ f : String,
    constraint.mapping[f]? = some p ↔ f = source p
  source_mem : ∀ p ∈ columns.primaryKey, source p ∈ key.columns
  argument_once : ∀ f ∈ key.columns,
    ((columns.primaryKey.keys.map source).map Sql.identifier).count (Sql.identifier f) = 1
  null_once : ∀ f ∈ key.columns,
    (key.columns.toList.map Sql.identifier).count (Sql.identifier f) = 1
  handle : context.handles.ownership[key.foreign]? = some ownership
  routine_mem : ownership.routine.change ∈ context.changes
  routine_create : ownership.routine.change.create =
    ownershipScript ownership.routine.name key.foreign columns.primaryKey.toList
      (columns.tenantColumn.getD r.defaultTenantColumn)
      s!"{(r.routineName r.currentTenantName).render}()"
  constraint_mem :
    key.main.addConstraint constraint.name
        (ownedCondition key.columns.toList ownership.routine.name
          (columns.primaryKey.keys.map source)) ∈ context.changes
  constraint_create :
    (key.main.addConstraint constraint.name
        (ownedCondition key.columns.toList ownership.routine.name
          (columns.primaryKey.keys.map source))).create =
      sameTenantScript key.main constraint.name key.columns.toList ownership.routine.name
        (columns.primaryKey.keys.map source)

/-- A constraint that passes the check is emitted in full by any run that has gone through the
stages of ownership and of constraints. -/
theorem Request.Registered.sameTenantEmitted {r : Request} (h : r.Registered) {key : ForeignKey}
    {constraint : SameTenantConstraint} (hentry : r.sameTenant[key]? = some constraint)
    (hpass : r.foreignKeyFault? key constraint = none) {stages : List Stage}
    (howned : .ownership ∈ stages) (hconstrained : .sameTenant ∈ stages) :
    ∃ columns ownership source,
      SameTenantEmitted r
        { changes := stages.flatMap r.changesOf, handles := r.handlesAfter stages }
        key constraint columns ownership source := by
  obtain ⟨-, columns, hcolumns, hkey, hmapped, hpairs⟩ :=
    (r.foreignKeyFault?_eq_none_iff key constraint).mp hpass
  obtain ⟨source, hsource⟩ := hpairs.exists_source
  have howner := ownershipMap_eq_some (h.suits hpass).guarded hcolumns hkey
  have hcall := hpairs.call_eq_ok hsource (.ofTable (r.ownershipName key.foreign) key.foreign
    (r.tenantColumn key.foreign) columns.primaryKey r.currentTenant) rfl
  -- the arguments are the columns of the foreign key in another order
  have hperm : (columns.primaryKey.keys.map source).Perm key.columns.toList := by
    rw [← hmapped]
    exact hpairs.perm_map_source hsource
  refine ⟨columns, _, source, {
    known := hcolumns
    nonempty := hkey
    keyOrdered := ordered_keys _
    columnsOrdered := ordered_toList _
    source_iff := hsource
    source_mem := ?_
    argument_once := ?_
    null_once := ?_
    handle := ?_
    routine_mem := List.mem_flatMap.mpr ⟨_, howned, ownership_mem_changesOf howner⟩
    routine_create := ?_
    constraint_mem := ?_
    constraint_create := create_addConstraint_ownedCondition _ _ _ _ _ }⟩
  · intro p hp
    have hmem : source p ∈ key.columns.toList :=
      hperm.mem_iff.mp (List.mem_map_of_mem (by simpa using hp))
    simpa using hmem
  · intro f hf
    rw [List.count_map_of_injective _ _ Sql.identifier_injective, hperm.count_eq]
    exact count_toList hf
  · intro f hf
    rw [List.count_map_of_injective _ _ Sql.identifier_injective]
    exact count_toList hf
  · simp only [handlesAfter, howned, if_true]
    exact howner
  · rw [← tenantColumn_eq hcolumns, ← r.callCurrentTenant_currentTenant]
    exact Ownership.create_ofTable _ _ _ _ _
  · have hmem := constraint_mem_changesOf hentry howner hcall
    rw [sameTenantCondition_call] at hmem
    exact List.mem_flatMap.mpr ⟨_, hconstrained, hmem⟩

namespace Builder

/-- Once the check of foreign keys has passed, the default chain emits for every constraint the
ownership routine of the table that it refers to, and a call of this routine that hands every
referring column over exactly once, at the position of the column it is mapped to. -/
theorem sameTenant_emitted {b : Builder} (hreach : b.Reachable)
    (hpass : RequestCheck.foreignKeys.fault? b.request = none) :
    ∃ context, Stage.runAll b.request {} Stage.defaultChain = .ok context ∧
      ∀ (key : ForeignKey) (constraint : SameTenantConstraint),
        b.request.sameTenant[key]? = some constraint →
        ∃ columns ownership source,
          SameTenantEmitted b.request context key constraint columns ownership source := by
  have hmet : Stage.AllMet b.request [] Stage.defaultChain :=
    Stage.allMet_defaultChain fun key constraint hentry =>
      hreach.registered.suits (foreignKeyFault?_eq_none_of_checked hpass hentry)
  refine ⟨_, Stage.runAll_empty_eq_ok _ hmet, fun key constraint hentry => ?_⟩
  exact hreach.registered.sameTenantEmitted hentry
    (foreignKeyFault?_eq_none_of_checked hpass hentry) (by decide) (by decide)

theorem sameTenant_emitted_items :
    ∃ context, Stage.runAll items.request {} Stage.defaultChain = .ok context ∧
      ∃ columns ownership source,
        SameTenantEmitted items.request context itemsKey
          { name := "items_same_tenant", mapping := itemsMapping } columns ownership source := by
  obtain ⟨context, hrun, hall⟩ := sameTenant_emitted reachable_items (by decide +kernel)
  exact ⟨context, hrun, hall itemsKey _ (by decide +kernel)⟩

/-- The columns of the foreign key are handed over in the order of those they refer to. -/
example :
    (Stage.runAll items.request {} Stage.defaultChain).toOption.map
      (fun context => context.createScripts.contains
        ("ALTER TABLE items ADD CONSTRAINT items_same_tenant CHECK (" ++
          "(ordered_in IS NULL OR position IS NULL) OR " ++
          "(is_orders_belongs_to_current_tenant(position, ordered_in)));")) = some true := by
  decide +kernel

end Builder

end Tenancy
