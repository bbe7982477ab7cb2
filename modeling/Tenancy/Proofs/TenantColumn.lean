import Tenancy.Proofs.LiteralLists
import Tenancy.Proofs.Reordering
import Tenancy.Proofs.StatementColumns

/-!
# One tenant column and one tenant type

Seven sorts of statements in six stages name the tenant column of a table, and the stages write the
type of tenants in eight places. Each goes back to the request on its own. They all come out at the
same column and at the same type, whatever order these were set in (`Stage.runAll_tenantNames`).
-/

namespace Tenancy

/-! ## The conditions of an ownership routine -/

theorem length_le_of_skip {text script rest : List Char} (h : skip text script = some rest) :
    rest.length ≤ script.length := by
  induction text generalizing script with
  | nil =>
    cases h
    exact Nat.le_refl _
  | cons c text ih =>
    cases script with
    | nil => cases h
    | cons d script =>
      simp only [skip, Option.ite_none_right_eq_some] at h
      have hle := ih h.2
      simp only [List.length_cons]
      omega

theorem Sql.length_lt_of_readName {text rest : List Char} {name : String}
    (h : readName text = some (name, rest)) : rest.length < text.length := by
  unfold readName at h
  split at h
  · cases h
  · next c tail =>
    split at h
    · obtain ⟨⟨read, after⟩, hread, heq⟩ := Option.map_eq_some_iff.mp h
      cases heq
      have hlt := length_lt_of_readMarked hread
      simp only [List.length_cons]
      omega
    · split at h
      · split at h
        · cases h
          have hle := (List.dropWhile_sublist extendsWord (l := tail)).length_le
          simp only [List.length_cons]
          omega
        · cases h
      · cases h

/-- Reads a condition on a column of the record up to what the column is compared with. -/
def readCondition (text : List Char) : Option (String × List Char) := do
  let (column, rest) ← Sql.readName (← skip "rt.".toList text)
  return (column, ← skip " = ".toList rest)

theorem length_lt_of_readCondition {text rest : List Char} {column : String}
    (h : readCondition text = some (column, rest)) : rest.length < text.length := by
  obtain ⟨opened, hopened, h⟩ := Option.bind_eq_some_iff.mp h
  obtain ⟨⟨name, named⟩, hnamed, h⟩ := Option.bind_eq_some_iff.mp h
  obtain ⟨compared, hcompared, heq⟩ := Option.bind_eq_some_iff.mp h
  cases heq
  have hle := length_le_of_skip hopened
  have hlt := Sql.length_lt_of_readName hnamed
  have hle' := length_le_of_skip hcompared
  omega

/-- Reads conditions on the columns of the record: the columns that are compared with parameters,
and the column of the last condition with what it is compared with. -/
def readConditions (text : List Char) : Option (List String × String × List Char) :=
  match _ : readCondition text with
  | none => none
  | some (column, '$' :: rest) =>
    match _ : skip " AND ".toList (rest.dropWhile Char.isDigit) with
    | none => none
    | some next => (readConditions next).map fun (keys, last) => (column :: keys, last)
  | some (column, rest) => some ([], column, rest)
termination_by text.length
decreasing_by
  have hlt := length_lt_of_readCondition ‹_›
  have hle := length_le_of_skip ‹_›
  have hdrop := (List.dropWhile_sublist Char.isDigit (l := rest)).length_le
  simp only [List.length_cons] at hlt
  omega

/-- Reads the body of an ownership routine: its table, the key columns, and the last condition. -/
def readOwnership (body : List Char) : Option (Table × List String × String × List Char) := do
  let (t, rest) ← Sql.readQualified (← skip Ownership.bodyStart.toList body)
  return (t, ← readConditions (← skip " rt WHERE ".toList rest))

theorem readCondition_column (column : String) {rest : List Char} :
    readCondition ("rt.".toList ++ ((Sql.identifier column).toList ++ (" = ".toList ++ rest))) =
      some (column, rest) := by
  unfold readCondition
  simp only [skip_append, Sql.readName_closed " = " rfl, Option.bind_eq_bind, Option.bind_some,
    Option.pure_def]

/-- A condition on a parameter stands before further conditions. -/
theorem readConditions_key (column : String) (k : Nat) {text last : List Char}
    {keys : List String} {compared : String}
    (h : readConditions text = some (keys, compared, last)) :
    readConditions ((s!"rt.{Sql.identifier column} = ${k}").toList ++ (" AND ".toList ++ text)) =
      some (column :: keys, compared, last) := by
  have htext : (s!"rt.{Sql.identifier column} = ${k}").toList ++ (" AND ".toList ++ text) =
      "rt.".toList ++ ((Sql.identifier column).toList ++ (" = ".toList ++
        ('$' :: (Nat.toDigits 10 k ++ (" AND ".toList ++ text))))) := by
    simp
  have hdigits : ∀ c ∈ Nat.toDigits 10 k, c.isDigit = true := fun c hc =>
    Nat.isDigit_of_mem_toDigits (by decide) (by decide) hc
  have hrest : (Nat.toDigits 10 k ++ (" AND ".toList ++ text)).dropWhile Char.isDigit =
      " AND ".toList ++ text := by
    rw [List.dropWhile_append_of_pos hdigits]
    rfl
  rw [htext, readConditions, readCondition_column]
  split
  · next hread => cases hread
  · next hread =>
    cases hread
    rw [hrest, skip_append]
    split
    · next hnext => cases hnext
    · next hnext =>
      cases hnext
      rw [h]
      rfl
  · next hother hread =>
    cases hread
    exact absurd rfl (hother _)

/-- The last condition compares the tenant column with the current tenant. -/
theorem readConditions_tenant (column : String) (current : Routine) (rest : List Char) :
    readConditions ((s!"rt.{Sql.identifier column} = {current.callCurrentTenant}").toList ++ rest) =
      some ([], column, current.callCurrentTenant.toList ++ rest) := by
  have htext : (s!"rt.{Sql.identifier column} = {current.callCurrentTenant}").toList ++ rest =
      "rt.".toList ++ ((Sql.identifier column).toList ++ (" = ".toList ++
        (current.callCurrentTenant.toList ++ rest))) := by
    simp
  have hcall : (current.callCurrentTenant.toList ++ rest).head? ≠ some '$' := by
    obtain ⟨c, hhead, hc⟩ := Sql.head?_render current.name
    have hname : (current.callCurrentTenant.toList ++ rest).head? = some c := by
      simp [Routine.callCurrentTenant, Routine.call, List.head?_append, hhead]
    rw [hname]
    rintro ⟨⟩
    exact absurd hc (by decide)
  rw [htext, readConditions, readCondition_column]
  split
  · next hread => cases hread
  · next after hread =>
    injection hread with hread
    injection hread with hcolumn hrest
    exact absurd (by rw [hrest]; rfl) hcall
  · next hread =>
    cases hread
    rfl

/-- Put before joined conditions that are read, a condition on a parameter is read with them. -/
theorem readConditions_cons (column : String) (k : Nat) {others keys : List String}
    {rest last : List Char} {compared : String} (hothers : others ≠ [])
    (h : readConditions ((" AND ".intercalate others).toList ++ rest) =
      some (keys, compared, last)) :
    readConditions
      ((" AND ".intercalate (s!"rt.{Sql.identifier column} = ${k}" :: others)).toList ++ rest) =
        some (column :: keys, compared, last) := by
  obtain ⟨next, others, rfl⟩ := List.exists_cons_of_ne_nil hothers
  rw [String.intercalate_cons_cons, String.toList_append, String.toList_append, List.append_assoc,
    List.append_assoc]
  exact readConditions_key column k h

theorem readConditions_conditions (keys : List String) (column : String) (current : Routine)
    (rest : List Char) :
    readConditions ((" AND ".intercalate (Ownership.conditions keys column current)).toList ++
      rest) = some (keys, column, current.callCurrentTenant.toList ++ rest) := by
  unfold Ownership.conditions
  generalize 1 = k
  induction keys generalizing k with
  | nil => exact readConditions_tenant column current rest
  | cons key keys ih =>
    rw [List.zipIdx_cons, List.map_cons, List.cons_append]
    exact readConditions_cons key k (by simp) (ih (k + 1))

/-- The body of an ownership routine tells its table, the key columns, and that the tenant column
is compared with the current tenant. -/
theorem Ownership.readOwnership_ofTable (name : String) (t : Table) (column : String)
    (primaryKey : Std.ExtTreeMap String String) (current : Routine) :
    readOwnership (ofTable name t column primaryKey current).routine.body.toList =
      some (t, primaryKey.keys, column, (current.callCurrentTenant ++ "\n)").toList) := by
  have hbody : (ofTable name t column primaryKey current).routine.body.toList =
      bodyStart.toList ++ (t.render.toList ++ (" rt WHERE ".toList ++
        ((" AND ".intercalate (conditions primaryKey.keys column current)).toList ++
          "\n)".toList))) := by
    simp [ofTable, bodyStart]
  unfold readOwnership
  simp only [hbody, skip_append, Sql.readQualified_closed " rt WHERE " rfl,
    readConditions_conditions, Option.bind_eq_bind, Option.bind_some, Option.pure_def,
    String.toList_append]

/-! ## Types in scripts -/

/-- The script defines a routine that takes values of the types for its parameters and returns one
of the type `returns`, by the body. -/
def Change.Declares (c : Change) (parameters : List String) (returns body : String) : Prop :=
  ∃ (name : QualifiedName) (after : String), c.create = "CREATE OR REPLACE FUNCTION " ++
    (name.render ++ ("(" ++ (Sql.commaList parameters ++ (") RETURNS " ++ (returns ++
      (" AS $$\n" ++ (body ++ ("\n$$" ++ after))))))))

theorem Routine.declares (f : Routine) :
    f.change.Declares f.parameters f.returns f.body := by
  refine ⟨f.name, f.afterBody, ?_⟩
  show f.create = _
  rw [create_eq_append, ← String.toList_inj]
  simp [signature]

/-! ## Runs -/

/-- The change is not the caller's own. -/
def Purpose.Generated (p : Purpose) : Prop := ∀ position change, p ≠ .custom position change

/-- What a run makes of the tenant columns. -/
structure ColumnsNamed (r : Request) (c : Context) : Prop where
  /-- All that a request wants is planned, and a change is made for it. -/
  planned : ∀ p : Purpose, p.Generated → r.Wants p → ∃ i : Nat, r.plan[i]? = some p
  /-- By its script the change names what the request has named for it. -/
  statements : ∀ (i : Nat) (p : Purpose), r.plan[i]? = some p → p.Generated →
    c.At (fun change => readColumns change.create.toList = r.named? p) i
  /-- So a statement about a table names its tenant column and no other. -/
  columns : ∀ (i : Nat) (change : Change) (kind : TableChange.Kind) (t : Table)
    (columns : List String), c.changes[i]? = some change →
    (∀ position, r.plan[i]? ≠ some (.custom position change)) →
    readColumns change.create.toList = some (kind, t, columns) →
    columns ≠ [] ∧ ∀ column ∈ columns, column = r.tenantColumn t
  /-- An ownership routine looks at the tenant column of its table. -/
  ownership : ∀ (i : Nat) (t : Table), r.plan[i]? = some (.routine (.ownership t)) →
    c.At (fun change => ∃ parameters returns body keys, change.Declares parameters returns body ∧
      readOwnership body.toList =
        some (t, keys, r.tenantColumn t, (r.currentTenant.callCurrentTenant ++ "\n)").toList)) i

/-- What a run makes of the type of tenants. -/
structure TypeUsed (r : Request) (c : Context) (type : String) : Prop where
  /-- The current tenant is of the type, and is converted to it if it is declared. -/
  returned : ∀ i : Nat, r.plan[i]? = some (.routine .currentTenant) →
    c.At (fun change => ∃ body, change.Declares [] type body ∧ (r.tenantType.isSome →
      body = s!"SELECT CAST(current_setting({Sql.literal r.tenantSetting}) AS {type})")) i
  /-- A tenant that is assigned, compared or looked up is of the type. -/
  taken : ∀ (i : Nat) (role : Role),
    role ∈ [Role.assignTenant, .isCurrentTenant, .validTenant] →
    r.plan[i]? = some (.routine role) →
    c.At (fun change => ∃ returns body, change.Declares [type] returns body) i
  /-- So is the tenant that the authority routine is asked about. -/
  asked : ∀ i : Nat, r.plan[i]? = some (.routine .authority) →
    c.At (fun change => ∃ others returns body, change.Declares (type :: others) returns body) i
  /-- So are the values of the blacklist. -/
  listed : ∀ i : Nat, r.plan[i]? = some (.routine .validTenant) →
    c.At (fun change => ∃ body values, change.Declares [type] "BOOLEAN" body ∧
      readBlacklist body.toList = some (values, s!"::{type}[])".toList)) i
  /-- So is every column that is added. -/
  added : ∀ (i : Nat) (t : Table), r.plan[i]? = some (.addColumn t) →
    c.At (fun change => change.create = s!"ALTER TABLE {t.render} ADD COLUMN " ++
      s!"{Sql.identifier (r.tenantColumn t)} {type};") i
  recorded : c.handles.tenantType = some type

namespace Request

variable {r : Request}

/-- The default chain has the stages of all that is wanted. -/
theorem exists_plan_of_generated {p : Purpose} (hgenerated : p.Generated) (h : r.Wants p) :
    ∃ i : Nat, r.plan[i]? = some p := by
  have hstage : p.stage ∈ Stage.defaultChain := by
    cases p with
    | custom position change => exact absurd rfl (hgenerated position change)
    | routine role => cases role <;> simp [Purpose.stage, Role.stage, Stage.defaultChain]
    | _ => simp [Purpose.stage, Stage.defaultChain]
  have hmem : p ∈ r.plan := List.mem_flatMap.mpr ⟨p.stage, hstage, mem_purposes_of_wants h⟩
  exact List.mem_iff_getElem?.mp hmem

/-- The routine that reads the current tenant returns the type, declared or not. -/
theorem returns_currentTenant (r : Request) : r.currentTenant.parameters = [] ∧
    r.currentTenant.returns = r.tenantTypeName ∧ (r.tenantType.isSome → r.currentTenant.body =
      s!"SELECT CAST(current_setting({Sql.literal r.tenantSetting}) AS {r.tenantTypeName})") := by
  unfold currentTenant Routine.currentTenant tenantTypeName
  cases r.tenantType with
  | none => exact ⟨rfl, rfl, nofun⟩
  | some declared =>
    refine ⟨rfl, rfl, fun _ => ?_⟩
    rw [← String.toList_inj]
    simp

end Request

namespace Stage

section

variable {r : Request} {context : Context} (hrun : runAll r {} defaultChain = .ok context)

include hrun

/-- Where a routine is planned, the change defines it. -/
theorem exists_routine_change {i : Nat} {role : Role} (h : r.plan[i]? = some (.routine role)) :
    ∃ routine, r.routine? role = some routine ∧ context.changes[i]? = some routine.change := by
  obtain ⟨change, hchange, hmade⟩ := exists_change hrun h
  obtain ⟨routine, hroutine, rfl⟩ := Option.map_eq_some_iff.mp hmade
  exact ⟨routine, hroutine, hchange⟩

theorem readColumns_at {i : Nat} {p : Purpose} (h : r.plan[i]? = some p)
    (hgenerated : p.Generated) :
    context.At (fun change => readColumns change.create.toList = r.named? p) i := by
  obtain ⟨change, hchange, hmade⟩ := exists_change hrun h
  exact ⟨change, hchange, Request.readColumns_changeFor? hgenerated hmade⟩

theorem readOwnership_at {i : Nat} {t : Table} (h : r.plan[i]? = some (.routine (.ownership t))) :
    context.At (fun change => ∃ parameters returns body keys,
      change.Declares parameters returns body ∧ readOwnership body.toList =
        some (t, keys, r.tenantColumn t,
          (r.currentTenant.callCurrentTenant ++ "\n)").toList)) i := by
  obtain ⟨routine, hroutine, hchange⟩ := exists_routine_change hrun h
  obtain ⟨o, ho, rfl⟩ := Option.map_eq_some_iff.mp hroutine
  obtain ⟨-, columns, -, -, rfl⟩ := Request.of_getElem?_ownershipMap ho
  exact ⟨_, hchange, _, _, _, _, Routine.declares _, Ownership.readOwnership_ofTable _ _ _ _ _⟩

theorem columnsNamed : ColumnsNamed r context where
  planned _ := Request.exists_plan_of_generated
  statements _ _ := readColumns_at hrun
  columns i change kind t columns hchange hcustom hread := by
    obtain ⟨p, hp, -, hmade⟩ := exists_purpose hrun hchange
    have hgenerated : p.Generated := by
      rintro position made rfl
      obtain rfl : made = change := Option.some.inj hmade
      exact hcustom position hp
    rw [Request.readColumns_changeFor? hgenerated hmade] at hread
    exact Request.eq_tenantColumn_of_named? hread
  ownership _ _ := readOwnership_at hrun

theorem typeUsed : TypeUsed r context r.tenantTypeName where
  returned i h := by
    obtain ⟨routine, hroutine, hchange⟩ := exists_routine_change hrun h
    cases hroutine
    obtain ⟨hparameters, hreturns, hbody⟩ := r.returns_currentTenant
    have hdeclares := r.currentTenant.declares
    rw [hparameters, hreturns] at hdeclares
    exact ⟨_, hchange, _, hdeclares, hbody⟩
  taken i role hrole h := by
    obtain ⟨routine, hroutine, hchange⟩ := exists_routine_change hrun h
    have hparameters : routine.parameters = [r.tenantTypeName] := by
      simp only [List.mem_cons, List.not_mem_nil, or_false] at hrole
      rcases hrole with rfl | rfl | rfl
      · cases hroutine
        rfl
      · cases hroutine
        rfl
      · obtain ⟨blacklist, -, rfl⟩ := Option.map_eq_some_iff.mp hroutine
        rfl
    have hdeclares := routine.declares
    rw [hparameters] at hdeclares
    exact ⟨_, hchange, _, _, hdeclares⟩
  asked i h := by
    obtain ⟨routine, hroutine, hchange⟩ := exists_routine_change hrun h
    cases hroutine
    exact ⟨_, hchange, _, _, _, Routine.declares _⟩
  listed i h := by
    obtain ⟨routine, hroutine, hchange⟩ := exists_routine_change hrun h
    obtain ⟨blacklist, -, rfl⟩ := Option.map_eq_some_iff.mp hroutine
    exact ⟨_, hchange, _, blacklist.values, Routine.declares _,
      Routine.readBlacklist_isValidTenant _ _ _⟩
  added i t h := by
    obtain ⟨change, hchange, hmade⟩ := exists_change hrun h
    cases hmade
    have hscript := TableChange.create_eq_append t (.addColumn (r.tenantColumn t) r.tenantTypeName)
      rfl
    refine ⟨_, hchange, hscript.trans ?_⟩
    rw [← String.toList_inj]
    simp [TableChange.createTemplate, TableChange.alter]
  recorded := by
    obtain ⟨-, rfl⟩ := eq_of_runAll_eq_ok hrun
    simp [Request.handlesAfter, defaultChain]

end

/-- Settings that are made in another order leave the same request. -/
theorem request_setAll_of_reorders {b : Builder} {settings settings' : List Setting}
    (h : Reorders b.request.defaultSchema settings settings') :
    (b.setAll settings').request = (b.setAll settings).request := by
  have hequal : b.setAll settings' = b.setAll settings := by
    refine Builder.ext_read (by simp) fun slot => ?_
    rw [Builder.read_setAll_filter, h.filter_writes, ← Builder.read_setAll_filter]
  rw [hequal]

/-- Every statement about the tenant column of a table names one column, the one that the request
has for the table, and wherever the type of tenants is written it is one type. When the settings of
a builder change places the request is the same, so it is the same column and the same type. -/
theorem runAll_tenantNames {r : Request} {context : Context}
    (hrun : runAll r {} defaultChain = .ok context) :
    ColumnsNamed r context ∧ TypeUsed r context r.tenantTypeName ∧
      ∀ (b : Builder) (settings settings' : List Setting), (b.setAll settings).request = r →
        Reorders b.request.defaultSchema settings settings' →
        (b.setAll settings').request = r := by
  refine ⟨columnsNamed hrun, typeUsed hrun, ?_⟩
  rintro b settings settings' rfl horder
  exact request_setAll_of_reorders horder

/-- The column and the type are set before the tables. -/
def typeFirst : List Setting :=
  [.defaultTenantColumn "org", .tenantType "UUID",
    .policy (.named "orders") (.ofList [("number", "INT"), ("year", "SMALLINT")]) none
      "orders_policy",
    .policy (.named "items") ∅ (some "owner") "items_policy"]

/-- The column and the type are set after the tables. -/
def typeLast : List Setting :=
  [.policy (.named "orders") (.ofList [("number", "INT"), ("year", "SMALLINT")]) none
      "orders_policy",
    .policy (.named "items") ∅ (some "owner") "items_policy",
    .defaultTenantColumn "org", .tenantType "UUID"]

/-- A builder with a column to create, a blacklist, and defaults for all tables. -/
def columnCreated : Builder :=
  (Builder.inSchema none).setAll
    [.createColumn (.named "items"), .blacklist (.ofValues ["public"] none none),
      .defaultEverywhere true]

theorem runAll_tenantNames_typeFirst :
    Reorders none typeFirst typeLast ∧
      ∃ context, runAll (columnCreated.setAll typeFirst).request {} defaultChain = .ok context ∧
        ColumnsNamed (columnCreated.setAll typeFirst).request context ∧
        TypeUsed (columnCreated.setAll typeFirst).request context "UUID" ∧
        (columnCreated.setAll typeLast).request = (columnCreated.setAll typeFirst).request ∧
        (columnCreated.setAll typeLast).request.tenantColumn { name := "orders" } = "org" := by
  have horder : Reorders none typeFirst typeLast := by
    refine .of_slots ((Equiv.swap (0 : Fin 4) 2).trans (Equiv.swap 1 3)) ?_ (by decide +kernel)
    rintro ⟨_ | _ | _ | _ | i, hi⟩
    · rfl
    · rfl
    · rfl
    · rfl
    · exact absurd hi (by simp [typeFirst])
  have hreach : (columnCreated.setAll typeFirst).Reachable :=
    ((Builder.Reachable.inSchema none).setAll _).setAll _
  obtain ⟨context, hrun⟩ := hreach.exists_run (by decide +kernel)
  obtain ⟨hcolumns, htype, hreordered⟩ := runAll_tenantNames hrun
  have hsame := hreordered columnCreated typeFirst typeLast rfl horder
  refine ⟨horder, context, hrun, hcolumns, htype, hsame, ?_⟩
  rw [hsame]
  decide +kernel

end Stage

end Tenancy
