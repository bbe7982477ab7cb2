import Tenancy.Proofs.Sql.Template
import Tenancy.Table.Constraint
import Tenancy.Table.RowSecurity

/-!
# Scripts about tables

The scripts of a change to a table as templates: which fixed text each has, and which names and
values stand in its slots. No name or value leaves its slot, whatever it is
(`TableChange.readsAs`).
-/

namespace Tenancy

open Sql (Part Template)

/-- A change to a table. -/
inductive TableChange where
  | addColumn (column type : String)
  | setDefault (column expression : String)
  | setNotNull (column : String)
  | enableRowSecurity
  | forceRowSecurity
  | createPolicy (name tenantColumn : String) (grantee : Option String) (command : Command)
      (authority : Routine)
  | addConstraint (name condition : String)
deriving DecidableEq, Repr, Inhabited

namespace TableChange

/-- The change itself. -/
def change (t : Table) : TableChange → Change
  | addColumn column type => t.addColumn column type
  | setDefault column expression => t.setDefault column expression
  | setNotNull column => t.setNotNull column
  | enableRowSecurity => t.enableRowSecurity
  | forceRowSecurity => t.forceRowSecurity
  | createPolicy name tenantColumn grantee command authority =>
    t.createPolicy name tenantColumn grantee command authority
  | addConstraint name condition => t.addConstraint name condition

/-! ## Templates -/

/-- A statement that alters a table. -/
def alter (t : Table) (action : Template) : Template :=
  .fixed "ALTER TABLE " :: .qualified t :: action

/-- The script that undoes the change. -/
def dropTemplate (t : Table) : TableChange → Template
  | addColumn column _ => alter t [.fixed " DROP COLUMN ", .name column]
  | setDefault column _ => alter t [.fixed " ALTER COLUMN ", .name column, .fixed " DROP DEFAULT"]
  | setNotNull column => alter t [.fixed " ALTER COLUMN ", .name column, .fixed " DROP NOT NULL"]
  | enableRowSecurity => alter t [.fixed " DISABLE ROW LEVEL SECURITY"]
  | forceRowSecurity => alter t [.fixed " NO FORCE ROW LEVEL SECURITY"]
  | createPolicy name _ _ _ _ =>
    [.fixed "DROP POLICY IF EXISTS ", .name name, .fixed " ON ", .qualified t]
  | addConstraint name _ => alter t [.fixed " DROP CONSTRAINT IF EXISTS ", .name name]

/-- The schema that a catalog query asks for. -/
def schemaPart : Option String → Part
  | some schema => .literal schema
  | none => .fixed "current_schema()"

/-- The query that counts columns that meet a `condition`. -/
def columnQuery (t : Table) (column : String) (condition : Template) : Template :=
  [.fixed "SELECT COUNT(1) FROM information_schema.columns ",
    .fixed "WHERE table_catalog = current_database() ", .fixed "AND table_schema = "] ++
  schemaPart t.schema ::
    ([.fixed " ", .fixed "AND table_name = ", .literal t.name, .fixed " AND column_name = "] ++
      .literal column :: condition)

/-- The query that counts tables whose `flag` is set. -/
def flagQuery (t : Table) (flag : String) : Template :=
  [.fixed "SELECT COUNT(1) FROM pg_class pc, pg_catalog.pg_namespace pn ",
    .fixed "WHERE pc.relname = ", .literal t.name, .fixed " AND pc.relnamespace = pn.oid ",
    .fixed "AND pn.nspname = "] ++
  schemaPart t.schema :: [.fixed (" AND pc." ++ flag ++ " = "), .literal "t"]

/-- The query that tells whether the change has been made. -/
def checkTemplate (t : Table) : TableChange → Template
  | addColumn column _ => columnQuery t column []
  | setDefault column expression =>
    columnQuery t column [.fixed " AND column_default = ", .literal expression]
  | setNotNull column => columnQuery t column [.fixed " AND is_nullable = ", .literal "NO"]
  | enableRowSecurity => flagQuery t "relrowsecurity"
  | forceRowSecurity => flagQuery t "relforcerowsecurity"
  | createPolicy name _ _ _ _ =>
    [.fixed "SELECT COUNT(1) FROM pg_catalog.pg_policy pg, ",
      .fixed "pg_class pc, pg_catalog.pg_namespace pn ",
      .fixed "WHERE pg.polrelid = pc.oid AND pc.relnamespace = pn.oid ",
      .fixed "AND pg.polname = ", .literal name,
      .fixed " AND pc.relname = ", .literal t.name, .fixed " ", .fixed "AND pn.nspname = "] ++
    [schemaPart t.schema]
  | addConstraint name _ =>
    [.fixed "SELECT COUNT(1) FROM information_schema.table_constraints ",
      .fixed "WHERE table_catalog = current_database() ", .fixed "AND table_schema = "] ++
    schemaPart t.schema ::
      [.fixed " AND table_name = ", .literal t.name, .fixed " ",
        .fixed "AND constraint_name = ", .literal name,
        .fixed " AND constraint_type = ", .literal "CHECK"]

/-- Who a policy is for, up to the end of the line. -/
def granteeLine : Option String → Template
  | some grantee => [.name grantee, .fixed "\n"]
  | none => [.fixed (everyone ++ "\n")]

/-- The schema of a policy's table. Without one the table is looked up under its name, which is
then a name inside a text. -/
def tableSchema (t : Table) : Template :=
  match t.schema with
  | some schema => [.literal schema]
  | none =>
    [.fixed "(SELECT relnamespace::regnamespace::text ", .fixed "FROM pg_catalog.pg_class ",
      .fixed "WHERE oid = ", .literal t.render, .fixed "::regclass)"]

/-- A clause of a policy, after the text that `opens` it. -/
def policyClause (t : Table) (opens : String) (clause : Clause) (tenantColumn : String)
    (command : Command) (authority : Routine) : Template :=
  [.fixed opens, .qualified authority.name, .fixed "(", .name tenantColumn,
      .fixed ", ", .literal command.word, .fixed ", ", .literal clause.word, .fixed ", ",
      .literal t.name, .fixed ", "] ++
    tableSchema t ++ [.fixed "))"]

/-- The script that makes the change, up to the SQL that the caller gives, if there is any. -/
def createTemplate (t : Table) : TableChange → Template
  | addColumn column _ => alter t [.fixed " ADD COLUMN ", .name column, .fixed " "]
  | setDefault column _ => alter t [.fixed " ALTER COLUMN ", .name column, .fixed " SET DEFAULT "]
  | setNotNull column => alter t [.fixed " ALTER COLUMN ", .name column, .fixed " SET NOT NULL"]
  | enableRowSecurity => alter t [.fixed " ENABLE ROW LEVEL SECURITY"]
  | forceRowSecurity => alter t [.fixed " FORCE ROW LEVEL SECURITY"]
  | createPolicy name tenantColumn grantee command authority =>
    let filter := policyClause t "USING (" .filter tenantColumn command authority
    let admission := policyClause t "WITH CHECK (" .admission tenantColumn command authority
    [.fixed "CREATE POLICY ", .name name, .fixed " ON ", .qualified t, .fixed "\n",
        .fixed ("FOR " ++ command.word ++ "\n"), .fixed "TO "] ++
      granteeLine grantee ++
      match command with
      | .all | .update => filter ++ .fixed "\n" :: admission
      | .select | .delete => filter
      | .insert => admission
  | addConstraint name _ => alter t [.fixed " ADD CONSTRAINT ", .name name, .fixed " CHECK ("]

/-- The SQL that the caller gives, with what ends the script after it. -/
def verbatim? : TableChange → Option String
  | addColumn _ type => some (type ++ ";")
  | setDefault _ expression => some (expression ++ ";")
  | addConstraint _ condition => some (condition ++ ");")
  | _ => none

/-! ## The scripts are those of the templates -/

theorem drop_eq_script (t : Table) (c : TableChange) :
    (c.change t).drop = (c.dropTemplate t).script := by
  unfold Template.script
  cases c with
  | addColumn column type =>
    unfold change Table.addColumn
    simp [dropTemplate, alter, String.append_assoc]
  | setDefault column expression =>
    unfold change Table.setDefault
    simp [dropTemplate, alter, String.append_assoc]
  | setNotNull column =>
    unfold change Table.setNotNull
    simp [dropTemplate, alter, String.append_assoc]
  | enableRowSecurity =>
    unfold change Table.enableRowSecurity
    simp [dropTemplate, alter, String.append_assoc]
  | forceRowSecurity =>
    unfold change Table.forceRowSecurity
    simp [dropTemplate, alter, String.append_assoc]
  | createPolicy name tenantColumn grantee command authority =>
    unfold change Table.createPolicy
    simp [dropTemplate, String.append_assoc]
  | addConstraint name condition =>
    unfold change Table.addConstraint
    simp [dropTemplate, alter, String.append_assoc]

theorem render_schemaPart (schema : Option String) :
    (schemaPart schema).render = Sql.schemaLiteral schema := by
  cases schema <;> rfl

/-- A column query as it stands in a script. -/
theorem columnCheck_eq_script (t : Table) (column : String) (condition : Template) :
    t.columnCheck column condition.render = (columnQuery t column condition).script := by
  unfold Table.columnCheck columnQuery Template.script
  simp [-String.reduceAppend, render_schemaPart, String.append_assoc]

theorem flagCheck_eq_script (t : Table) (flag : String) :
    t.flagCheck flag = (flagQuery t flag).script := by
  unfold Table.flagCheck flagQuery Template.script
  have hset : Sql.literal "t" = "'t'" := rfl
  simp [render_schemaPart, hset, String.append_assoc]

theorem checks_eq_script (t : Table) (c : TableChange) :
    (c.change t).checks = [(c.checkTemplate t).script] := by
  cases c with
  | addColumn column type =>
    unfold change Table.addColumn checkTemplate
    rw [← columnCheck_eq_script]
    rfl
  | setDefault column expression =>
    unfold change Table.setDefault checkTemplate
    rw [← columnCheck_eq_script]
    simp
  | setNotNull column =>
    unfold change Table.setNotNull checkTemplate
    rw [← columnCheck_eq_script]
    rfl
  | enableRowSecurity =>
    unfold change Table.enableRowSecurity checkTemplate
    rw [← flagCheck_eq_script]
  | forceRowSecurity =>
    unfold change Table.forceRowSecurity checkTemplate
    rw [← flagCheck_eq_script]
  | createPolicy name tenantColumn grantee command authority =>
    unfold change Table.createPolicy Table.policyCheck Template.script
    simp [-String.reduceAppend, checkTemplate, render_schemaPart, String.append_assoc]
  | addConstraint name condition =>
    unfold change Table.addConstraint Table.constraintCheck Template.script
    have hkind : Sql.literal "CHECK" = "'CHECK'" := rfl
    simp [-String.reduceAppend, checkTemplate, render_schemaPart, hkind, String.append_assoc]
    rfl

theorem render_tableSchema (t : Table) :
    Template.render (tableSchema t) = Routine.tableSchema t := by
  unfold tableSchema Routine.tableSchema
  cases t.schema <;> simp [-String.reduceAppend, String.append_assoc]

theorem render_policyClause (t : Table) (opens : String) (clause : Clause) (tenantColumn : String)
    (command : Command) (authority : Routine) :
    (policyClause t opens clause tenantColumn command authority).render =
      opens ++ authority.callHasAuthority (.expression (Sql.identifier tenantColumn)) command
        clause t ++ ")" := by
  unfold policyClause Routine.callHasAuthority Routine.call
  simp [Template.render_append, render_tableSchema, Argument.render, Sql.commaList,
    String.append_assoc, String.intercalate_cons_cons]

/-- A script without SQL of the caller's is that of its template. -/
theorem create_eq_script (t : Table) (c : TableChange) (h : c.verbatim? = none) :
    (c.change t).create = (c.createTemplate t).script := by
  unfold Template.script
  cases c with
  | addColumn column type => cases h
  | setDefault column expression => cases h
  | setNotNull column =>
    unfold change Table.setNotNull
    simp [createTemplate, alter, String.append_assoc]
  | enableRowSecurity =>
    unfold change Table.enableRowSecurity
    simp [createTemplate, alter, String.append_assoc]
  | forceRowSecurity =>
    unfold change Table.forceRowSecurity
    simp [createTemplate, alter, String.append_assoc]
  | createPolicy name tenantColumn grantee command authority =>
    unfold change Table.createPolicy Table.policyClauses createTemplate
    cases grantee <;> cases command <;>
      simp [-String.reduceAppend, Template.render_append, render_policyClause, granteeLine,
        Command.readsRows, Command.writesRows, String.intercalate_cons_cons, String.append_assoc]
  | addConstraint name condition => cases h

/-- In any other script the caller's SQL comes after the template. -/
theorem create_eq_append (t : Table) (c : TableChange) {sql : String}
    (h : c.verbatim? = some sql) :
    (c.change t).create = (c.createTemplate t).render ++ sql := by
  cases c with
  | addColumn column type =>
    cases h
    unfold change Table.addColumn
    simp [createTemplate, alter, String.append_assoc]
  | setDefault column expression =>
    cases h
    unfold change Table.setDefault
    simp [createTemplate, alter, String.append_assoc]
  | addConstraint name condition =>
    cases h
    unfold change Table.addConstraint
    simp [createTemplate, alter, String.append_assoc]
  | _ => cases h

/-! ## Soundness of the templates -/

theorem isSound_dropTemplate (t : Table) (c : TableChange) :
    (c.dropTemplate t).isSound = true := by
  cases c <;> rfl

/-- The schema is sound wherever a text would be. -/
theorem isSound_schemaPart (schema : Option String) {rest : Template}
    (hend : rest.endsSlot = true) (h : rest.isSound = true) :
    Template.isSound (schemaPart schema :: rest) = true := by
  cases schema with
  | none => exact Template.isSound_append (a := [.fixed "current_schema()"]) rfl rfl h
  | some schema =>
    show (_ && _) = true
    rw [hend, h]
    rfl

theorem isSound_columnQuery (t : Table) (column : String) {condition : Template}
    (hend : condition.endsSlot = true) (h : condition.isSound = true) :
    (columnQuery t column condition).isSound = true := by
  have hcolumn : Template.isSound (.literal column :: condition) = true := by
    show (_ && _) = true
    rw [hend, h]
    rfl
  exact Template.isSound_append rfl rfl
    (isSound_schemaPart t.schema rfl (Template.isSound_append rfl rfl hcolumn))

theorem isSound_flagQuery (t : Table) {flag : String}
    (h : Template.isSound [.fixed (" AND pc." ++ flag ++ " = "), .literal "t"] = true)
    (hend : Template.endsSlot [.fixed (" AND pc." ++ flag ++ " = "), .literal "t"] = true) :
    (flagQuery t flag).isSound = true :=
  Template.isSound_append rfl rfl (isSound_schemaPart t.schema hend h)

theorem isSound_checkTemplate (t : Table) (c : TableChange) :
    (c.checkTemplate t).isSound = true := by
  cases c with
  | addColumn column type => exact isSound_columnQuery t column rfl rfl
  | setDefault column expression => exact isSound_columnQuery t column rfl rfl
  | setNotNull column => exact isSound_columnQuery t column rfl rfl
  | enableRowSecurity => exact isSound_flagQuery t rfl rfl
  | forceRowSecurity => exact isSound_flagQuery t rfl rfl
  | createPolicy name tenantColumn grantee command authority =>
    exact Template.isSound_append rfl rfl (isSound_schemaPart t.schema rfl rfl)
  | addConstraint name condition =>
    exact Template.isSound_append rfl rfl (isSound_schemaPart t.schema rfl rfl)

/-- A clause is sound after any text that is, and is at an end. -/
theorem isSound_policyClause (t : Table) (opens : String) (clause : Clause)
    (tenantColumn : String) (command : Command) (authority : Routine)
    (hsound : Template.isSound [.fixed opens] = true)
    (hopen : Template.isOpen [.fixed opens] = false) :
    (policyClause t opens clause tenantColumn command authority).isSound = true := by
  obtain ⟨schema, name⟩ := t
  refine Template.isSound_append (a := [.fixed opens]) hsound hopen ?_
  cases schema <;> rfl

theorem isSound_createTemplate (t : Table) (c : TableChange) :
    (c.createTemplate t).isSound = true := by
  cases c with
  | createPolicy name tenantColumn grantee command authority =>
    have hfilter := isSound_policyClause t "USING (" .filter tenantColumn command authority
      rfl rfl
    have hadmission := isSound_policyClause t "WITH CHECK (" .admission tenantColumn command
      authority rfl rfl
    -- only the filter is followed by another clause
    have hend : (policyClause t "USING (" .filter tenantColumn command authority).isOpen =
        false := by
      obtain ⟨schema, name⟩ := t
      cases schema <;> rfl
    have hnext := Template.isSound_append (a := [.fixed "\n"]) rfl rfl hadmission
    unfold createTemplate
    refine Template.isSound_append (Template.isSound_append ?_ ?_ ?_) ?_ ?_
    · cases command <;> rfl
    · rfl
    · cases grantee <;> rfl
    · cases grantee <;> rfl
    · cases command with
      | all => exact Template.isSound_append hfilter hend hnext
      | select => exact hfilter
      | insert => exact hadmission
      | update => exact Template.isSound_append hfilter hend hnext
      | delete => exact hfilter
  | _ => rfl

/-- A template that SQL of the caller's follows is at an end there. -/
theorem isOpen_createTemplate (t : Table) (c : TableChange) {sql : String}
    (h : c.verbatim? = some sql) : (c.createTemplate t).isOpen = false := by
  cases c with
  | addColumn column type => rfl
  | setDefault column expression => rfl
  | addConstraint name condition => rfl
  | _ => cases h

/-! ## No name leaves its slot -/

theorem readsAs_create (t : Table) {c : TableChange} (h : c.verbatim? = none) :
    Template.ReadsAs (c.change t).create (c.createTemplate t) := by
  rw [create_eq_script t c h]
  exact Template.readsAs_script (isSound_createTemplate t c)

theorem tokens?_create (t : Table) {c : TableChange} {sql : String} (h : c.verbatim? = some sql) :
    Sql.tokens? (c.change t).create =
      (Sql.tokens? sql).map ((c.createTemplate t).tokens ++ ·) := by
  rw [create_eq_append t c h]
  exact Template.tokens?_append (isSound_createTemplate t c) (isOpen_createTemplate t c h) sql

/-- The name of a table without a schema, read on its own. -/
theorem tokens?_render {t : Table} (h : t.schema = none) :
    Sql.tokens? t.render = some [.identifier t.name] := by
  obtain ⟨schema, name⟩ := t
  obtain rfl : schema = none := h
  have hend : Sql.Breaks [] := by simp [Sql.Breaks]
  have hread := (Sql.Slot.qualified ⟨none, name⟩).read_render hend
  rw [List.append_nil] at hread
  exact hread

/-- Whatever names and values a change to a table is given, its scripts read as the fixed text of
their templates with one token for each name and each value, and with one semicolon, at the end.
SQL that the caller gives is read on its own after the template. The name of a policy's table
without a schema stands in a text, and what stands there reads as the name again. -/
theorem readsAs (t : Table) (c : TableChange) :
    Template.ReadsAs (c.change t).drop (c.dropTemplate t) ∧
      (∃ query, (c.change t).checks = [query] ∧ Template.ReadsAs query (c.checkTemplate t)) ∧
      (match c.verbatim? with
        | none => Template.ReadsAs (c.change t).create (c.createTemplate t)
        | some sql => Sql.tokens? (c.change t).create =
            (Sql.tokens? sql).map ((c.createTemplate t).tokens ++ ·)) ∧
      ∀ name column grantee command authority,
        c = .createPolicy name column grantee command authority → t.schema = none →
        .literal t.render ∈ c.createTemplate t ∧
          Sql.tokens? t.render = some [.identifier t.name] := by
  refine ⟨?_, ?_, ?_, ?_⟩
  · rw [drop_eq_script]
    exact Template.readsAs_script (isSound_dropTemplate t c)
  · exact ⟨_, checks_eq_script t c, Template.readsAs_script (isSound_checkTemplate t c)⟩
  · cases hverbatim : c.verbatim? with
    | none => exact readsAs_create t hverbatim
    | some sql => exact tokens?_create t hverbatim
  · rintro name column grantee command authority rfl hschema
    refine ⟨?_, tokens?_render hschema⟩
    cases command <;> simp [createTemplate, policyClause, tableSchema, hschema]

end TableChange

end Tenancy
