import Tenancy.Proofs.ColumnDefaults

/-!
# Columns in statements

Which tenant columns a statement about a table names: the column that is added or altered, the one
that a policy hands to the authority routine in each of its clauses, and the one that stands on both
sides of the condition of a blacklist. They are read off the script one piece after the other, so a
table or a column that is called like a piece of a statement is not taken for one
(`Request.readColumns_changeFor?`).
-/

namespace Tenancy

/-! ## Texts that end what is before them -/

namespace Sql

/-- Nothing that is written before the text can run on into it. -/
def closes (text : String) : Bool :=
  text.toList.head?.any fun c => !extendsWord c && c != '"' && c != '.' && c != '\''

section

variable (text : String) (h : closes text = true) (rest : List Char)

include h

theorem exists_head_of_closes : ∃ c tail, text.toList ++ rest = c :: tail ∧
    extendsWord c = false ∧ c ≠ '"' ∧ c ≠ '.' ∧ c ≠ '\'' := by
  unfold closes at h
  cases htext : text.toList with
  | nil => simp [htext] at h
  | cons c tail =>
    refine ⟨c, tail ++ rest, rfl, ?_⟩
    simpa [htext, and_assoc] using h

theorem readName_closed (name : String) :
    readName ((identifier name).toList ++ (text.toList ++ rest)) =
      some (name, text.toList ++ rest) := by
  obtain ⟨c, tail, heq, hword, hmark, -⟩ := exists_head_of_closes text h rest
  rw [heq]
  exact readName_identifier name (endsName_cons hword hmark tail)

theorem readQualified_closed (q : QualifiedName) :
    readQualified (q.render.toList ++ (text.toList ++ rest)) = some (q, text.toList ++ rest) := by
  obtain ⟨c, tail, heq, hword, hmark, hdot, -⟩ := exists_head_of_closes text h rest
  rw [heq]
  exact readQualified_render q (endsName_cons hword hmark tail) (by simpa using hdot)

theorem readLiteral_closed (value : String) :
    readLiteral ((literal value).toList ++ (text.toList ++ rest)) =
      some (value, text.toList ++ rest) := by
  obtain ⟨c, tail, heq, -, -, -, hquote⟩ := exists_head_of_closes text h rest
  rw [heq]
  exact readLiteral_literal value (by simpa using hquote)

end

end Sql

/-! ## Readers -/

open Sql (readName readQualified readLiteral)

/-- Reads a column that is added, up to its type. -/
def readAdded (action : List Char) : Option (TableChange.Kind × List String) := do
  let (column, rest) ← readName (← skip " ADD COLUMN ".toList action)
  let _ ← skip " ".toList rest
  return (.addColumn, [column])

/-- Reads a column that gets a default, or that nulls are forbidden in. -/
def readAltered (action : List Char) : Option (TableChange.Kind × List String) := do
  let (column, rest) ← readName (← skip " ALTER COLUMN ".toList action)
  ((skip " SET DEFAULT ".toList rest).map fun _ => (.setDefault, [column])) <|>
    (skip " SET NOT NULL;".toList rest).map fun _ => (.setNotNull, [column])

/-- Reads the columns in the condition of a blacklist: the one that may be null, and the one that
is looked up. -/
def readChecked (action : List Char) : Option (TableChange.Kind × List String) := do
  let (_, rest) ← readName (← skip " ADD CONSTRAINT ".toList action)
  let (nullable, rest) ← readName (← skip " CHECK (".toList rest)
  let (_, rest) ← readQualified (← skip " IS NULL OR ".toList rest)
  let (listed, rest) ← readName (← skip "(".toList rest)
  let _ ← skip "));".toList rest
  return (.addConstraint, [nullable, listed])

/-- Reads the schema of a policy's table: a text, or a query that looks the table up. -/
def readTableSchema (text : List Char) : Option (List Char) :=
  match readLiteral text with
  | some (_, rest) => some rest
  | none => do
    let (_, rest) ← readLiteral (← skip ("(SELECT relnamespace::regnamespace::text " ++
      "FROM pg_catalog.pg_class WHERE oid = ").toList text)
    skip "::regclass)".toList rest

/-- Reads a clause of a policy after what opens it: the column that it hands to the authority
routine, and what follows the clause. -/
def readClause (opens : String) (text : List Char) : Option (String × List Char) := do
  let (_, rest) ← readQualified (← skip opens.toList text)
  let (column, rest) ← readName (← skip "(".toList rest)
  let (_, rest) ← readLiteral (← skip ", ".toList rest)
  let (_, rest) ← readLiteral (← skip ", ".toList rest)
  let (_, rest) ← readLiteral (← skip ", ".toList rest)
  let rest ← readTableSchema (← skip ", ".toList rest)
  return (column, ← skip "))".toList rest)

/-- Reads a policy for all commands: its table, and the columns in its two clauses. -/
def readPolicy (script : List Char) : Option (Table × List String) := do
  let (_, rest) ← readName (← skip "CREATE POLICY ".toList script)
  let (t, rest) ← readQualified (← skip " ON ".toList rest)
  let (_, rest) ← readName (← skip "\nFOR ALL\nTO ".toList rest)
  let (filter, rest) ← readClause "\nUSING (" rest
  let (admission, rest) ← readClause "\nWITH CHECK (" rest
  let _ ← skip ";".toList rest
  return (t, [filter, admission])

/-- Reads what a script does to the tenant column of which table, and the columns that it names. -/
def readColumns (script : List Char) : Option (TableChange.Kind × Table × List String) :=
  match skip "ALTER TABLE ".toList script with
  | some rest => do
    let (t, action) ← readQualified rest
    let (kind, columns) ← readAdded action <|> readAltered action <|> readChecked action
    return (kind, t, columns)
  | none => (readPolicy script).map fun (t, columns) => (.createPolicy, t, columns)

/-! ## Statements read -/

theorem readAdded_column (column : String) (rest : List Char) :
    readAdded (" ADD COLUMN ".toList ++ ((Sql.identifier column).toList ++ (" ".toList ++ rest))) =
      some (.addColumn, [column]) := by
  unfold readAdded
  simp only [skip_append, Sql.readName_closed " " rfl, Option.bind_eq_bind, Option.bind_some,
    Option.pure_def]

theorem readAltered_default (column : String) (rest : List Char) :
    readAltered (" ALTER COLUMN ".toList ++
      ((Sql.identifier column).toList ++ (" SET DEFAULT ".toList ++ rest))) =
        some (.setDefault, [column]) := by
  unfold readAltered
  simp only [skip_append, Sql.readName_closed " SET DEFAULT " rfl, Option.bind_eq_bind,
    Option.bind_some, Option.map_some]
  rfl

theorem readAltered_notNull (column : String) :
    readAltered (" ALTER COLUMN ".toList ++
      ((Sql.identifier column).toList ++ " SET NOT NULL;".toList)) =
        some (.setNotNull, [column]) := by
  have hread := Sql.readName_closed " SET NOT NULL;" rfl [] column
  rw [List.append_nil] at hread
  have hdefault : skip " SET DEFAULT ".toList " SET NOT NULL;".toList = none := rfl
  have hnotNull : skip " SET NOT NULL;".toList " SET NOT NULL;".toList = some [] := rfl
  unfold readAltered
  simp only [skip_append, hread, hdefault, hnotNull, Option.bind_eq_bind, Option.bind_some,
    Option.map_none, Option.map_some]
  rfl

theorem readChecked_condition (name column : String) (valid : Routine) :
    readChecked (" ADD CONSTRAINT ".toList ++ ((Sql.identifier name).toList ++
      (" CHECK (".toList ++ ((validTenantCondition column
        (valid.callWith (.expression (Sql.identifier column)))).toList ++ ");".toList)))) =
          some (.addConstraint, [column, column]) := by
  have hcondition : (validTenantCondition column
      (valid.callWith (.expression (Sql.identifier column)))).toList ++ ");".toList =
        (Sql.identifier column).toList ++ (" IS NULL OR ".toList ++ (valid.name.render.toList ++
          ("(".toList ++ ((Sql.identifier column).toList ++ "));".toList)))) := by
    simp [validTenantCondition, Routine.callWith, Routine.call, Argument.render, Sql.commaList]
  have hlisted := Sql.readName_closed "));" rfl [] column
  rw [List.append_nil] at hlisted
  unfold readChecked
  simp only [hcondition, skip_append, Sql.readName_closed " CHECK (" rfl,
    Sql.readName_closed " IS NULL OR " rfl, Sql.readQualified_closed "(" rfl, hlisted,
    Option.bind_eq_bind, Option.bind_some, Option.pure_def]
  rfl

/-- The condition of a foreign key opens with a bracket and not with a column. -/
theorem readChecked_sameTenant (name : String) (columns : List String) (owned : String)
    (rest : List Char) :
    readChecked (" ADD CONSTRAINT ".toList ++ ((Sql.identifier name).toList ++
      (" CHECK (".toList ++ ((sameTenantCondition columns owned).toList ++ rest)))) = none := by
  obtain ⟨tail, hcondition⟩ :
      ∃ tail, (sameTenantCondition columns owned).toList ++ rest = '(' :: tail := by
    simp [sameTenantCondition]
  have hnone : readName ('(' :: tail) = none := rfl
  unfold readChecked
  simp only [hcondition, skip_append, Sql.readName_closed " CHECK (" rfl, hnone,
    Option.bind_eq_bind, Option.bind_some, Option.bind_none]

theorem readTableSchema_closed (t : Table) (rest : List Char) :
    readTableSchema ((Routine.tableSchema t).toList ++ ("))".toList ++ rest)) =
      some ("))".toList ++ rest) := by
  unfold readTableSchema
  cases hschema : t.schema with
  | some schema =>
    simp only [Routine.tableSchema, hschema, Sql.readLiteral_closed "))" rfl]
  | none =>
    have htext : (Routine.tableSchema t).toList = ("(SELECT relnamespace::regnamespace::text " ++
        "FROM pg_catalog.pg_class WHERE oid = ").toList ++
          ((Sql.literal t.render).toList ++ "::regclass)".toList) := by
      simp [Routine.tableSchema, hschema]
    have hnone : readLiteral ((Routine.tableSchema t).toList ++ ("))".toList ++ rest)) = none := by
      rw [htext]
      rfl
    rw [hnone, htext]
    simp only [List.append_assoc, skip_append, Sql.readLiteral_closed "::regclass)" rfl,
      Option.bind_eq_bind, Option.bind_some]

theorem readClause_authority (opens : String) (authority : Routine) (column : String)
    (command : Command) (clause : Clause) (t : Table) (rest : List Char) :
    readClause opens (opens.toList ++ ((authority.callHasAuthority
      (.expression (Sql.identifier column)) command clause t).toList ++ (")".toList ++ rest))) =
        some (column, rest) := by
  have hcall : (authority.callHasAuthority (.expression (Sql.identifier column)) command clause
      t).toList ++ (")".toList ++ rest) = authority.name.render.toList ++ ("(".toList ++
        ((Sql.identifier column).toList ++ (", ".toList ++
          ((Sql.literal command.word).toList ++ (", ".toList ++
            ((Sql.literal clause.word).toList ++ (", ".toList ++
              ((Sql.literal t.name).toList ++ (", ".toList ++
                ((Routine.tableSchema t).toList ++ ("))".toList ++ rest))))))))))) := by
    simp [Routine.callHasAuthority, Routine.call, Argument.render, Sql.commaList,
      String.intercalate_cons_cons]
  unfold readClause
  simp only [hcall, skip_append, Sql.readQualified_closed "(" rfl, Sql.readName_closed ", " rfl,
    Sql.readLiteral_closed ", " rfl, readTableSchema_closed, Option.bind_eq_bind,
    Option.bind_some, Option.pure_def]

/-- Everyone is read as a name like any other. -/
theorem exists_readName_grantee (grantee : Option String) (rest : List Char) : ∃ name,
    readName (((grantee.map Sql.identifier).getD everyone).toList ++
      ("\nUSING (".toList ++ rest)) = some (name, "\nUSING (".toList ++ rest) := by
  cases grantee with
  | some grantee => exact ⟨grantee, Sql.readName_closed "\nUSING (" rfl rest grantee⟩
  | none =>
    have hend : Sql.EndsName ("\nUSING (".toList ++ rest) :=
      Sql.endsName_cons (by decide) (by decide) _
    have hword : ∀ c ∈ "UBLIC".toList, Sql.extendsWord c = true := List.all_eq_true.mp rfl
    have hspan := Sql.span_word hword hend
    have htoken : Sql.wordToken ('P' :: "UBLIC".toList) = .identifier "public" := by
      decide +kernel
    refine ⟨"public", ?_⟩
    show readName ('P' :: ("UBLIC".toList ++ ("\nUSING (".toList ++ rest))) = _
    rw [readName, if_neg (by decide), if_pos (by decide), hspan.1, hspan.2, htoken]

namespace TableChange

open Sql (Template)

/-- A script that alters a table is read on from what is done to the table. -/
theorem readColumns_alter (t : Table) (done : TableChange) (opens : String) {rest : Template}
    (h : done.createTemplate t = alter t (.fixed opens :: rest))
    (hcloses : Sql.closes opens = true) :
    readColumns (done.change t).create.toList =
      let action := opens.toList ++ (rest.render.toList ++ (done.verbatim?.getD ";").toList)
      (readAdded action <|> readAltered action <|> readChecked action).map
        fun (kind, columns) => (kind, t, columns) := by
  have hscript : (done.change t).create.toList = "ALTER TABLE ".toList ++ (t.render.toList ++
      (opens.toList ++ (rest.render.toList ++ (done.verbatim?.getD ";").toList))) := by
    rw [create_eq, h]
    simp only [alter, Template.render, Sql.Part.render_fixed, Sql.Part.render_qualified,
      String.toList_append, List.append_assoc]
  rw [hscript, readColumns, skip_append]
  simp only [Sql.readQualified_closed opens hcloses _ t, Option.bind_eq_bind, Option.bind_some]
  rw [Option.map_eq_bind]
  rfl

theorem readColumns_addColumn (t : Table) (column type : String) :
    readColumns (t.addColumn column type).create.toList = some (.addColumn, t, [column]) := by
  show readColumns ((addColumn column type).change t).create.toList = _
  rw [readColumns_alter t (addColumn column type) " ADD COLUMN " rfl rfl]
  simp only [Template.render, Sql.Part.render_fixed, Sql.Part.render_name, String.toList_append,
    List.append_assoc, readAdded_column]
  rfl

theorem readColumns_setDefault (t : Table) (column expression : String) :
    readColumns (t.setDefault column expression).create.toList =
      some (.setDefault, t, [column]) := by
  show readColumns ((setDefault column expression).change t).create.toList = _
  rw [readColumns_alter t (setDefault column expression) " ALTER COLUMN " rfl rfl]
  simp only [Template.render, Sql.Part.render_fixed, Sql.Part.render_name, String.toList_append,
    List.append_assoc, readAltered_default]
  rfl

theorem readColumns_setNotNull (t : Table) (column : String) :
    readColumns (t.setNotNull column).create.toList = some (.setNotNull, t, [column]) := by
  show readColumns ((setNotNull column).change t).create.toList = _
  have hends : " SET NOT NULL".toList ++ ";".toList = " SET NOT NULL;".toList := by decide
  rw [readColumns_alter t (setNotNull column) " ALTER COLUMN " rfl rfl]
  simp only [Template.render, Sql.Part.render_fixed, Sql.Part.render_name, String.toList_append,
    List.append_assoc, String.toList_empty, List.nil_append, verbatim?, Option.getD_none, hends,
    readAltered_notNull]
  rfl

theorem readColumns_blacklist (t : Table) (name column : String) (valid : Routine) :
    readColumns (t.addConstraint name (validTenantCondition column
      (valid.callWith (.expression (Sql.identifier column))))).create.toList =
        some (.addConstraint, t, [column, column]) := by
  show readColumns ((addConstraint name _).change t).create.toList = _
  rw [readColumns_alter t (addConstraint name _) " ADD CONSTRAINT " rfl rfl]
  simp only [Template.render, Sql.Part.render_fixed, Sql.Part.render_name, String.toList_append,
    List.append_assoc, String.toList_empty, List.nil_append, verbatim?, Option.getD_some,
    readChecked_condition]
  rfl

theorem readColumns_sameTenant (t : Table) (name : String) (columns : List String)
    (owned : String) :
    readColumns (t.addConstraint name (sameTenantCondition columns owned)).create.toList =
      none := by
  show readColumns ((addConstraint name _).change t).create.toList = _
  rw [readColumns_alter t (addConstraint name _) " ADD CONSTRAINT " rfl rfl]
  simp only [Template.render, Sql.Part.render_fixed, Sql.Part.render_name, String.toList_append,
    List.append_assoc, String.toList_empty, List.nil_append, verbatim?, Option.getD_some,
    readChecked_sameTenant]
  rfl

theorem readColumns_enable (t : Table) : readColumns t.enableRowSecurity.create.toList = none :=
  readColumns_alter t enableRowSecurity " ENABLE ROW LEVEL SECURITY" rfl rfl

theorem readColumns_force (t : Table) : readColumns t.forceRowSecurity.create.toList = none :=
  readColumns_alter t forceRowSecurity " FORCE ROW LEVEL SECURITY" rfl rfl

theorem readColumns_createPolicy (t : Table) (name column : String) (grantee : Option String)
    (authority : Routine) :
    readColumns (t.createPolicy name column grantee .all authority).create.toList =
      some (.createPolicy, t, [column, column]) := by
  have hscript : (t.createPolicy name column grantee .all authority).create.toList =
      "CREATE POLICY ".toList ++ ((Sql.identifier name).toList ++ (" ON ".toList ++
        (t.render.toList ++ ("\nFOR ALL\nTO ".toList ++
          (((grantee.map Sql.identifier).getD everyone).toList ++
            ("\nUSING (".toList ++ ((authority.callHasAuthority
                (.expression (Sql.identifier column)) .all .filter t).toList ++ (")".toList ++
              ("\nWITH CHECK (".toList ++ ((authority.callHasAuthority
                (.expression (Sql.identifier column)) .all .admission t).toList ++
                  (")".toList ++ ";".toList))))))))))) := by
    simp [Table.createPolicy, Table.policyClauses, Command.readsRows, Command.writesRows,
      Command.word, String.intercalate_cons_cons]
  obtain ⟨reader, hgrantee⟩ := exists_readName_grantee grantee
    ((authority.callHasAuthority (.expression (Sql.identifier column)) .all .filter t).toList ++
      (")".toList ++ ("\nWITH CHECK (".toList ++ ((authority.callHasAuthority
        (.expression (Sql.identifier column)) .all .admission t).toList ++
          (")".toList ++ ";".toList)))))
  have hpolicy : readPolicy (t.createPolicy name column grantee .all authority).create.toList =
      some (t, [column, column]) := by
    unfold readPolicy
    simp only [hscript, skip_append, Sql.readName_closed " ON " rfl,
      Sql.readQualified_closed "\nFOR ALL\nTO " rfl, hgrantee, readClause_authority,
      Option.bind_eq_bind, Option.bind_some, Option.pure_def]
    rfl
  have hnone : skip "ALTER TABLE ".toList
      (t.createPolicy name column grantee .all authority).create.toList = none := by
    rw [hscript]
    rfl
  rw [readColumns, hnone, hpolicy]
  rfl

end TableChange

theorem Routine.readColumns_eq_none (routine : Routine) :
    readColumns routine.change.create.toList = none := by
  show readColumns routine.create.toList = none
  rw [create_eq_append, String.toList_append]
  rfl

/-! ## What a request has named -/

namespace Request

/-- What the change for a purpose does to the tenant column of which table, and the columns that it
names, if it names any. -/
def named? (r : Request) : Purpose → Option (TableChange.Kind × Table × List String)
  | .addColumn t => some (.addColumn, t, [r.tenantColumn t])
  | .createdDefault t | .existingDefault t => some (.setDefault, t, [r.tenantColumn t])
  | .notNull t => some (.setNotNull, t, [r.tenantColumn t])
  | .policy t => some (.createPolicy, t, [r.tenantColumn t, r.tenantColumn t])
  | .blacklist t => some (.addConstraint, t, [r.tenantColumn t, r.tenantColumn t])
  | _ => none

/-- Whatever a generated statement names is the tenant column of its table. -/
theorem eq_tenantColumn_of_named? {r : Request} {p : Purpose} {kind : TableChange.Kind}
    {t : Table} {columns : List String} (h : r.named? p = some (kind, t, columns)) :
    columns ≠ [] ∧ ∀ column ∈ columns, column = r.tenantColumn t := by
  cases p <;> cases h <;> simp

/-- By its script the change for a purpose names the tenant column, and no other. -/
theorem readColumns_changeFor? {r : Request} {p : Purpose} {change : Change}
    (hcustom : ∀ position made, p ≠ .custom position made) (h : r.changeFor? p = some change) :
    readColumns change.create.toList = r.named? p := by
  cases p with
  | custom position made => exact absurd rfl (hcustom position made)
  | routine role =>
    obtain ⟨routine, -, rfl⟩ := Option.map_eq_some_iff.mp h
    exact routine.readColumns_eq_none
  | addColumn t =>
    cases h
    exact TableChange.readColumns_addColumn t _ _
  | createdDefault t =>
    cases h
    exact TableChange.readColumns_setDefault t _ _
  | notNull t =>
    cases h
    exact TableChange.readColumns_setNotNull t _
  | enable t =>
    cases h
    exact TableChange.readColumns_enable t
  | force t =>
    cases h
    exact TableChange.readColumns_force t
  | policy t =>
    obtain ⟨policy, -, rfl⟩ := Option.map_eq_some_iff.mp h
    exact TableChange.readColumns_createPolicy t _ _ _ _
  | sameTenant key =>
    obtain ⟨constraint, -, hmade⟩ := Option.bind_eq_some_iff.mp h
    obtain ⟨o, arguments, -, rfl⟩ := of_sameTenantChange?_eq_some hmade
    exact TableChange.readColumns_sameTenant key.main _ _ _
  | blacklist t =>
    obtain ⟨valid, -, hmade⟩ := Option.bind_eq_some_iff.mp h
    obtain ⟨name, -, rfl⟩ := Option.map_eq_some_iff.mp hmade
    exact TableChange.readColumns_blacklist t _ _ _
  | existingDefault t =>
    cases h
    exact TableChange.readColumns_setDefault t _ _

end Request

end Tenancy
