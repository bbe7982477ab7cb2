import Tenancy.Proofs.RoutineBody
import Tenancy.Proofs.Sql.Decoding
import Tenancy.Proofs.TableChange

/-!
# What a change is about

The script that undoes a change to a table says which table it is about and what is done to it, so
a change is of one kind and about one table, whatever names and values it is given
(`Change.Does.unique`).
-/

namespace Tenancy

open Sql (Token Template)

/-! ## Kinds of changes to tables -/

inductive TableChange.Kind where
  | addColumn
  | setDefault
  | setNotNull
  | enableRowSecurity
  | forceRowSecurity
  | createPolicy
  | addConstraint
deriving DecidableEq, Repr, Inhabited

def TableChange.kind : TableChange → Kind
  | addColumn _ _ => .addColumn
  | setDefault _ _ => .setDefault
  | setNotNull _ => .setNotNull
  | enableRowSecurity => .enableRowSecurity
  | forceRowSecurity => .forceRowSecurity
  | createPolicy _ _ _ _ _ => .createPolicy
  | addConstraint _ _ => .addConstraint

/-- The change does something of the kind to the table. -/
def Change.Does (c : Change) (kind : TableChange.Kind) (t : Table) : Prop :=
  ∃ done : TableChange, done.kind = kind ∧ c = done.change t

/-! ## Reading the script that undoes a change -/

/-- Reads a table and gives what follows it. -/
def readTable : List Token → Option (Table × List Token)
  | .identifier schema :: .symbol '.' :: .identifier name :: rest =>
    some ({ schema := some schema, name }, rest)
  | .identifier name :: rest => some ({ name }, rest)
  | _ => none

/-- What a table is altered back from. -/
def undoneKind : List Token → Option TableChange.Kind
  | [.identifier "drop", .keyword "COLUMN", _] => some .addColumn
  | [.identifier "alter", .keyword "COLUMN", _, .identifier "drop", .keyword "DEFAULT"] =>
    some .setDefault
  | [.identifier "alter", .keyword "COLUMN", _, .identifier "drop", .keyword "NOT",
      .keyword "NULL"] => some .setNotNull
  | .identifier "disable" :: _ => some .enableRowSecurity
  | .identifier "no" :: _ => some .forceRowSecurity
  | .identifier "drop" :: .keyword "CONSTRAINT" :: _ => some .addConstraint
  | _ => none

/-- The kind of the change that a script undoes, and the table it is about. -/
def undone : List Token → Option (TableChange.Kind × Table)
  | .identifier "alter" :: .keyword "TABLE" :: rest => do
    let (t, action) ← readTable rest
    return (← undoneKind action, t)
  | .identifier "drop" :: .identifier "policy" :: .identifier "if" :: .identifier "exists" ::
      _ :: .keyword "ON" :: rest => do
    let (t, _) ← readTable rest
    return (.createPolicy, t)
  | _ => none

namespace TableChange

theorem undone_dropTemplate (t : Table) (c : TableChange) :
    undone (c.dropTemplate t).tokens = some (c.kind, t) := by
  obtain ⟨schema, name⟩ := t
  cases c <;> cases schema <;> rfl

/-- The script that undoes a change reads as its template. -/
theorem tokens?_drop (t : Table) (c : TableChange) :
    Sql.tokens? (c.change t).drop = some ((c.dropTemplate t).tokens ++ [.symbol ';']) := by
  rw [drop_eq_script]
  exact (Template.readsAs_script (isSound_dropTemplate t c)).1

/-- A change to a table defines no routine. -/
theorem defines_ne_function (t : Table) (c : TableChange) (name : String) :
    (c.change t).defines ≠ some { kind := .function, name } := by
  cases c <;> exact fun h => by cases h

end TableChange

namespace Change

/-- A change does one thing to one table. -/
theorem Does.unique {c : Change} {kind kind' : TableChange.Kind} {t t' : Table}
    (h : c.Does kind t) (h' : c.Does kind' t') : kind = kind' ∧ t = t' := by
  obtain ⟨done, rfl, rfl⟩ := h
  obtain ⟨done', rfl, heq⟩ := h'
  have hread := TableChange.tokens?_drop t done
  rw [heq, TableChange.tokens?_drop t' done'] at hread
  have htokens : (done'.dropTemplate t').tokens = (done.dropTemplate t).tokens := by
    simpa using hread
  have hundone := TableChange.undone_dropTemplate t done
  rw [← htokens, TableChange.undone_dropTemplate t' done'] at hundone
  simpa [eq_comm] using hundone

end Change

/-! ## Constraints -/

namespace Sql

/-- A written name opens with a mark or with a character of a lower-case word. -/
theorem head?_identifier (name : String) :
    ∃ c, (identifier name).toList.head? = some c ∧ (c = '"' ∨ opensWord c = true) := by
  unfold identifier
  by_cases hquoting : requiresQuoting name = true
  · rw [if_pos hquoting]
    exact ⟨'"', by simp [quotedIdentifier], .inl rfl⟩
  · obtain ⟨⟨c, text, hname, hopens, -⟩, -⟩ :=
      bare_of_not_requiresQuoting (by simpa using hquoting)
    rw [if_neg hquoting]
    exact ⟨c, by simp [hname], .inr hopens⟩

/-- So does a qualified name. -/
theorem head?_render (q : QualifiedName) :
    ∃ c, q.render.toList.head? = some c ∧ (c = '"' ∨ opensWord c = true) := by
  obtain ⟨schema, name⟩ := q
  cases schema with
  | none => exact head?_identifier name
  | some schema =>
    obtain ⟨c, hhead, hc⟩ := head?_identifier schema
    refine ⟨c, ?_, hc⟩
    simp [QualifiedName.render, List.head?_append, hhead]

end Sql

namespace Change

/-- The change keeps the tenants of a blacklist out of the table. -/
def IsBlacklist (c : Change) (t : Table) : Prop :=
  ∃ name column valid, c = t.addConstraint name (validTenantCondition column valid)

/-- The change keeps some foreign key inside the tenant. -/
def IsSameTenant (c : Change) : Prop :=
  ∃ (t : Table) (name : String) (columns : List String) (owned : String),
    c = t.addConstraint name (sameTenantCondition columns owned)

/-- A constraint has one table and one condition. -/
theorem addConstraint_inj {t t' : Table} {name name' condition condition' : String}
    (h : t.addConstraint name condition = t'.addConstraint name' condition') :
    t = t' ∧ condition = condition' := by
  have hdoes : (t.addConstraint name condition).Does .addConstraint t :=
    ⟨.addConstraint name condition, rfl, rfl⟩
  have hdoes' : (t.addConstraint name condition).Does .addConstraint t' :=
    ⟨.addConstraint name' condition', rfl, h⟩
  obtain rfl := (hdoes.unique hdoes').2
  have hdefines : some (DefinedName.mk .constraint name) = some (.mk .constraint name') :=
    congrArg Change.defines h
  obtain rfl : name = name' := congrArg DefinedName.name (Option.some.inj hdefines)
  refine ⟨rfl, ?_⟩
  -- the condition stands after the same text in both scripts
  have hcreate : (t.addConstraint name condition).create =
      (t.addConstraint name condition').create := congrArg Change.create h
  have hafter (condition : String) : (t.addConstraint name condition).create =
      ((TableChange.addConstraint name "").createTemplate t).render ++ (condition ++ ");") :=
    TableChange.create_eq_append t (.addConstraint name condition) rfl
  rw [hafter, hafter, String.append_right_inj, String.append_left_inj] at hcreate
  exact hcreate

/-- The two conditions open differently: one with the name of a column, the other with a
parenthesis. -/
theorem validTenantCondition_ne (column valid : String) (columns : List String) (owned : String) :
    validTenantCondition column valid ≠ sameTenantCondition columns owned := by
  intro h
  obtain ⟨c, hhead, hc⟩ := Sql.head?_identifier column
  have hopens := congrArg (fun text => text.toList.head?) h
  have hc' : c = '(' := by
    simpa [validTenantCondition, sameTenantCondition, List.head?_append, hhead] using hopens
  subst hc'
  exact absurd hc (by decide)

theorem IsBlacklist.does {c : Change} {t : Table} (h : c.IsBlacklist t) :
    c.Does .addConstraint t := by
  obtain ⟨name, column, valid, rfl⟩ := h
  exact ⟨.addConstraint _ _, rfl, rfl⟩

theorem IsBlacklist.not_isSameTenant {c : Change} {t : Table} (h : c.IsBlacklist t) :
    ¬ c.IsSameTenant := by
  rintro ⟨t', name', columns, owned, heq⟩
  obtain ⟨name, column, valid, rfl⟩ := h
  exact validTenantCondition_ne _ _ _ _ (addConstraint_inj heq).2

end Change

/-! ## Routines -/

namespace Routine

theorem drop_eq_append (f : Routine) :
    f.drop = "DROP FUNCTION IF EXISTS " ++ (f.signature ++ ";") := by
  unfold drop
  rw [← String.toList_inj]
  simp

theorem create_eq_append (f : Routine) :
    f.create = "CREATE OR REPLACE FUNCTION " ++ (f.signature ++ (" RETURNS " ++ (f.returns ++
      (" AS $$\n" ++ (f.body ++ ("\n$$" ++ f.afterBody)))))) := by
  unfold create afterBody
  rw [← String.toList_inj]
  simp

/-- The script that takes a routine away tells where the signature ends in the script that defines
it, so routines with the same change have the same text after their signatures. -/
theorem exists_tails_of_change {f g : Routine} (h : f.change = g.change) :
    ∃ a b, f.returns ++ (" AS $$\n" ++ (f.body ++ a)) =
      g.returns ++ (" AS $$\n" ++ (g.body ++ b)) := by
  have hdrop : f.drop = g.drop := congrArg Change.drop h
  rw [drop_eq_append, drop_eq_append, String.append_right_inj, String.append_left_inj] at hdrop
  have hcreate : f.create = g.create := congrArg Change.create h
  rw [create_eq_append, create_eq_append, hdrop, String.append_right_inj, String.append_right_inj,
    String.append_right_inj] at hcreate
  exact ⟨_, _, hcreate⟩

/-- If they return the same type as well, the text is the same from their bodies on. -/
theorem exists_body_tails_of_change {f g : Routine} (h : f.change = g.change)
    (hreturns : f.returns = g.returns) : ∃ a b, f.body ++ a = g.body ++ b := by
  obtain ⟨a, b, htails⟩ := exists_tails_of_change h
  rw [hreturns, String.append_right_inj, String.append_right_inj] at htails
  exact ⟨a, b, htails⟩

end Routine

namespace Ownership

/-- The text before the table in the body of an ownership routine. -/
def bodyStart : String := "SELECT EXISTS (\n\tSELECT 1 FROM "

theorem exists_body_ofTable (name : String) (t : Table) (column : String)
    (primaryKey : Std.ExtTreeMap String String) (current : Routine) :
    ∃ rest, (ofTable name t column primaryKey current).routine.body =
      bodyStart ++ (t.render ++ (" rt" ++ rest)) := by
  refine ⟨" WHERE " ++ " AND ".intercalate (conditions primaryKey.keys column current) ++ "\n)", ?_⟩
  unfold ofTable bodyStart
  rw [← String.toList_inj]
  simp

end Ownership

namespace Change

/-- The change defines an ownership routine of the table. -/
def IsOwnership (c : Change) (t : Table) : Prop :=
  ∃ name column primaryKey current,
    c = (Ownership.ofTable name t column primaryKey current).routine.change

/-- An ownership routine belongs to one table. -/
theorem IsOwnership.unique {c : Change} {t t' : Table} (h : c.IsOwnership t)
    (h' : c.IsOwnership t') : t = t' := by
  obtain ⟨name, column, primaryKey, current, rfl⟩ := h
  obtain ⟨name', column', primaryKey', current', heq⟩ := h'
  obtain ⟨a, b, htails⟩ := Routine.exists_body_tails_of_change heq rfl
  obtain ⟨rest, hbody⟩ := Ownership.exists_body_ofTable name t column primaryKey current
  obtain ⟨rest', hbody'⟩ := Ownership.exists_body_ofTable name' t' column' primaryKey' current'
  rw [hbody, hbody'] at htails
  simp only [String.append_assoc, String.append_right_inj] at htails
  have hspace : " rt".toList = [' ', 'r', 't'] := rfl
  have htables := congrArg String.toList htails
  simp only [String.toList_append, hspace, List.cons_append] at htables
  have hend (text : List Char) : Sql.EndsName (' ' :: text) :=
    Sql.endsName_cons (by decide) (by decide) text
  have hdot (text : List Char) : (' ' :: text).head? ≠ some '.' := by simp
  exact (Sql.render_append_inj (hend _) (hdot _) (hend _) (hdot _) htables).1

/-- A routine whose query asks for something else than whether a record exists is no ownership
routine. -/
theorem not_isOwnership_of_body {f : Routine} {c : Char} (t : Table) (query : String)
    (hreturns : f.returns = "BOOLEAN") (hbody : f.body = "SELECT " ++ query)
    (hhead : query.toList.head? = some c) (hc : c ≠ 'E') : ¬ f.change.IsOwnership t := by
  rintro ⟨name, column, primaryKey, current, heq⟩
  obtain ⟨a, b, htails⟩ := Routine.exists_body_tails_of_change heq hreturns
  obtain ⟨rest, hrest⟩ := Ownership.exists_body_ofTable name t column primaryKey current
  have hstart : Ownership.bodyStart = "SELECT " ++ "EXISTS (\n\tSELECT 1 FROM " := by decide
  rw [hbody, hrest, hstart] at htails
  simp only [String.append_assoc, String.append_right_inj] at htails
  have hheads := congrArg (fun text => text.toList.head?) htails
  simp only [String.toList_append, List.head?_append, hhead, Option.some_or] at hheads
  exact hc (Option.some.inj hheads)

theorem not_isOwnership_assignTenant (t : Table) (name : QualifiedName) (setting type : String) :
    ¬ (Routine.assignTenant name setting type).change.IsOwnership t := by
  rintro ⟨name', column, primaryKey, current, heq⟩
  obtain ⟨a, b, htails⟩ := Routine.exists_tails_of_change heq
  have hheads := congrArg (fun text => text.toList.head?) htails
  simp [Routine.assignTenant, Ownership.ofTable] at hheads

theorem not_isOwnership_isCurrentTenant (t : Table) (name : QualifiedName) (type : String)
    (current : Routine) : ¬ (Routine.isCurrentTenant name type current).change.IsOwnership t :=
  not_isOwnership_of_body (c := '$') t ("$1 = " ++ current.callCurrentTenant) rfl rfl (by simp)
    (by decide)

theorem not_isOwnership_hasAuthority (t : Table) (name : QualifiedName) (type : String)
    (equals : Routine) : ¬ (Routine.hasAuthority name type equals).change.IsOwnership t := by
  obtain ⟨c, hhead, hc⟩ := Sql.head?_render equals.name
  refine not_isOwnership_of_body (c := c) t _ rfl rfl ?_ ?_
  · simp [Routine.callWith, Routine.call, List.head?_append, hhead]
  · rintro rfl
    exact absurd hc (by decide)

theorem not_isOwnership_isValidTenant (t : Table) (name : QualifiedName) (type : String)
    (blacklist : List String) :
    ¬ (Routine.isValidTenant name type blacklist).change.IsOwnership t := by
  refine not_isOwnership_of_body (c := '$') t
    s!"$1 <> ALL (ARRAY[{Sql.commaList (blacklist.map Sql.literal)}]::{type}[])" rfl ?_ (by simp)
    (by decide)
  unfold Routine.isValidTenant
  rw [← String.toList_inj]
  simp

end Change

end Tenancy
