import Tenancy.Proofs.Complete

/-!
# Defaults of tenant columns

Two stages far apart give tenant columns their defaults: one where it creates the column, the other
after all constraints. A table gets one default or none, whichever of the two sets it is in
(`Stage.runAll_defaults`). A change counts as a default when its script reads as one, whatever it
was added for.
-/

namespace Tenancy

open Sql (Template)

/-! ## Reading a default -/

/-- What follows the text, if that is what comes first. -/
def skip : List Char → List Char → Option (List Char)
  | [], rest => some rest
  | c :: text, d :: rest => if c = d then skip text rest else none
  | _ :: _, [] => none

@[simp]
theorem skip_append (text rest : List Char) : skip text (text ++ rest) = some rest := by
  induction text with
  | nil => rfl
  | cons c text ih => simpa [skip] using ih

/-- Reads a script that makes something the default of a column: the table, the column, and the
default with what ends the script. -/
def readSetDefault (script : List Char) : Option (Table × String × List Char) := do
  let (t, rest) ← Sql.readQualified (← skip "ALTER TABLE ".toList script)
  let (column, rest) ← Sql.readName (← skip " ALTER COLUMN ".toList rest)
  return (t, column, ← skip " SET DEFAULT ".toList rest)

namespace Change

/-- By its script the change makes something the default of a column of the table. -/
def SetsDefault (c : Change) (t : Table) : Prop :=
  ∃ column sql, readSetDefault c.create.toList = some (t, column, sql)

end Change

theorem endsName_of_space {text : List Char} (h : text.head? = some ' ') : Sql.EndsName text := by
  intro c hc
  obtain rfl : ' ' = c := Option.some.inj (h.symm.trans hc)
  decide

namespace TableChange

/-- A script is its template, with the caller's SQL or the semicolon after it. -/
theorem create_eq (t : Table) (done : TableChange) :
    (done.change t).create = (done.createTemplate t).render ++ done.verbatim?.getD ";" := by
  cases hverbatim : done.verbatim? with
  | none => exact create_eq_script t done hverbatim
  | some sql => exact create_eq_append t done hverbatim

/-- A script that alters a table is read on from what is done to the table. -/
theorem readSetDefault_alter (t : Table) {action : Template} {sql : String}
    (h : (action.render ++ sql).toList.head? = some ' ') :
    readSetDefault ((alter t action).render ++ sql).toList = do
      let (column, rest) ←
        Sql.readName (← skip " ALTER COLUMN ".toList (action.render ++ sql).toList)
      return (t, column, ← skip " SET DEFAULT ".toList rest) := by
  have hscript : ((alter t action).render ++ sql).toList =
      "ALTER TABLE ".toList ++ (t.render.toList ++ (action.render ++ sql).toList) := by
    simp only [alter, Template.render, Sql.Part.render_fixed, Sql.Part.render_qualified,
      String.toList_append, List.append_assoc]
  have hread := Sql.readQualified_render t (endsName_of_space h) (by rw [h]; decide)
  unfold readSetDefault
  rw [hscript, skip_append, Option.bind_eq_bind, Option.bind_some, hread]
  rfl

/-- No default is read where a table is altered otherwise than in a column. -/
theorem readSetDefault_eq_none (t : Table) {action : Template} {sql : String}
    (h : (action.render ++ sql).toList.head? = some ' ')
    (hskip : skip " ALTER COLUMN ".toList (action.render ++ sql).toList = none) :
    readSetDefault ((alter t action).render ++ sql).toList = none := by
  rw [readSetDefault_alter t h, hskip]
  rfl

/-- A script that alters a column is read on from what is done to the column. -/
theorem readSetDefault_alterColumn (t : Table) (column : String) {action : String} {sql : String}
    (h : (action ++ sql).toList.head? = some ' ') :
    readSetDefault
        ((alter t [.fixed " ALTER COLUMN ", .name column, .fixed action]).render ++ sql).toList =
      (skip " SET DEFAULT ".toList (action ++ sql).toList).map fun sql => (t, column, sql) := by
  have hscript : ((Template.render [.fixed " ALTER COLUMN ", .name column, .fixed action]) ++
      sql).toList = " ALTER COLUMN ".toList ++
        ((Sql.identifier column).toList ++ (action ++ sql).toList) := by
    simp only [Template.render, Sql.Part.render_fixed, Sql.Part.render_name,
      String.toList_append, List.append_assoc, String.toList_empty, List.nil_append]
  have hread := Sql.readName_identifier column (endsName_of_space h)
  rw [readSetDefault_alter t (by rw [hscript]; rfl), hscript, skip_append, Option.bind_eq_bind,
    Option.bind_some, hread, Option.map_eq_bind]
  rfl

/-- Of the changes to a table, those that set a default read as such, and no others. -/
theorem readSetDefault_create (t : Table) (done : TableChange) :
    readSetDefault (done.change t).create.toList =
      match done with
      | setDefault column expression => some (t, column, (expression ++ ";").toList)
      | _ => none := by
  rw [create_eq]
  cases done with
  | setDefault column expression =>
    show readSetDefault ((alter t _).render ++ (expression ++ ";")).toList = _
    rw [readSetDefault_alterColumn t column (by rw [String.toList_append]; rfl),
      String.toList_append, skip_append]
    rfl
  | setNotNull column =>
    show readSetDefault ((alter t _).render ++ ";").toList = _
    rw [readSetDefault_alterColumn t column rfl]
    rfl
  | addColumn column type =>
    apply readSetDefault_eq_none t <;>
      simp only [Template.render, Sql.Part.render_fixed, String.toList_append] <;> rfl
  | enableRowSecurity => exact readSetDefault_eq_none t rfl rfl
  | forceRowSecurity => exact readSetDefault_eq_none t rfl rfl
  | createPolicy name tenantColumn grantee command authority =>
    simp only [createTemplate, List.cons_append, Template.render,
      Sql.Part.render_fixed, String.toList_append, List.append_assoc]
    rfl
  | addConstraint name condition =>
    apply readSetDefault_eq_none t <;>
      simp only [Template.render, Sql.Part.render_fixed, String.toList_append] <;> rfl

end TableChange

/-- Nor does the definition of a routine. -/
theorem Routine.readSetDefault_eq_none (routine : Routine) :
    readSetDefault routine.change.create.toList = none := by
  show readSetDefault routine.create.toList = none
  rw [create_eq_append, String.toList_append]
  rfl

/-- The query that looks for a default ends with the default as a text. -/
theorem TableChange.exists_setDefault_query (t : Table) (column expression : String) :
    ∃ query tokens, (t.setDefault column expression).checks = [query] ∧
      Sql.tokens? query = some (tokens ++ [.text expression, .symbol ';']) := by
  have hsplit : (setDefault column expression).checkTemplate t =
      columnQuery t column [.fixed " AND column_default = "] ++ [.literal expression] := rfl
  have hread := Template.readsAs_script (isSound_checkTemplate t (setDefault column expression))
  refine ⟨_, (columnQuery t column [.fixed " AND column_default = "]).tokens,
    checks_eq_script t (setDefault column expression), ?_⟩
  rw [hread.1, hsplit]
  simp [Template.tokens, Sql.Part.tokens, Sql.Slot.tokens]

/-! ## Which changes are defaults -/

namespace Change

/-- A constraint on some table. -/
def IsConstraint (c : Change) : Prop := ∃ name, c.defines = some { kind := .constraint, name }

theorem Does.setsDefault_iff {c : Change} {kind : TableChange.Kind} {t u : Table}
    (h : c.Does kind u) : c.SetsDefault t ↔ kind = .setDefault ∧ u = t := by
  obtain ⟨done, rfl, rfl⟩ := h
  unfold SetsDefault
  rw [done.readSetDefault_create u]
  cases done with
  | setDefault column expression => simp [TableChange.kind]
  | _ => simp [TableChange.kind]

theorem Does.isConstraint {c : Change} {kind : TableChange.Kind} {t : Table} (h : c.Does kind t)
    (hconstraint : c.IsConstraint) : kind = .addConstraint := by
  obtain ⟨done, rfl, rfl⟩ := h
  obtain ⟨name, hname⟩ := hconstraint
  cases done with
  | addConstraint name condition => rfl
  | _ => cases hname

end Change

namespace Request

variable {r : Request} {p : Purpose} {change : Change}

/-- What does nothing to a table defines a routine, as there are no changes of the caller's own. -/
theorem exists_routine_of_does?_eq_none (hcustom : r.custom = []) (hwants : r.Wants p)
    (h : r.changeFor? p = some change) (hnone : p.does? = none) :
    ∃ routine : Routine, change = routine.change := by
  cases p with
  | custom position change => simp [Wants, customAt, hcustom] at hwants
  | routine role =>
    obtain ⟨routine, -, rfl⟩ := Option.map_eq_some_iff.mp h
    exact ⟨routine, rfl⟩
  | _ => cases hnone

/-- What goes with a purpose that is wanted stands at one position. -/
theorem exists_position (hcustom : r.custom = []) (hwants : r.Wants p) {P : Nat → Prop}
    (hP : ∀ i, P i ↔ r.plan[i]? = some p) : ∃ j, r.plan[j]? = some p ∧ ∀ i, P i ↔ i = j := by
  obtain ⟨j, hj⟩ := exists_plan_of_wants hcustom hwants
  refine ⟨j, hj, fun i => (hP i).trans ⟨fun hi => plan_unique hcustom hi hj, ?_⟩⟩
  rintro rfl
  exact hj

/-- Going by the scripts, the defaults are the changes that were added as such. -/
theorem setsDefault_iff (hcustom : r.custom = []) (hwants : r.Wants p)
    (h : r.changeFor? p = some change) (t : Table) :
    change.SetsDefault t ↔ p.does? = some (.setDefault, t) := by
  cases hfound : p.does? with
  | none =>
    obtain ⟨routine, rfl⟩ := exists_routine_of_does?_eq_none hcustom hwants h hfound
    simp [Change.SetsDefault, routine.readSetDefault_eq_none]
  | some found =>
    obtain ⟨kind, u⟩ := found
    rw [(does_of_changeFor? h hfound).setsDefault_iff]
    simp

theorem does?_of_isConstraint (hcustom : r.custom = []) (hwants : r.Wants p)
    (h : r.changeFor? p = some change) (hconstraint : change.IsConstraint) :
    ∃ t, p.does? = some (.addConstraint, t) := by
  cases hfound : p.does? with
  | none =>
    obtain ⟨routine, rfl⟩ := exists_routine_of_does?_eq_none hcustom hwants h hfound
    obtain ⟨name, hname⟩ := hconstraint
    cases hname
  | some found =>
    obtain ⟨kind, t⟩ := found
    rw [(does_of_changeFor? h hfound).isConstraint hconstraint]
    exact ⟨t, rfl⟩

end Request

/-! ## Where the defaults stand -/

/-- What the default chain leaves of the default of a table's tenant column. -/
structure DefaultSet (r : Request) (c : Context) (t : Table) : Prop where
  reader : c.handles.currentTenant = some r.currentTenant
  /-- The routine that reads the current tenant is defined under the text of its call. -/
  defined : ∃ change ∈ c.changes, ∃ rest,
    change.create = "CREATE OR REPLACE FUNCTION " ++ (r.currentTenant.callCurrentTenant ++ rest)
  once : OnceIff
    (t ∉ r.skippedDefaults ∧
      (t ∈ r.createdColumns ∨ r.defaultEverywhere = true ∧ t ∈ r.policies))
    (c.At (·.SetsDefault t))
  /-- The default of the tenant column is a call of this routine. -/
  expression : ∀ change ∈ c.changes, change.SetsDefault t →
    readSetDefault change.create.toList =
      some (t, r.tenantColumn t, (r.currentTenant.callCurrentTenant ++ ";").toList)
  /-- The query that looks for the default ends with the text of this call. -/
  check : ∀ change ∈ c.changes, change.SetsDefault t → ∃ query tokens,
    change.checks = [query] ∧ Sql.tokens? query =
      some (tokens ++ [.text r.currentTenant.callCurrentTenant, .symbol ';'])
  /-- With a column that is created, the default comes between the column and its switch. -/
  created : t ∈ r.createdColumns → ∃ j k,
    (∀ i, c.At (·.Does .addColumn t) i ↔ i = j) ∧ (∀ i, c.At (·.Does .setNotNull t) i ↔ i = k) ∧
      ∀ i, c.At (·.SetsDefault t) i → j < i ∧ i < k
  /-- On a column that exists already it comes after all constraints. -/
  existing : t ∉ r.createdColumns → Before (c.At (·.IsConstraint)) (c.At (·.SetsDefault t))

namespace Stage

section

variable {r : Request} {context : Context} (hcustom : r.custom = [])
  (hrun : runAll r {} defaultChain = .ok context)

include hcustom hrun

theorem setsDefault_at_iff (t : Table) (i : Nat) :
    context.At (·.SetsDefault t) i ↔ r.plan[i]? = some (r.purposeFor t .setDefault) := by
  rw [← does_at_iff hcustom hrun .setDefault (by decide)]
  rw [at_iff hrun fun hwants hmade => Request.setsDefault_iff hcustom hwants hmade t,
    at_iff hrun fun hwants hmade => Request.does_iff hcustom hwants hmade .setDefault t]

/-- A default is the one that the request asks for. -/
theorem eq_defaultChange {t : Table} {change : Change} (hchange : change ∈ context.changes)
    (h : change.SetsDefault t) : change = r.defaultChange r.currentTenant t := by
  obtain ⟨i, hi⟩ := List.mem_iff_getElem?.mp hchange
  have hplan := (setsDefault_at_iff hcustom hrun t i).mp ⟨change, hi, h⟩
  obtain ⟨made, hmade, hfor⟩ := exists_change hrun hplan
  obtain rfl : change = made := Option.some.inj (hi.symm.trans hmade)
  by_cases hcreated : t ∈ r.createdColumns
  · simpa [Request.purposeFor, hcreated, Request.changeFor?, eq_comm] using hfor
  · simpa [Request.purposeFor, hcreated, Request.changeFor?, eq_comm] using hfor

/-- The routine that reads the current tenant is defined by a script with the text of its call. -/
theorem exists_reader_change : ∃ change ∈ context.changes, ∃ rest,
    change.create =
      "CREATE OR REPLACE FUNCTION " ++ (r.currentTenant.callCurrentTenant ++ rest) := by
  obtain ⟨change, hchange, hmade⟩ := exists_change hrun (Request.plan_zero hcustom)
  obtain rfl : r.currentTenant.change = change := Option.some.inj hmade
  -- the routine has no parameters, so its signature is a call without arguments
  have hcall : r.currentTenant.signature = r.currentTenant.callCurrentTenant := by
    unfold Request.currentTenant Routine.currentTenant
    cases r.tenantType <;> rfl
  have hcreate := r.currentTenant.create_eq_append
  rw [hcall] at hcreate
  exact ⟨_, List.mem_of_getElem? hchange, _, hcreate⟩

theorem setsDefault_between {t : Table} (hcreated : t ∈ r.createdColumns) : ∃ j k,
    (∀ i, context.At (·.Does .addColumn t) i ↔ i = j) ∧
      (∀ i, context.At (·.Does .setNotNull t) i ↔ i = k) ∧
      ∀ i, context.At (·.SetsDefault t) i → j < i ∧ i < k := by
  have hpurpose : r.purposeFor t .setDefault = .createdDefault t := if_pos hcreated
  obtain ⟨j, hj, hadded⟩ := Request.exists_position hcustom (p := .addColumn t) hcreated
    (does_at_iff hcustom hrun .addColumn (by decide) t)
  obtain ⟨k, hk, hnotNull⟩ := Request.exists_position hcustom (p := .notNull t) hcreated
    (does_at_iff hcustom hrun .setNotNull (by decide) t)
  have horder := Purpose.pairwise_ofTable t
  simp only [Purpose.ofTable, List.pairwise_cons, List.forall_mem_cons] at horder
  have hplan := r.pairwise_defaultChain hcustom
  refine ⟨j, k, hadded, hnotNull, fun i hat => ?_⟩
  have hi : r.plan[i]? = some (.createdDefault t) := by
    rw [← hpurpose]
    exact (setsDefault_at_iff hcustom hrun t i).mp hat
  exact ⟨Purpose.index_lt_of_chainOrder hplan hj hi horder.1.1,
    Purpose.index_lt_of_chainOrder hplan hi hk horder.2.1.1⟩

theorem constraint_before_setsDefault {t : Table} (hcreated : t ∉ r.createdColumns) :
    Before (context.At (·.IsConstraint)) (context.At (·.SetsDefault t)) := by
  have hpurpose : r.purposeFor t .setDefault = .existingDefault t := if_neg hcreated
  rintro i j ⟨change, hchange, hconstraint⟩ hat
  obtain ⟨p, hp, hwants, hmade⟩ := exists_purpose hrun hchange
  obtain ⟨u, hdoes⟩ := Request.does?_of_isConstraint hcustom hwants hmade hconstraint
  have hj : r.plan[j]? = some (.existingDefault t) := by
    rw [← hpurpose]
    exact (setsDefault_at_iff hcustom hrun t j).mp hat
  refine Purpose.index_lt_of_chainOrder (r.pairwise_defaultChain hcustom) hp hj ?_
  cases p with
  | sameTenant key =>
    exact Purpose.chainOrder_of_stage .sameTenant .columnDefault rfl rfl (by decide)
  | blacklist v =>
    exact Purpose.chainOrder_of_stage .blacklist .columnDefault rfl rfl (by decide)
  | _ => cases hdoes

end

/-- For a request without changes of the caller's own, a table gets one default at most. It gets
one exactly when it is not to be skipped and either its column is created or all tables with a
policy are to have one. The default is a call of the routine that reads the current tenant, its
check looks for the same text, and it stands where the column is ready for it. -/
theorem runAll_defaults {r : Request} {context : Context} (hcustom : r.custom = [])
    (hrun : runAll r {} defaultChain = .ok context) (t : Table) : DefaultSet r context t := by
  refine {
    reader := ?_
    defined := exists_reader_change hcustom hrun
    once := ?_
    expression := fun change hchange hset => ?_
    check := fun change hchange hset => ?_
    created := setsDefault_between hcustom hrun
    existing := constraint_before_setsDefault hcustom hrun }
  · obtain ⟨-, rfl⟩ := eq_of_runAll_eq_ok hrun
    simp [Request.handlesAfter, defaultChain]
  · have honce := Request.onceIff_of_plan hcustom (setsDefault_at_iff hcustom hrun t)
    rw [Request.wants_setDefault_iff] at honce
    simpa only [and_comm] using honce
  · rw [eq_defaultChange hcustom hrun hchange hset]
    exact TableChange.readSetDefault_create t (.setDefault _ _)
  · rw [eq_defaultChange hcustom hrun hchange hset]
    exact TableChange.exists_setDefault_query t _ _

end Stage

/-- The tables of `guardedItems`, all of which are to have defaults. -/
def Builder.defaultedItems : Builder := Builder.guardedItems.setAll [.defaultEverywhere true]

namespace Stage

/-- One of the tables gets its default with the column, and the other after the constraints. -/
theorem runAll_defaults_defaultedItems : Builder.defaultedItems.request.custom = [] ∧
    ∃ context, runAll Builder.defaultedItems.request {} defaultChain = .ok context ∧
      DefaultSet Builder.defaultedItems.request context { name := "items" } ∧
      DefaultSet Builder.defaultedItems.request context { name := "orders" } := by
  have hcustom : Builder.defaultedItems.request.custom = [] := rfl
  have hreach : Builder.defaultedItems.Reachable := (Builder.reachable_items.setAll _).setAll _
  obtain ⟨context, hrun⟩ := hreach.exists_run (by decide +kernel)
  exact ⟨hcustom, context, hrun, runAll_defaults hcustom hrun _, runAll_defaults hcustom hrun _⟩

end Stage

end Tenancy
