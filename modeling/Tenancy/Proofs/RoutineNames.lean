import Tenancy.Proofs.ColumnDefaults
import Tenancy.Proofs.DefinedBeforeUse

/-!
# Names of routines

A routine replaces another one that is defined under the same reference, and no server complains.
The references are read off the scripts here and compared with the names that the request has for
the routines: two of them are the same exactly when those names are. With the usual names they all
differ, since what a routine is called after its table is none of the other names, and so a
constraint can only reach the routine of the table that it refers to (`Stage.runAll_references`).
-/

namespace Tenancy

open Sql (Template)

/-! ## References in scripts -/

/-- The reference that a script defines a routine under, letter for letter as it stands in the
script. -/
def definedReference? (script : List Char) : Option String := do
  let text ← skip "CREATE OR REPLACE FUNCTION ".toList script
  let (_, rest) ← Sql.readQualified text
  return String.ofList (text.take (text.length - rest.length))

theorem Routine.definedReference?_create (f : Routine) :
    definedReference? f.change.create.toList = some f.name.render := by
  obtain ⟨rest, hcreate⟩ : ∃ rest, f.change.create.toList =
      "CREATE OR REPLACE FUNCTION ".toList ++ (f.name.render.toList ++ '(' :: rest) := by
    have hsignature : f.signature.toList =
        f.name.render.toList ++ '(' :: ((Sql.commaList f.parameters).toList ++ [')']) := by
      simp [signature]
    have happend := congrArg String.toList f.create_eq_append
    simp only [String.toList_append, hsignature, List.append_assoc, List.cons_append] at happend
    exact ⟨_, happend⟩
  have hopen : Sql.EndsName ('(' :: rest) := Sql.endsName_cons (by decide) (by decide) rest
  have hread := Sql.readQualified_render f.name hopen (by simp)
  unfold definedReference?
  rw [hcreate, skip_append, Option.bind_eq_bind, Option.bind_some, hread]
  simp

/-- What does something to a table defines no routine. -/
theorem TableChange.definedReference?_create (t : Table) (done : TableChange) :
    definedReference? (done.change t).create.toList = none := by
  rw [create_eq]
  cases done with
  | createPolicy name tenantColumn grantee command authority =>
    simp only [createTemplate, List.cons_append, Template.render, Sql.Part.render_fixed,
      String.toList_append, List.append_assoc]
    rfl
  | _ =>
    simp only [createTemplate, alter, Template.render, Sql.Part.render_fixed,
      String.toList_append, List.append_assoc]
    rfl

/-! ## Names that are asked for -/

/-- What an ownership routine is called after its table. -/
def namedAfter (table : String) : String := s!"is_{table}_belongs_to_current_tenant"

namespace Request

/-- The name that a request has for the routine in a part, and the schema that it puts it in. -/
def configured? (r : Request) : Role → Option QualifiedName
  | .currentTenant => some { schema := r.defaultSchema, name := r.currentTenantName }
  | .assignTenant => some { schema := r.defaultSchema, name := r.assignTenantName }
  | .isCurrentTenant => some { schema := r.defaultSchema, name := r.isCurrentTenantName }
  | .authority => some { schema := r.defaultSchema, name := r.authorityName }
  | .validTenant =>
    r.blacklist.map fun blacklist => { schema := r.defaultSchema, name := blacklist.routine }
  | .ownership t =>
    some { schema := t.schema, name := (r.ownershipNames[t]?).getD (namedAfter t.name) }

/-- The routines have the names that they have in a request that nobody has renamed them in. -/
structure UsualNames (r : Request) : Prop where
  currentTenant : r.currentTenantName = ({} : Request).currentTenantName
  assignTenant : r.assignTenantName = ({} : Request).assignTenantName
  isCurrentTenant : r.isCurrentTenantName = ({} : Request).isCurrentTenantName
  authority : r.authorityName = ({} : Request).authorityName
  validTenant : ∀ blacklist ∈ r.blacklist,
    blacklist.routine = (Blacklist.ofValues [] none none).routine
  ownership : ∀ t : Table, t ∉ r.ownershipNames

variable {r : Request}

/-- A routine that is asked for has the name that the request has for it. -/
theorem configured?_of_routine? {role : Role} {routine : Routine}
    (h : r.routine? role = some routine) : r.configured? role = some routine.name := by
  cases role with
  | currentTenant =>
    cases h
    unfold currentTenant Routine.currentTenant
    cases r.tenantType <;> rfl
  | validTenant =>
    obtain ⟨blacklist, hlist, rfl⟩ := Option.map_eq_some_iff.mp h
    simp [configured?, hlist, Routine.isValidTenant, routineName]
  | ownership t =>
    obtain ⟨o, ho, rfl⟩ := Option.map_eq_some_iff.mp h
    obtain ⟨-, columns, -, -, rfl⟩ := of_getElem?_ownershipMap ho
    rfl
  | _ =>
    cases h
    rfl

end Request

namespace Role

/-- What the routine in a part is called as long as it is not renamed. -/
def usualName : Role → String
  | currentTenant => "get_current_tenant_id"
  | assignTenant => "set_current_tenant_id"
  | isCurrentTenant => "is_id_equals_current_tenant_id"
  | authority => "tenant_has_authorities"
  | validTenant => "is_tenant_identifier_valid"
  | ownership t => namedAfter t.name

/-- What is called after a table begins like some of the other names and ends like others, but
like none of them at both ends. -/
theorem namedAfter_ne (table : String) {name : String}
    (h : name.toList.head? ≠ some 'i' ∨ name.toList.getLast? ≠ some 't') :
    namedAfter table ≠ name := by
  rintro rfl
  have htext : (namedAfter table).toList =
      "is_".toList ++ (table.toList ++ "_belongs_to_current_tenant".toList) := by
    simp [namedAfter]
  rcases h with hhead | hlast
  · exact hhead (by rw [htext]; rfl)
  · refine hlast ?_
    rw [htext, List.getLast?_append, List.getLast?_append]
    rfl

theorem namedAfter_injective : Function.Injective namedAfter := by
  intro table table' h
  have htext := congrArg String.toList h
  exact String.toList_inj.mp (by simpa [namedAfter] using htext)

/-- A name tells the part of the routine, but for the schema of the table in it. -/
theorem eq_of_usualName {role role' : Role} (h : role.usualName = role'.usualName)
    (hschema : ∀ t t' : Table, role = .ownership t → role' = .ownership t' →
      t.schema = t'.schema) : role = role' := by
  cases role with
  | ownership t =>
    cases role' with
    | ownership t' =>
      have hname : t.name = t'.name := namedAfter_injective h
      have hsame := hschema t t' rfl rfl
      cases t
      cases t'
      simp_all
    | _ => exact absurd h (namedAfter_ne t.name (by decide))
  | _ =>
    cases role' with
    | ownership t' => exact absurd h.symm (namedAfter_ne t'.name (by decide))
    | _ => first | rfl | exact absurd h (by decide)

end Role

namespace Request.UsualNames

variable {r : Request}

theorem eq_usualName (h : r.UsualNames) {role : Role} {name : QualifiedName}
    (hname : r.configured? role = some name) : name.name = role.usualName := by
  cases role with
  | currentTenant =>
    cases hname
    exact h.currentTenant
  | assignTenant =>
    cases hname
    exact h.assignTenant
  | isCurrentTenant =>
    cases hname
    exact h.isCurrentTenant
  | authority =>
    cases hname
    exact h.authority
  | validTenant =>
    obtain ⟨blacklist, hlist, rfl⟩ := Option.map_eq_some_iff.mp hname
    exact h.validTenant blacklist hlist
  | ownership t =>
    cases hname
    have hnone := h.ownership t
    simp [Role.usualName, hnone]

/-- With the usual names no two routines have the same one in the same schema. -/
theorem eq_of_configured? (h : r.UsualNames) {role role' : Role} {name : QualifiedName}
    (hname : r.configured? role = some name) (hname' : r.configured? role' = some name) :
    role = role' := by
  refine Role.eq_of_usualName ((h.eq_usualName hname).symm.trans (h.eq_usualName hname')) ?_
  rintro t t' rfl rfl
  cases hname
  exact (congrArg QualifiedName.schema (Option.some.inj hname')).symm

end Request.UsualNames

/-! ## Constraints of foreign keys -/

namespace Change

/-- The change keeps the foreign key inside the tenant by a call of the routine. -/
def Consults (c : Change) (key : ForeignKey) (routine : Routine) : Prop :=
  ∃ name arguments, c = key.main.addConstraint name
    (sameTenantCondition key.columns.toList (routine.call arguments))

/-- A constraint tells the name of the routine that it calls. -/
theorem Consults.name_unique {c : Change} {key : ForeignKey} {f g : Routine}
    (hf : c.Consults key f) (hg : c.Consults key g) : f.name = g.name := by
  obtain ⟨name, arguments, rfl⟩ := hf
  obtain ⟨name', arguments', heq⟩ := hg
  have hcondition := (addConstraint_inj heq).2
  have hcall : (f.call arguments).toList = (g.call arguments').toList := by
    have htext := congrArg String.toList hcondition
    simpa [sameTenantCondition] using htext
  have htext (h : Routine) (arguments : List String) : (h.call arguments).toList =
      h.name.render.toList ++ '(' :: ((Sql.commaList arguments).toList ++ [')']) := by
    simp [Routine.call]
  have hopen (rest : List Char) : Sql.EndsName ('(' :: rest) :=
    Sql.endsName_cons (by decide) (by decide) rest
  rw [htext f, htext g] at hcall
  exact (Sql.render_append_inj (hopen _) (by simp) (hopen _) (by simp) hcall).1

end Change

/-! ## References of a run -/

/-- The change at the position is to define the routine in the part, and by its script it defines
one under the reference. -/
def Context.Defines (c : Context) (r : Request) (i : Nat) (role : Role) (reference : String) :
    Prop :=
  r.plan[i]? = some (.routine role) ∧
    ∃ change, c.changes[i]? = some change ∧
      definedReference? change.create.toList = some reference

/-- What the references of a run are. -/
structure References (r : Request) (c : Context) : Prop where
  /-- What a script defines is a routine that is asked for, the caller's own changes aside. -/
  emitted : ∀ (i : Nat) (change : Change) (reference : String), c.changes[i]? = some change →
    definedReference? change.create.toList = some reference →
    (∃ position, r.plan[i]? = some (.custom position change)) ∨
      ∃ role, c.Defines r i role reference
  /-- A routine is defined under the name that the request has for it. -/
  named : ∀ (i : Nat) (role : Role), r.plan[i]? = some (.routine role) →
    ∃ name, r.configured? role = some name ∧ c.Defines r i role name.render
  /-- Two references are the same exactly when the names are. -/
  same_iff : ∀ (i j : Nat) (role role' : Role) (reference reference' : String),
    c.Defines r i role reference → c.Defines r j role' reference' →
    (reference = reference' ↔ r.configured? role = r.configured? role')
  /-- With the usual names no routine is defined over another one. -/
  distinct : r.UsualNames → ∀ (i j : Nat) (role role' : Role) (reference : String),
    c.Defines r i role reference → c.Defines r j role' reference → i = j
  /-- A constraint calls the routine of the table that it refers to, which has been defined. -/
  consulted : ∀ (i : Nat) (key : ForeignKey), r.plan[i]? = some (.sameTenant key) →
    ∃ change routine, c.changes[i]? = some change ∧ change.Consults key routine ∧
      ∃ j < i, c.Defines r j (.ownership key.foreign) routine.name.render
  /-- With the usual names nothing else is defined under the reference that it calls. -/
  consults : r.UsualNames → ∀ (i : Nat) (key : ForeignKey) (change : Change) (routine : Routine),
    r.plan[i]? = some (.sameTenant key) → c.changes[i]? = some change →
    change.Consults key routine → ∀ (j : Nat) (role : Role),
    c.Defines r j role routine.name.render → role = .ownership key.foreign

namespace Stage

section

variable {r : Request} {context : Context} (hrun : runAll r {} defaultChain = .ok context)

include hrun

theorem emitted_of_definedReference? {i : Nat} {change : Change} {reference : String}
    (hchange : context.changes[i]? = some change)
    (h : definedReference? change.create.toList = some reference) :
    (∃ position, r.plan[i]? = some (.custom position change)) ∨
      ∃ role, context.Defines r i role reference := by
  obtain ⟨p, hp, -, hmade⟩ := exists_purpose hrun hchange
  cases hdoes : p.does? with
  | some found =>
    -- what is done to a table defines nothing
    obtain ⟨kind, t⟩ := found
    obtain ⟨done, -, rfl⟩ := Request.does_of_changeFor? hmade hdoes
    rw [done.definedReference?_create t] at h
    cases h
  | none =>
    cases p with
    | custom position made =>
      cases hmade
      exact .inl ⟨position, hp⟩
    | routine role => exact .inr ⟨role, hp, change, hchange, h⟩
    | _ => cases hdoes

theorem exists_defines {i : Nat} {role : Role} (h : r.plan[i]? = some (.routine role)) :
    ∃ name, r.configured? role = some name ∧ context.Defines r i role name.render := by
  obtain ⟨change, hchange, hmade⟩ := exists_change hrun h
  obtain ⟨routine, hroutine, rfl⟩ := Option.map_eq_some_iff.mp hmade
  exact ⟨routine.name, Request.configured?_of_routine? hroutine, h, _, hchange,
    routine.definedReference?_create⟩

/-- The reference is the name that the request has for the routine, as it is written. -/
theorem exists_name_of_defines {i : Nat} {role : Role} {reference : String}
    (h : context.Defines r i role reference) :
    ∃ name, r.configured? role = some name ∧ reference = name.render := by
  obtain ⟨name, hname, -, change, hchange, hread⟩ := exists_defines hrun h.1
  obtain ⟨-, change', hchange', hread'⟩ := h
  obtain rfl : change = change' := Option.some.inj (hchange.symm.trans hchange')
  exact ⟨name, hname, Option.some.inj (hread'.symm.trans hread)⟩

theorem reference_eq_iff {i j : Nat} {role role' : Role} {reference reference' : String}
    (h : context.Defines r i role reference) (h' : context.Defines r j role' reference') :
    reference = reference' ↔ r.configured? role = r.configured? role' := by
  obtain ⟨name, hname, rfl⟩ := exists_name_of_defines hrun h
  obtain ⟨name', hname', rfl⟩ := exists_name_of_defines hrun h'
  rw [hname, hname', Option.some.injEq]
  exact Sql.render_injective.eq_iff

/-- With the usual names a reference tells the part of the routine. -/
theorem role_unique (husual : r.UsualNames) {i j : Nat} {role role' : Role} {reference : String}
    (h : context.Defines r i role reference) (h' : context.Defines r j role' reference) :
    role = role' := by
  obtain ⟨name, hname, -⟩ := exists_name_of_defines hrun h
  have hsame := (reference_eq_iff hrun h h').mp rfl
  exact husual.eq_of_configured? hname (hsame.symm.trans hname)

theorem defines_unique (husual : r.UsualNames) {i j : Nat} {role role' : Role}
    {reference : String} (h : context.Defines r i role reference)
    (h' : context.Defines r j role' reference) : i = j := by
  obtain rfl := role_unique hrun husual h h'
  exact index_unique (by decide) h.1 h'.1

theorem exists_consulted {i : Nat} {key : ForeignKey} (h : r.plan[i]? = some (.sameTenant key)) :
    ∃ change routine, context.changes[i]? = some change ∧ change.Consults key routine ∧
      ∃ j < i, context.Defines r j (.ownership key.foreign) routine.name.render := by
  obtain ⟨change, hchange, hmade⟩ := exists_change hrun h
  obtain ⟨constraint, -, hmade⟩ := Option.bind_eq_some_iff.mp hmade
  obtain ⟨o, arguments, ho, rfl⟩ := Request.of_sameTenantChange?_eq_some hmade
  obtain ⟨hmet, -⟩ := eq_of_runAll_eq_ok hrun
  obtain ⟨-, hnone | ⟨j, hj, hrole⟩⟩ := exists_earlier hmet h rfl
  · cases hnone
  · obtain ⟨name, hname, hdefines⟩ := exists_defines hrun hrole
    have hroutine : r.routine? (.ownership key.foreign) = some o.routine := by
      simp [Request.routine?, ho]
    obtain rfl : o.routine.name = name :=
      Option.some.inj ((Request.configured?_of_routine? hroutine).symm.trans hname)
    exact ⟨_, o.routine, hchange, ⟨constraint.name, arguments, rfl⟩, j, hj, hdefines⟩

end

/-- Whatever the request, the scripts define routines under the names that the request has for
them, and two have the same reference exactly when they have the same name and schema. With the
usual names all references differ, whatever the tables are, and a constraint reaches the routine
of the table that it refers to and no other. -/
theorem runAll_references {r : Request} {context : Context}
    (hrun : runAll r {} defaultChain = .ok context) : References r context where
  emitted _ _ _ := emitted_of_definedReference? hrun
  named _ _ := exists_defines hrun
  same_iff _ _ _ _ _ _ := reference_eq_iff hrun
  distinct husual _ _ _ _ _ := defines_unique hrun husual
  consulted _ _ := exists_consulted hrun
  consults husual i key change routine hplan hchange hconsults j role hdefines := by
    obtain ⟨change', called, hchange', hcalls, k, -, hforeign⟩ := exists_consulted hrun hplan
    obtain rfl : change = change' := Option.some.inj (hchange.symm.trans hchange')
    rw [hconsults.name_unique hcalls] at hdefines
    exact role_unique hrun husual hdefines hforeign

theorem runAll_references_defaultedItems : Builder.defaultedItems.request.UsualNames ∧
    ∃ context, runAll Builder.defaultedItems.request {} defaultChain = .ok context ∧
      References Builder.defaultedItems.request context := by
  have husual : Builder.defaultedItems.request.UsualNames := by
    refine ⟨rfl, rfl, rfl, rfl, ?_, fun t => ?_⟩
    · rintro blacklist hlist
      cases hlist
      rfl
    · have hnone : Builder.defaultedItems.request.ownershipNames = ∅ := rfl
      simp [hnone]
  have hreach : Builder.defaultedItems.Reachable := (Builder.reachable_items.setAll _).setAll _
  obtain ⟨context, hrun⟩ := hreach.exists_run (by decide +kernel)
  exact ⟨husual, context, hrun, runAll_references hrun⟩

end Stage

end Tenancy
