import Tenancy.Proofs.Sequence
import Tenancy.Proofs.Sql.Reader

/-!
# Routines are defined before they are called

However stages are put together, a change that calls a routine comes after the change that defines
it, and whatever routine is at hand has been defined. Changes are only ever added at the end, so a
run that is cut short keeps this, and undoing the changes from the last one on takes every caller
away before what it calls (`Stage.runAll_definedBeforeUse`).
-/

namespace Tenancy

/-! ## Texts inside texts -/

namespace Sql

/-- The text `piece` stands somewhere in `text`. -/
def Occurs (piece text : String) : Prop := piece.toList <:+: text.toList

theorem Occurs.refl (text : String) : Occurs text text := List.infix_rfl

variable {piece text : String}

theorem Occurs.append_left (h : Occurs piece text) (before : String) :
    Occurs piece (before ++ text) := by
  unfold Occurs
  rw [String.toList_append]
  exact h.trans (List.suffix_append _ _).isInfix

theorem Occurs.append_right (h : Occurs piece text) (after : String) :
    Occurs piece (text ++ after) := by
  unfold Occurs
  rw [String.toList_append]
  exact h.trans (List.prefix_append _ _).isInfix

/-- A list of texts holds what one of them holds. -/
theorem Occurs.intercalate (h : Occurs piece text) (separator : String) {items : List String}
    (hmem : text ∈ items) : Occurs piece (separator.intercalate items) := by
  induction items with
  | nil => cases hmem
  | cons item rest ih =>
    cases rest with
    | nil =>
      obtain rfl : text = item := by simpa using hmem
      simpa using h
    | cons next rest =>
      rw [String.intercalate_cons_cons]
      rcases List.mem_cons.mp hmem with rfl | hmem
      · exact (h.append_right _).append_right _
      · exact (ih hmem).append_left _

end Sql

/-! ## Calls in scripts -/

/-- The script that makes the change calls the routine. -/
def Change.Calls (c : Change) (callee : Routine) : Prop :=
  ∃ arguments, Sql.Occurs (callee.call arguments) c.create

open Sql (Occurs)

theorem occurs_create_of_body {piece : String} {r : Routine} (h : Occurs piece r.body) :
    Occurs piece r.change.create :=
  ((h.append_left _).append_right _).append_right _

theorem occurs_setDefault (t : Table) (column expression : String) :
    Occurs expression (t.setDefault column expression).create :=
  ((Occurs.refl expression).append_left _).append_right _

theorem occurs_addConstraint {piece condition : String} (h : Occurs piece condition) (t : Table)
    (name : String) : Occurs piece (t.addConstraint name condition).create :=
  (h.append_left _).append_right _

theorem occurs_createPolicy (t : Table) (name column : String) (grantee : Option String)
    (authority : Routine) :
    Occurs (authority.callHasAuthority (.expression (Sql.identifier column)) .all .filter t)
      (t.createPolicy name column grantee .all authority).create := by
  have hclause := ((Occurs.refl (authority.callHasAuthority
    (.expression (Sql.identifier column)) .all .filter t)).append_left "USING (").append_right ")"
  refine (hclause.intercalate "\n" ?_).append_right ";"
  refine List.mem_append_right _ ?_
  simp [Table.policyClauses, Command.readsRows]

theorem occurs_ofTable (name : String) (t : Table) (column : String)
    (primaryKey : Std.ExtTreeMap String String) (current : Routine) :
    Occurs current.callCurrentTenant
      (Ownership.ofTable name t column primaryKey current).routine.change.create := by
  have hcondition := (Occurs.refl current.callCurrentTenant).append_left
    ("rt." ++ Sql.identifier column ++ " = ")
  have hconditions := hcondition.intercalate " AND "
    (List.mem_append_right _ (List.mem_singleton.mpr rfl) :
      _ ∈ Ownership.conditions primaryKey.keys column current)
  exact occurs_create_of_body ((hconditions.append_left _).append_right _)

/-- The change for a purpose that calls a routine has the call in its script. -/
theorem Request.calls_of_changeFor? {r : Request} {p : Purpose} {change : Change} {role : Role}
    {routine : Routine} (hchange : r.changeFor? p = some change) (hcallee : p.callee = some role)
    (hroutine : r.routine? role = some routine) : change.Calls routine := by
  cases p with
  | routine part =>
    obtain ⟨caller, hcaller, rfl⟩ := Option.map_eq_some_iff.mp hchange
    cases part with
    | isCurrentTenant =>
      cases hcallee
      cases hroutine
      cases hcaller
      exact ⟨[], occurs_create_of_body ((Occurs.refl _).append_left _)⟩
    | authority =>
      cases hcallee
      cases hroutine
      cases hcaller
      exact ⟨_, occurs_create_of_body ((Occurs.refl _).append_left _)⟩
    | ownership t =>
      cases hcallee
      cases hroutine
      obtain ⟨o, ho, rfl⟩ := Option.map_eq_some_iff.mp hcaller
      obtain ⟨-, columns, -, -, rfl⟩ := of_getElem?_ownershipMap ho
      exact ⟨[], occurs_ofTable _ _ _ _ _⟩
    | _ => cases hcallee
  | createdDefault t =>
    cases hcallee
    cases hroutine
    cases hchange
    exact ⟨[], occurs_setDefault _ _ _⟩
  | existingDefault t =>
    cases hcallee
    cases hroutine
    cases hchange
    exact ⟨[], occurs_setDefault _ _ _⟩
  | policy t =>
    cases hcallee
    cases hroutine
    obtain ⟨policy, -, rfl⟩ := Option.map_eq_some_iff.mp hchange
    exact ⟨_, occurs_createPolicy _ _ _ _ _⟩
  | sameTenant key =>
    cases hcallee
    obtain ⟨constraint, -, hmade⟩ := Option.bind_eq_some_iff.mp hchange
    obtain ⟨o, arguments, ho, rfl⟩ := of_sameTenantChange?_eq_some hmade
    obtain rfl : o.routine = routine := by simpa [routine?, ho] using hroutine
    exact ⟨arguments, occurs_addConstraint (((Occurs.refl _).append_left _).append_right _) _ _⟩
  | blacklist t =>
    cases hcallee
    obtain ⟨valid, hvalid, hmade⟩ := Option.bind_eq_some_iff.mp hchange
    obtain ⟨name, -, rfl⟩ := Option.map_eq_some_iff.mp hmade
    obtain rfl : valid = routine := Option.some.inj (hvalid.symm.trans hroutine)
    exact ⟨_, occurs_addConstraint ((Occurs.refl _).append_left _) _ _⟩
  | _ => cases hcallee

/-! ## Order -/

namespace Stage

variable {r : Request} {done : List Stage}

/-- A routine that a stage calls is made by an earlier stage, or by the stage itself just
before. -/
theorem callee_of_mem_purposes {s : Stage} {p : Purpose} {role : Role} (hmet : s.Met r done)
    (hp : p ∈ r.purposes s) (hcallee : p.callee = some role) :
    r.Wants (.routine role) ∧
      (role.stage ∈ done ∨ s = .authority ∧ p = .routine .authority ∧ role = .isCurrentTenant) := by
  obtain ⟨rfl, hwants⟩ := Request.mem_purposes_iff.mp hp
  cases p with
  | routine part =>
    cases part with
    | isCurrentTenant =>
      cases hcallee
      exact ⟨rfl, .inl hmet⟩
    | authority =>
      cases hcallee
      exact ⟨rfl, .inr ⟨rfl, rfl, rfl⟩⟩
    | ownership t =>
      cases hcallee
      exact ⟨rfl, .inl hmet⟩
    | _ => cases hcallee
  | createdDefault t =>
    cases hcallee
    exact ⟨rfl, .inl (hmet (Std.ExtTreeSet.ne_empty_of_mem hwants.1))⟩
  | existingDefault t =>
    cases hcallee
    exact ⟨rfl, .inl (hmet hwants.2.1)⟩
  | policy t =>
    cases hcallee
    exact ⟨rfl, .inl (hmet (Std.ExtTreeMap.ne_empty_of_mem hwants))⟩
  | sameTenant key =>
    cases hcallee
    have hkey : key ∈ r.sameTenant := hwants
    have hentry : r.sameTenant[key]? = some r.sameTenant[key] := by simp [hkey]
    obtain ⟨hran, hsuits⟩ := hmet key _ hentry
    obtain ⟨o, -, ho, -⟩ := hsuits.call
    exact ⟨by simp [Request.Wants, Request.routine?, ho], .inl hran⟩
  | blacklist t =>
    cases hcallee
    have hlist : r.blacklist.isSome := hwants.2
    refine ⟨?_, .inl (hmet hlist)⟩
    simpa [Request.Wants, Request.routine?, Request.isValidTenant?] using hlist
  | _ => cases hcallee

/-- Going through the purposes of a run, a routine that is called has come up before, unless it
was there when the run began. -/
theorem exists_earlier {stages : List Stage} (hmet : AllMet r done stages) {i : Nat} {p : Purpose}
    {role : Role} (hp : (stages.flatMap r.purposes)[i]? = some p)
    (hcallee : p.callee = some role) :
    r.Wants (.routine role) ∧
      (role.stage ∈ done ∨
        ∃ j < i, (stages.flatMap r.purposes)[j]? = some (.routine role)) := by
  induction stages generalizing done i with
  | nil => cases hp
  | cons s rest ih =>
    obtain ⟨hs, hrest⟩ := hmet
    rw [List.flatMap_cons] at hp ⊢
    by_cases hi : i < (r.purposes s).length
    · -- the caller is of this stage
      rw [List.getElem?_append_left hi] at hp
      obtain ⟨hwants, hran | ⟨rfl, rfl, rfl⟩⟩ :=
        callee_of_mem_purposes hs (List.mem_of_getElem? hp) hcallee
      · exact ⟨hwants, .inl hran⟩
      · refine ⟨hwants, .inr ⟨0, ?_, rfl⟩⟩
        cases i with
        | zero => cases hp
        | succ i => exact Nat.succ_pos i
    · have hle : (r.purposes s).length ≤ i := Nat.le_of_not_lt hi
      rw [List.getElem?_append_right hle] at hp
      obtain ⟨hwants, hran | ⟨j, hj, hrole⟩⟩ := ih hrest hp
      · refine ⟨hwants, ?_⟩
        rcases List.mem_append.mp hran with hran | hran
        · exact .inl hran
        · -- the callee is of this stage, and the caller of a later one
          obtain rfl : role.stage = s := List.mem_singleton.mp hran
          obtain ⟨j, hj⟩ := List.mem_iff_getElem?.mp (Request.mem_purposes_of_wants hwants)
          have hlt : j < (r.purposes role.stage).length := (List.getElem?_eq_some_iff.mp hj).1
          refine .inr ⟨j, Nat.lt_of_lt_of_le hlt hle, ?_⟩
          rw [List.getElem?_append_left hlt]
          exact hj
      · refine ⟨hwants, .inr ⟨(r.purposes s).length + j, by omega, ?_⟩⟩
        rw [List.getElem?_append_right (Nat.le_add_right _ _), Nat.add_sub_cancel_left]
        exact hrole

/-- No stage defines a routine twice. -/
theorem pairwise_routine_purposes (s : Stage) :
    (r.purposes s).Pairwise fun p q => ∀ role, p = .routine role → q ≠ .routine role := by
  by_cases hcustom : ∃ position, s = .custom position
  · obtain ⟨position, rfl⟩ := hcustom
    show ((r.customAt position).map _).Pairwise _
    rw [List.pairwise_map]
    refine List.pairwise_of_forall fun change _ role hrole => ?_
    cases hrole
  · have horder := r.pairwise_purposes (s := s) fun position hs => absurd ⟨position, hs⟩ hcustom
    refine horder.imp fun h role hp hq => ?_
    rw [hp, hq] at h
    exact Purpose.order_irrefl _ h

/-- When no stage is repeated, each routine is defined once. -/
theorem index_unique {stages : List Stage} (hnodup : stages.Nodup) {i j : Nat} {role : Role}
    (hi : (stages.flatMap r.purposes)[i]? = some (.routine role))
    (hj : (stages.flatMap r.purposes)[j]? = some (.routine role)) : i = j := by
  have hpairwise : (stages.flatMap r.purposes).Pairwise
      fun p q => ∀ role, p = .routine role → q ≠ .routine role := by
    rw [List.pairwise_flatMap]
    refine ⟨fun s _ => pairwise_routine_purposes s, hnodup.imp fun hne p hp q hq role hrole => ?_⟩
    rintro rfl
    obtain rfl := hrole
    exact hne ((r.mem_purposes_iff.mp hp).1.symm.trans (r.mem_purposes_iff.mp hq).1)
  exact index_unique_of_pairwise hpairwise hi hj fun h => h role rfl rfl

/-! ## Runs -/

/-- A further stage adds to the changes and takes no routine away. -/
theorem run_extends {stages : List Stage} {s : Stage} {next : Context}
    (h : s.run r { changes := stages.flatMap r.changesOf, handles := r.handlesAfter stages } =
      .ok next) :
    stages.flatMap r.changesOf <+: next.changes ∧
      ∀ role routine, (r.handlesAfter stages).routine? role = some routine →
        next.handles.routine? role = some routine := by
  obtain ⟨added, hadded, hnext⟩ := exists_of_bind_eq_ok h
  cases hnext
  refine ⟨List.prefix_append _ _, fun role routine hroutine => ?_⟩
  have hmet := met_of_produce_eq_ok hadded
  rw [produce_eq_ok s hmet] at hadded
  cases hadded
  rw [r.routine?_handlesAfter] at hroutine ⊢
  by_cases hran : role.stage ∈ stages
  · rw [if_pos hran] at hroutine
    rw [if_pos (List.mem_append_left _ hran)]
    exact hroutine
  · rw [if_neg hran] at hroutine
    cases hroutine

end Stage

/-- What holds of the changes and the routines at hand after the stages have run. -/
structure DefinedBeforeUse (r : Request) (stages : List Stage) (context : Context) : Prop where
  /-- Every routine at hand has been defined. -/
  handles : ∀ role routine, context.handles.routine? role = some routine →
    routine.change ∈ context.changes
  /-- Whatever stage comes next, the changes stay where they are and the routines at hand. -/
  kept : ∀ (s : Stage) (next : Context), s.run r context = .ok next →
    context.changes <+: next.changes ∧
      ∀ role routine, context.handles.routine? role = some routine →
        next.handles.routine? role = some routine
  /-- There is one change for each purpose of the stages, in their order. -/
  purposes : context.changes.map some = (stages.flatMap r.purposes).map r.changeFor?
  /-- A change that is to call a routine does so, and the routine has been defined before it. -/
  calls : ∀ (i : Nat) (p : Purpose) (role : Role),
    (stages.flatMap r.purposes)[i]? = some p → p.callee = some role →
    ∃ change routine, context.changes[i]? = some change ∧ r.routine? role = some routine ∧
      change.Calls routine ∧
      ∃ j < i, (stages.flatMap r.purposes)[j]? = some (.routine role) ∧
        context.changes[j]? = some routine.change
  /-- When no stage is repeated, undoing the changes takes a caller away before what it calls. -/
  drops : stages.Nodup → ∀ (i j : Nat) (p : Purpose) (role : Role),
    (stages.flatMap r.purposes)[i]? = some p → p.callee = some role →
    (stages.flatMap r.purposes)[j]? = some (.routine role) →
    ∃ change routine k l, context.changes[i]? = some change ∧ r.routine? role = some routine ∧
      k + i + 1 = context.changes.length ∧ l + j + 1 = context.changes.length ∧ k < l ∧
      context.dropScripts[k]? = some change.drop ∧ context.dropScripts[l]? = some routine.drop

/-- Undoing goes through the changes from the last one on. -/
theorem Context.exists_dropScript {c : Context} {i : Nat} {change : Change}
    (h : c.changes[i]? = some change) :
    ∃ k, k + i + 1 = c.changes.length ∧ c.dropScripts[k]? = some change.drop := by
  have hi : i < c.changes.length := (List.getElem?_eq_some_iff.mp h).1
  have hk : c.changes.length - 1 - i + i + 1 = c.changes.length := by omega
  refine ⟨c.changes.length - 1 - i, hk, ?_⟩
  unfold dropScripts
  rw [List.getElem?_map, List.getElem?_reverse' hk, h]
  rfl

namespace Stage

/-- A run that succeeds, over whatever stages and for whatever request, defines every routine
before it is called. A run that fails has gone through the stages before the failing one, so the
same holds of all that it has done. -/
theorem runAll_definedBeforeUse {r : Request} {stages : List Stage} {context : Context}
    (h : runAll r {} stages = .ok context) : DefinedBeforeUse r stages context := by
  obtain ⟨hmet, rfl⟩ := eq_of_runAll_eq_ok h
  have hearlier {i : Nat} {p : Purpose} {role : Role}
      (hp : (stages.flatMap r.purposes)[i]? = some p) (hcallee : p.callee = some role) :
      ∃ j routine, j < i ∧ (stages.flatMap r.purposes)[j]? = some (.routine role) ∧
        r.routine? role = some routine := by
    obtain ⟨hwants, hnone | ⟨j, hj, hrole⟩⟩ := exists_earlier hmet hp hcallee
    · cases hnone
    · obtain ⟨routine, hroutine⟩ := Option.isSome_iff_exists.mp hwants
      exact ⟨j, routine, hj, hrole, hroutine⟩
  refine ⟨?_, fun s next hnext => run_extends hnext, (map_changeFor?_flatMap hmet).symm, ?_, ?_⟩
  · intro role routine hroutine
    rw [r.routine?_handlesAfter] at hroutine
    by_cases hran : role.stage ∈ stages
    · rw [if_pos hran] at hroutine
      have hwants : r.Wants (.routine role) := Option.isSome_iff_exists.mpr ⟨routine, hroutine⟩
      have hmem : Purpose.routine role ∈ stages.flatMap r.purposes :=
        List.mem_flatMap.mpr ⟨role.stage, hran, Request.mem_purposes_of_wants hwants⟩
      obtain ⟨i, hi⟩ := List.mem_iff_getElem?.mp hmem
      exact List.mem_of_getElem? (change_of_routine hmet hi hroutine)
    · rw [if_neg hran] at hroutine
      cases hroutine
  · intro i p role hp hcallee
    obtain ⟨change, hchange, hmade⟩ := exists_change_of_purpose hmet hp
    obtain ⟨j, routine, hj, hrole, hroutine⟩ := hearlier hp hcallee
    exact ⟨change, routine, hchange, hroutine, r.calls_of_changeFor? hmade hcallee hroutine,
      j, hj, hrole, change_of_routine hmet hrole hroutine⟩
  · intro hnodup i j p role hp hcallee hj
    obtain ⟨change, hchange, -⟩ := exists_change_of_purpose hmet hp
    obtain ⟨j', routine, hlt, hj', hroutine⟩ := hearlier hp hcallee
    -- the definition before the caller is the only one there is
    obtain rfl := index_unique hnodup hj hj'
    obtain ⟨k, hk, hdrop⟩ := Context.exists_dropScript
      (c := { changes := stages.flatMap r.changesOf, handles := r.handlesAfter stages }) hchange
    obtain ⟨l, hl, hdropped⟩ := Context.exists_dropScript
      (c := { changes := stages.flatMap r.changesOf, handles := r.handlesAfter stages })
      (change_of_routine hmet hj hroutine)
    exact ⟨change, routine, k, l, hchange, hroutine, hk, hl, by omega, hdrop, hdropped⟩

theorem runAll_definedBeforeUse_items : ∃ context,
    runAll Builder.items.request {} defaultChain = .ok context ∧
      DefinedBeforeUse Builder.items.request defaultChain context ∧ defaultChain.Nodup := by
  obtain ⟨context, hrun⟩ := Builder.reachable_items.exists_run (by decide +kernel)
  exact ⟨context, hrun, runAll_definedBeforeUse hrun, by decide⟩

end Stage

end Tenancy
