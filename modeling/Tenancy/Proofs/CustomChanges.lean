import Tenancy.Proofs.Interleaving
import Tenancy.Proofs.Needs

/-!
# The caller's own changes

Changes of the caller's own go where the caller puts them and have no part in anything else. A
stage that adds them leaves the routines at hand as they are, so a run fails, or goes on, as it
would without such stages (`Stage.map_handles_runAll`), and they stand among the changes of the
other stages without moving these (`Interleaved`).
-/

namespace Tenancy

/-! ## Stages for the caller's own changes -/

namespace Stage

/-- The place whose changes the stage adds, if it is for changes of the caller's own. -/
def position? : Stage → Option Position
  | custom position => some position
  | _ => none

theorem eq_custom_of_position? {s : Stage} {position : Position}
    (h : s.position? = some position) : s = custom position := by
  cases s <;> cases h
  rfl

/-- The stages that are not for changes of the caller's own. -/
def generated (stages : List Stage) : List Stage := stages.filter (·.position?.isNone)

theorem generated_cons_custom (position : Position) (rest : List Stage) :
    generated (custom position :: rest) = generated rest := rfl

theorem generated_cons {s : Stage} (h : s.position? = none) (rest : List Stage) :
    generated (s :: rest) = s :: generated rest := by
  simp [generated, h]

end Stage

namespace Request

/-- The same request without changes of the caller's own. -/
def withoutCustom (r : Request) : Request := { r with custom := [] }

/-- The caller's own changes that the stages add, in their order. -/
def customEntries (r : Request) (stages : List Stage) : List CustomChange :=
  (stages.filterMap (·.position?)).flatMap fun position =>
    r.custom.filter (·.position = position)

theorem customEntries_cons_custom (r : Request) (position : Position) (rest : List Stage) :
    r.customEntries (.custom position :: rest) =
      r.custom.filter (·.position = position) ++ r.customEntries rest := rfl

theorem customEntries_cons {s : Stage} (h : s.position? = none) (r : Request)
    (rest : List Stage) : r.customEntries (s :: rest) = r.customEntries rest := by
  simp [customEntries, h]

end Request

namespace Stage

/-! ## The routines at hand in a run -/

/-- What a stage does to the routines at hand. -/
def pass (r : Request) (h : Handles) (s : Stage) : Except InternalFault Handles :=
  (·.handles) <$> s.produce r h

theorem pass_custom (r : Request) (h : Handles) (position : Position) :
    pass r h (custom position) = .ok h := rfl

theorem pass_withoutCustom (r : Request) : pass r.withoutCustom = pass r := by
  funext h s
  cases s <;> rfl

/-- A run takes the routines from stage to stage, whatever the changes are. -/
theorem map_handles_runAll (r : Request) (c : Context) (stages : List Stage) :
    (·.handles) <$> runAll r c stages = stages.foldlM (pass r) c.handles := by
  induction stages generalizing c with
  | nil => rfl
  | cons s rest ih =>
    show _ <$> (run r c s >>= fun c => runAll r c rest) = pass r c.handles s >>= _
    unfold run pass
    cases s.produce r c.handles with
    | error fault => rfl
    | ok added => exact ih _

/-- Stages for the caller's own changes take the routines as they come. -/
theorem foldlM_pass_generated (r : Request) (h : Handles) (stages : List Stage) :
    (generated stages).foldlM (pass r) h = stages.foldlM (pass r) h := by
  induction stages generalizing h with
  | nil => rfl
  | cons s rest ih =>
    cases hs : s.position? with
    | some position =>
      obtain rfl := eq_custom_of_position? hs
      rw [generated_cons_custom, List.foldlM_cons, pass_custom]
      exact ih h
    | none =>
      rw [generated_cons hs, List.foldlM_cons, List.foldlM_cons]
      simp only [ih]

/-- So a run comes to the same routines, or the same fault, without the caller's own changes, and
without the stages for them. -/
theorem map_handles_eq (r : Request) (stages : List Stage) :
    (·.handles) <$> runAll r.withoutCustom {} stages = (·.handles) <$> runAll r {} stages ∧
      (·.handles) <$> runAll r {} (generated stages) = (·.handles) <$> runAll r {} stages := by
  simp only [map_handles_runAll, foldlM_pass_generated, pass_withoutCustom, and_self]

/-- Runs that come to the same routines fail or succeed together. -/
theorem runAll_cases_of_map_handles {r r' : Request} {stages stages' : List Stage}
    (h : (·.handles) <$> runAll r {} stages = (·.handles) <$> runAll r' {} stages') :
    (∃ fault, runAll r {} stages = .error fault ∧ runAll r' {} stages' = .error fault) ∨
      ∃ context context', runAll r {} stages = .ok context ∧
        runAll r' {} stages' = .ok context' ∧ context.handles = context'.handles := by
  cases hrun : runAll r {} stages with
  | error fault =>
    cases hrun' : runAll r' {} stages' with
    | error fault' =>
      rw [hrun, hrun'] at h
      cases h
      exact .inl ⟨fault, rfl, rfl⟩
    | ok context' =>
      rw [hrun, hrun'] at h
      cases h
  | ok context =>
    cases hrun' : runAll r' {} stages' with
    | error fault' =>
      rw [hrun, hrun'] at h
      cases h
    | ok context' =>
      rw [hrun, hrun'] at h
      exact .inr ⟨context, context', rfl, rfl, Except.ok.inj h⟩

/-! ## The changes of a run -/

/-- Among the changes of stages, those of the stages for the caller's own changes stand between the
others. -/
theorem interleaved_changesOf (r : Request) (stages : List Stage) :
    Interleaved ((generated stages).flatMap r.changesOf)
      ((r.customEntries stages).map (·.change)) (stages.flatMap r.changesOf) := by
  induction stages with
  | nil => exact .nil
  | cons s rest ih =>
    cases hs : s.position? with
    | some position =>
      obtain rfl := eq_custom_of_position? hs
      rw [generated_cons_custom, r.customEntries_cons_custom, List.map_append]
      exact (Interleaved.all_added (r.customAt position)).append ih
    | none =>
      rw [generated_cons hs, Request.customEntries_cons hs]
      exact (Interleaved.all_kept (r.changesOf s)).append ih

/-- An entry is added by the stages for its position and by no others. -/
theorem count_customEntries (r : Request) (stages : List Stage) (entry : CustomChange) :
    (r.customEntries stages).count entry =
      stages.count (.custom entry.position) * r.custom.count entry := by
  induction stages with
  | nil => simp [Request.customEntries]
  | cons s rest ih =>
    cases hs : s.position? with
    | some position =>
      obtain rfl := eq_custom_of_position? hs
      rw [r.customEntries_cons_custom, List.count_append, ih, List.count_cons, Nat.add_mul]
      by_cases hposition : entry.position = position
      · subst hposition
        rw [List.count_filter (by simp)]
        simp [Nat.add_comm]
      · have hother : (r.custom.filter (·.position = position)).count entry = 0 :=
          List.count_eq_zero.mpr fun hmem => hposition (by simpa using (List.mem_filter.mp hmem).2)
        simp [hother, Ne.symm hposition]
    | none =>
      have hother : s ≠ .custom entry.position := by
        rintro rfl
        cases hs
      rw [Request.customEntries_cons hs, List.count_cons_of_ne hother, ih]

/-- In the default chain the caller's own changes stand at the two ends, and what stands between
does not depend on them. -/
theorem flatMap_changesOf_defaultChain (r : Request) :
    defaultChain.flatMap r.changesOf =
      r.customAt .atBeginning ++ defaultChain.flatMap r.withoutCustom.changesOf ++
        r.customAt .atEnd := by
  obtain ⟨middle, hchain, hnone⟩ : ∃ middle : List Stage,
      defaultChain = custom .atBeginning :: (middle ++ [custom .atEnd]) ∧
        ∀ s ∈ middle, s.position? = none := ⟨generated defaultChain, rfl, by decide⟩
  have hmiddle : middle.flatMap r.withoutCustom.changesOf = middle.flatMap r.changesOf := by
    refine List.flatMap_congr fun s hs => ?_
    have hother := hnone s hs
    cases s with
    | custom position => cases hother
    | _ => rfl
  have hcustom (position : Position) : r.changesOf (custom position) = r.customAt position := rfl
  have hempty (position : Position) : r.withoutCustom.changesOf (custom position) = [] := rfl
  simp only [hchain, List.flatMap_cons, List.flatMap_append, List.flatMap_nil, List.append_nil,
    List.nil_append, List.append_assoc, hmiddle, hcustom, hempty]

/-! ## Runs with and without the caller's own changes -/

/-- With changes of the caller's own, the default chain fails as it would without them, or else has
those for the beginning and for the end around what it would have without them. More generally,
the changes of any stages that succeed are those that the stages would add without the ones for the
caller's own changes, and among these each of the caller's own, as often as there is a stage for
its very position. -/
theorem runAll_custom (r : Request) :
    runAll r {} defaultChain =
        (fun context : Context =>
          { context with
            changes := r.customAt .atBeginning ++ context.changes ++ r.customAt .atEnd }) <$>
          runAll r.withoutCustom {} defaultChain ∧
      ∀ (stages : List Stage) (context : Context), runAll r {} stages = .ok context →
        (∃ rest, runAll r {} (generated stages) = .ok rest ∧ rest.handles = context.handles ∧
          Interleaved rest.changes ((r.customEntries stages).map (·.change)) context.changes) ∧
        ∀ entry : CustomChange, (r.customEntries stages).count entry =
          stages.count (.custom entry.position) * r.custom.count entry := by
  refine ⟨?_, fun stages context hrun => ⟨?_, count_customEntries r stages⟩⟩
  · obtain ⟨fault, hrun, hrun'⟩ | ⟨rest, context, hrest, hrun, hsame⟩ :=
      runAll_cases_of_map_handles (map_handles_eq r defaultChain).1
    · rw [hrun, hrun']
      rfl
    · obtain ⟨-, rfl⟩ := eq_of_runAll_eq_ok hrun
      obtain ⟨-, rfl⟩ := eq_of_runAll_eq_ok hrest
      have hhandles : r.withoutCustom.handlesAfter defaultChain = r.handlesAfter defaultChain :=
        hsame
      rw [hrest, hrun, flatMap_changesOf_defaultChain, ← hhandles]
      rfl
  · obtain ⟨fault, -, hfails⟩ | ⟨rest, found, hrest, hfound, hsame⟩ :=
      runAll_cases_of_map_handles (map_handles_eq r stages).2
    · rw [hrun] at hfails
      cases hfails
    · obtain rfl : context = found := Except.ok.inj (hrun.symm.trans hfound)
      refine ⟨rest, hrest, hsame, ?_⟩
      obtain ⟨-, rfl⟩ := eq_of_runAll_eq_ok hrun
      obtain ⟨-, rfl⟩ := eq_of_runAll_eq_ok hrest
      exact interleaved_changesOf r stages

/-- Two changes, for a label and for the end. The stages for them go by one name. -/
def labelled : Request where
  custom := [
    { position := .custom "at_end", change := Change.ofScript "SELECT 2" },
    { position := .atEnd, change := Change.ofScript "SELECT 3" }]

theorem runAll_custom_labelled :
    (custom (.custom "at_end")).name = (custom .atEnd).name ∧
      ∃ context rest,
        runAll labelled {} [custom .atEnd, currentTenant, custom (.custom "at_end"), custom .atEnd] =
          .ok context ∧
        runAll labelled {} [currentTenant] = .ok rest ∧
        Interleaved rest.changes
          (["SELECT 3", "SELECT 2", "SELECT 3"].map Change.ofScript) context.changes := by
  refine ⟨by decide, ?_⟩
  have hmet : AllMet labelled [] [custom .atEnd, currentTenant, custom (.custom "at_end"),
      custom .atEnd] := ⟨trivial, trivial, trivial, trivial, trivial⟩
  obtain ⟨context, hrun⟩ := exists_runAll_eq_ok_iff.mpr hmet
  obtain ⟨⟨rest, hrest, -, hchanges⟩, -⟩ := (runAll_custom labelled).2 _ context hrun
  exact ⟨context, rest, hrun, hrest, hchanges⟩

end Stage

end Tenancy
