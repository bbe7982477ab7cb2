import Tenancy.Proofs.Needs

/-!
# Bounds on names

What the bounds on names add to a build, beside the same builder with the bounds left unused
(`Builder.build_bounds`). Bounds that fit no name are refused after the checks of the request and
before any stage. Otherwise a build fails as it would without the bounds, and where it would
succeed, the names of the changes alone decide. Every change with a name outside the bounds is
reported once, in the order of the changes.
-/

namespace Tenancy

/-! ## The bounds of a request -/

namespace Request

/-- Some length is within the bounds of the request, and the empty name is not. -/
def BoundsFit (r : Request) : Prop := 1 ≤ r.minNameLength ∧ r.minNameLength ≤ r.maxNameLength

instance (r : Request) : Decidable r.BoundsFit :=
  inferInstanceAs (Decidable (1 ≤ r.minNameLength ∧ r.minNameLength ≤ r.maxNameLength))

/-- The length of the name, in bytes, is within the bounds of the request. -/
def AdmitsName (r : Request) (name : String) : Prop :=
  r.minNameLength.toNat ≤ name.utf8ByteSize ∧ name.utf8ByteSize ≤ r.maxNameLength.toNat

end Request

namespace LengthBounds

variable {r : Request} {b : LengthBounds}

/-- Bounds that fit no name are a fault in the bounds, whichever limit is to blame. -/
theorem ofRequest_eq_error (h : ¬ r.BoundsFit) :
    ∃ fault, ofRequest r = .error fault ∧ fault.rule = .nameLengthBounds := by
  unfold ofRequest ofLimits
  by_cases hmin : 1 ≤ r.minNameLength
  · have hmax : ¬ r.minNameLength ≤ r.maxNameLength := fun hmax => h ⟨hmin, hmax⟩
    exact ⟨.minLengthAboveMax r.minNameLength r.maxNameLength, by simp [hmin, hmax], rfl⟩
  · exact ⟨.zeroMinLength, by simp [hmin], rfl⟩

theorem ofRequest_eq_ok (h : r.BoundsFit) :
    ∃ b, ofRequest r = .ok b ∧ b.min = r.minNameLength ∧ b.max = r.maxNameLength :=
  ⟨⟨r.minNameLength, r.maxNameLength, h.1, h.2⟩, by simp [ofRequest, ofLimits, h.1, h.2], rfl, rfl⟩

/-- A name misses the bounds on one side only, as no length is both above the greatest and below
the least. -/
theorem fault?_eq_some_iff {name : String} {fault : LengthFault} :
    b.fault? name = some fault ↔
      (b.max.toNat < name.utf8ByteSize ∧ fault = .tooLong name.utf8ByteSize b.max) ∨
        (name.utf8ByteSize < b.min.toNat ∧ fault = .tooShort name.utf8ByteSize b.min) := by
  have hle : b.min.toNat ≤ b.max.toNat := UInt64.le_iff_toNat_le.mp b.min_le_max
  unfold fault?
  by_cases hlong : b.max.toNat < name.utf8ByteSize
  · have hshort : ¬ name.utf8ByteSize < b.min.toNat := by omega
    simp [hlong, hshort, eq_comm]
  · by_cases hshort : name.utf8ByteSize < b.min.toNat <;> simp [hlong, hshort, eq_comm]

/-! ## The changes that are reported -/

/-- A violation is reported for a change that defines a name outside the bounds. -/
theorem mem_violations_iff {changes : List Change} {v : Violation} :
    v ∈ b.violations changes ↔
      ∃ change, changes[v.index]? = some change ∧ change.defines = some v.defined ∧
        b.fault? v.defined.name = some v.fault := by
  unfold violations
  rw [List.mem_filterMap]
  constructor
  · rintro ⟨⟨change, index⟩, hmem, hv⟩
    obtain ⟨defined, hdefined, hv⟩ := Option.bind_eq_some_iff.mp hv
    obtain ⟨fault, hfault, hv⟩ := Option.bind_eq_some_iff.mp hv
    cases hv
    exact ⟨change, by simpa using List.mk_mem_zipIdx_iff_getElem?.mp hmem, hdefined, hfault⟩
  · rintro ⟨change, hchange, hdefined, hfault⟩
    refine ⟨(change, v.index), List.mk_mem_zipIdx_iff_getElem?.mpr hchange, ?_⟩
    simp [hdefined, hfault]

/-- Violations are reported in the order of the changes, and none twice. -/
theorem pairwise_violations (b : LengthBounds) (changes : List Change) :
    (b.violations changes).Pairwise fun v w => v.index < w.index := by
  have hindices : changes.zipIdx.Pairwise fun a b => a.2 < b.2 := by
    rw [← List.pairwise_map (f := Prod.snd), List.zipIdx_map_snd]
    exact List.pairwise_lt_range'
  -- each violation has the index of the change that it is reported for
  refine hindices.filterMap _ fun a a' hlt v hv w hw => ?_
  obtain ⟨defined, -, hv⟩ := Option.bind_eq_some_iff.mp hv
  obtain ⟨fault, -, hv⟩ := Option.bind_eq_some_iff.mp hv
  obtain ⟨defined', -, hw⟩ := Option.bind_eq_some_iff.mp hw
  obtain ⟨fault', -, hw⟩ := Option.bind_eq_some_iff.mp hw
  cases hv
  cases hw
  exact hlt

/-- What is reported when the names of the changes are held to the bounds of a request: each
change with a name outside them, once. -/
theorem violations_of_request (hmin : b.min = r.minNameLength) (hmax : b.max = r.maxNameLength)
    (changes : List Change) (i : Nat) (defined : DefinedName) :
    (∃ v ∈ b.violations changes, v.index = i ∧ v.defined = defined) ↔
      ∃ change, changes[i]? = some change ∧ change.defines = some defined ∧
        ¬ r.AdmitsName defined.name := by
  have hmissed : (∃ fault, b.fault? defined.name = some fault) ↔ ¬ r.AdmitsName defined.name := by
    simp only [fault?_eq_some_iff, hmin, hmax, Request.AdmitsName]
    constructor
    · rintro ⟨fault, ⟨hlong, -⟩ | ⟨hshort, -⟩⟩ <;> omega
    · intro hout
      by_cases hlong : r.maxNameLength.toNat < defined.name.utf8ByteSize
      · exact ⟨_, .inl ⟨hlong, rfl⟩⟩
      · exact ⟨_, .inr ⟨by omega, rfl⟩⟩
  constructor
  · rintro ⟨v, hv, rfl, rfl⟩
    obtain ⟨change, hchange, hdefined, hfault⟩ := mem_violations_iff.mp hv
    exact ⟨change, hchange, hdefined, hmissed.mp ⟨v.fault, hfault⟩⟩
  · rintro ⟨change, hchange, hdefined, hout⟩
    obtain ⟨fault, hfault⟩ := hmissed.mpr hout
    exact ⟨⟨defined, i, fault⟩, mem_violations_iff.mpr ⟨change, hchange, hdefined, hfault⟩, rfl, rfl⟩

/-- Nothing is reported when all names are within the bounds. -/
theorem violations_eq_nil_iff (hmin : b.min = r.minNameLength) (hmax : b.max = r.maxNameLength)
    (changes : List Change) :
    b.violations changes = [] ↔ ∀ change ∈ changes, ∀ defined,
      change.defines = some defined → r.AdmitsName defined.name := by
  have hreported := violations_of_request hmin hmax changes
  constructor
  · intro hnone change hchange defined hdefined
    by_contra hout
    obtain ⟨i, hi⟩ := List.mem_iff_getElem?.mp hchange
    obtain ⟨v, hv, -⟩ := (hreported i defined).mpr ⟨change, hi, hdefined, hout⟩
    rw [hnone] at hv
    cases hv
  · intro hall
    rw [List.eq_nil_iff_forall_not_mem]
    intro v hv
    obtain ⟨change, hchange, hdefined, hout⟩ := (hreported v.index v.defined).mp ⟨v, hv, rfl, rfl⟩
    exact hout (hall change (List.mem_of_getElem? hchange) _ hdefined)

end LengthBounds

/-! ## The steps of a build -/

namespace Builder

/-- No check finds a fault in the request. -/
def Accepted (b : Builder) : Prop := ∀ check ∈ b.checks, check.fault? b.request = none

instance (b : Builder) : Decidable b.Accepted :=
  inferInstanceAs (Decidable (∀ check ∈ b.checks, check.fault? b.request = none))

variable {b : Builder}

theorem build_of_not_accepted (h : ¬ b.Accepted) :
    ∃ fault, b.checks.findSome? (·.fault? b.request) = some fault ∧
      b.build = .error (.request fault) := by
  cases hfirst : b.checks.findSome? (·.fault? b.request) with
  | none => exact absurd (List.findSome?_eq_none_iff.mp hfirst) h
  | some fault =>
    refine ⟨fault, rfl, ?_⟩
    unfold build
    rw [hfirst]
    rfl

theorem build_of_bounds_error {fault : RequestFault} (h : b.Accepted)
    (hbounds : b.effectiveBounds = .error fault) : b.build = .error (.request fault) := by
  unfold build
  rw [List.findSome?_eq_none_iff.mpr h, hbounds]
  rfl

theorem build_of_run_error {bounds : List LengthBounds} {fault : InternalFault} (h : b.Accepted)
    (hbounds : b.effectiveBounds = .ok bounds)
    (hrun : Stage.runAll b.request {} b.stages = .error fault) :
    b.build = .error (.internal fault) := by
  unfold build
  rw [List.findSome?_eq_none_iff.mpr h, hbounds, hrun]
  rfl

/-- Where the stages succeed, the names of the changes decide. -/
theorem build_of_run_ok {bounds : List LengthBounds} {context : Context} (h : b.Accepted)
    (hbounds : b.effectiveBounds = .ok bounds)
    (hrun : Stage.runAll b.request {} b.stages = .ok context) :
    b.build =
      if bounds.flatMap (·.violations context.changes) = [] then .ok context
      else .error (.names (bounds.flatMap (·.violations context.changes)) context.changes) := by
  unfold build
  rw [List.findSome?_eq_none_iff.mpr h, hbounds, hrun]
  show (if _ then _ else _) = _
  by_cases hnone : bounds.flatMap (·.violations context.changes) = []
  · rw [if_pos (List.isEmpty_iff.mpr hnone), if_pos hnone]
    rfl
  · rw [if_neg (mt List.isEmpty_iff.mp hnone), if_neg hnone]
    rfl

/-- The bounds on names have no part in what the stages do. -/
theorem runAll_lengths (r : Request) (min max : UInt64) (c : Context) (stages : List Stage) :
    Stage.runAll { r with minNameLength := min, maxNameLength := max } c stages =
      Stage.runAll r c stages := by
  have hrun : Stage.run { r with minNameLength := min, maxNameLength := max } = Stage.run r := by
    funext c s
    cases s <;> rfl
  unfold Stage.runAll
  rw [hrun]

/-! ## Builds with and without bounds -/

/-- What a build with the request's own bounds on names comes to, beside the same builder with the
bounds left unused. -/
structure HeldToBounds (b : Builder) : Prop where
  /-- A request that a check refuses is refused for the same fault. -/
  refused : ¬ b.Accepted → ∃ fault, b.build = .error (.request fault) ∧
    (b.set (.skipNameBounds true)).build = .error (.request fault)
  /-- Bounds that fit no name are a fault of the request, whatever the stages would come to. -/
  misfit : b.Accepted → ¬ b.request.BoundsFit →
    ∃ fault, fault.rule = .nameLengthBounds ∧ b.build = .error (.request fault)
  /-- A build that fails without the bounds fails alike with them. -/
  failed : b.Accepted → b.request.BoundsFit → ∀ error : Error,
    (b.set (.skipNameBounds true)).build = .error error → b.build = .error error
  /-- A build that succeeds without them does so with them if every name is within the bounds. -/
  succeeded : b.Accepted → b.request.BoundsFit → ∀ context : Context,
    (b.set (.skipNameBounds true)).build = .ok context →
    (b.build = .ok context ↔ ∀ change ∈ context.changes, ∀ defined,
      change.defines = some defined → b.request.AdmitsName defined.name)
  /-- Otherwise the changes are handed over with the violations, in the order of the changes: one
  for each name outside the bounds. -/
  reported : b.Accepted → b.request.BoundsFit → ∀ context : Context,
    (b.set (.skipNameBounds true)).build = .ok context → b.build ≠ .ok context →
    ∃ violations, b.build = .error (.names violations context.changes) ∧
      violations.Pairwise (fun v w => v.index < w.index) ∧
      ∀ (i : Nat) (defined : DefinedName),
        (∃ v ∈ violations, v.index = i ∧ v.defined = defined) ↔
          ∃ change, context.changes[i]? = some change ∧ change.defines = some defined ∧
            ¬ b.request.AdmitsName defined.name
  /-- Wider bounds leave a success as it is. -/
  widened : ∀ (context : Context) (min max : UInt64), b.build = .ok context →
    1 ≤ min → min ≤ b.request.minNameLength → b.request.maxNameLength ≤ max →
    (b.setAll [.minNameLength min, .maxNameLength max]).build = .ok context

/-- Without bounds, an accepted request is answered with what its stages come to. -/
theorem build_skipped (hdefault : b.nameBounds = none) (h : b.Accepted) :
    (b.set (.skipNameBounds true)).build =
      (Stage.runAll b.request {} b.stages).mapError .internal := by
  have hdefault' : (b.set (.skipNameBounds true)).nameBounds = none := hdefault
  have hbounds : (b.set (.skipNameBounds true)).effectiveBounds = .ok [] := by
    unfold effectiveBounds
    rw [hdefault']
    rfl
  have haccepted : (b.set (.skipNameBounds true)).Accepted := h
  cases hrun : Stage.runAll b.request {} b.stages with
  | error fault => exact build_of_run_error haccepted hbounds hrun
  | ok context => exact build_of_run_ok haccepted hbounds hrun

section

variable (hdefault : b.nameBounds = none) (hused : b.skipsNameBounds = false)
include hdefault hused

theorem effectiveBounds_of_default :
    b.effectiveBounds = (LengthBounds.ofRequest b.request).map fun bounds => [bounds] := by
  unfold effectiveBounds
  rw [hdefault, hused]
  cases LengthBounds.ofRequest b.request <;> rfl

/-- With bounds that fit, it is answered alike, but for the names of the changes. -/
theorem build_of_boundsFit (h : b.Accepted) (hfit : b.request.BoundsFit) :
    ∃ bounds : LengthBounds, bounds.min = b.request.minNameLength ∧
      bounds.max = b.request.maxNameLength ∧
      b.build = (b.set (.skipNameBounds true)).build >>= fun context =>
        if bounds.violations context.changes = [] then .ok context
        else .error (.names (bounds.violations context.changes) context.changes) := by
  obtain ⟨bounds, hof, hmin, hmax⟩ := LengthBounds.ofRequest_eq_ok hfit
  have hbounds : b.effectiveBounds = .ok [bounds] := by
    rw [effectiveBounds_of_default hdefault hused, hof]
    rfl
  refine ⟨bounds, hmin, hmax, ?_⟩
  rw [build_skipped hdefault h]
  cases hrun : Stage.runAll b.request {} b.stages with
  | error fault => exact build_of_run_error h hbounds hrun
  | ok context =>
    rw [build_of_run_ok h hbounds hrun]
    simp only [List.flatMap_cons, List.flatMap_nil, List.append_nil]
    rfl

/-- A build with bounds succeeds when the bounds fit and the build succeeds without them, with all
names within the bounds. -/
theorem build_eq_ok_iff {context : Context} :
    b.build = .ok context ↔ b.Accepted ∧ b.request.BoundsFit ∧
      (b.set (.skipNameBounds true)).build = .ok context ∧ ∀ change ∈ context.changes, ∀ defined,
        change.defines = some defined → b.request.AdmitsName defined.name := by
  by_cases haccepted : b.Accepted
  swap
  · obtain ⟨fault, -, hbuild⟩ := build_of_not_accepted haccepted
    simp [haccepted, hbuild]
  by_cases hfit : b.request.BoundsFit
  swap
  · obtain ⟨fault, hfault, -⟩ := LengthBounds.ofRequest_eq_error hfit
    have hbounds : b.effectiveBounds = .error fault := by
      rw [effectiveBounds_of_default hdefault hused, hfault]
      rfl
    simp [hfit, build_of_bounds_error haccepted hbounds]
  obtain ⟨bounds, hmin, hmax, hbuild⟩ := build_of_boundsFit hdefault hused haccepted hfit
  rw [hbuild, ← LengthBounds.violations_eq_nil_iff hmin hmax]
  simp only [haccepted, hfit, true_and]
  cases hfree : (b.set (.skipNameBounds true)).build with
  | error error => simp [bind, Except.bind]
  | ok found =>
    show (if _ then _ else _) = _ ↔ _
    by_cases hnone : bounds.violations found.changes = []
    · rw [if_pos hnone]
      constructor
      · rintro h
        cases h
        exact ⟨rfl, hnone⟩
      · exact fun h => h.1
    · rw [if_neg hnone]
      constructor
      · intro h
        cases h
      · rintro ⟨h, hnil⟩
        cases h
        exact absurd hnil hnone

end

/-- Wider limits are as good for a build: the checks and the stages do not look at them, and the
names are still within them. -/
theorem build_widened {context : Context} {min max : UInt64} (hdefault : b.nameBounds = none)
    (hused : b.skipsNameBounds = false) (h : b.build = .ok context) (hpos : 1 ≤ min)
    (hmin : min ≤ b.request.minNameLength) (hmax : b.request.maxNameLength ≤ max) :
    (b.setAll [.minNameLength min, .maxNameLength max]).build = .ok context := by
  obtain ⟨haccepted, ⟨-, hlimits⟩, hfree, hnames⟩ := (build_eq_ok_iff hdefault hused).mp h
  have hdefault' : (b.setAll [.minNameLength min, .maxNameLength max]).nameBounds = none :=
    hdefault
  have haccepted' : (b.setAll [.minNameLength min, .maxNameLength max]).Accepted := by
    intro check hcheck
    rw [← haccepted check hcheck]
    cases check <;> rfl
  refine (build_eq_ok_iff hdefault' hused).mpr
    ⟨haccepted', ⟨hpos, ?_⟩, ?_, fun change hchange defined hdefined => ?_⟩
  · exact UInt64.le_trans hmin (UInt64.le_trans hlimits hmax)
  · rw [build_skipped hdefault haccepted] at hfree
    rw [build_skipped hdefault' haccepted', ← hfree]
    exact congrArg _ (runAll_lengths b.request min max {} b.stages)
  · obtain ⟨hlow, hhigh⟩ := hnames change hchange defined hdefined
    exact ⟨Nat.le_trans (UInt64.le_iff_toNat_le.mp hmin) hlow,
      Nat.le_trans hhigh (UInt64.le_iff_toNat_le.mp hmax)⟩

/-- The bounds on names refuse what fits no bounds and report every name outside them, and a build
is otherwise what it would be without them. -/
theorem build_bounds (hdefault : b.nameBounds = none) (hused : b.skipsNameBounds = false) :
    b.HeldToBounds where
  refused h := by
    obtain ⟨fault, hfirst, hbuild⟩ := build_of_not_accepted h
    have hrefused : ¬ (b.set (.skipNameBounds true)).Accepted := h
    obtain ⟨fault', hfirst', hbuild'⟩ := build_of_not_accepted hrefused
    obtain rfl : fault = fault' := Option.some.inj (hfirst.symm.trans hfirst')
    exact ⟨fault, hbuild, hbuild'⟩
  misfit h hmisfit := by
    obtain ⟨fault, hfault, hrule⟩ := LengthBounds.ofRequest_eq_error hmisfit
    have hbounds : b.effectiveBounds = .error fault := by
      rw [effectiveBounds_of_default hdefault hused, hfault]
      rfl
    exact ⟨fault, hrule, build_of_bounds_error h hbounds⟩
  failed h hfit error hfree := by
    obtain ⟨bounds, -, -, hbuild⟩ := build_of_boundsFit hdefault hused h hfit
    rw [hbuild, hfree]
    rfl
  succeeded h hfit context hfree := by
    rw [build_eq_ok_iff hdefault hused]
    exact ⟨fun hbuild => hbuild.2.2.2, fun hnames => ⟨h, hfit, hfree, hnames⟩⟩
  reported h hfit context hfree hfailed := by
    obtain ⟨bounds, hmin, hmax, hbuild⟩ := build_of_boundsFit hdefault hused h hfit
    rw [hfree] at hbuild
    have hsome : ¬ bounds.violations context.changes = [] := by
      intro hnone
      rw [hbuild] at hfailed
      exact hfailed (if_pos hnone)
    exact ⟨bounds.violations context.changes, hbuild.trans (if_neg hsome),
      bounds.pairwise_violations _, LengthBounds.violations_of_request hmin hmax _⟩
  widened context min max := build_widened hdefault hused

/-- Thirty-two characters of two bytes each: a byte more than the server keeps of a name. -/
def longName : String := String.ofList (List.replicate 32 'é')

/-- Two guarded tables, and a routine of the caller's own with a long name. -/
def namedItems : Builder :=
  items.set (.custom .atEnd ((Change.ofScript "SELECT 2").defining .function longName))

theorem build_bounds_namedItems :
    namedItems.nameBounds = none ∧ namedItems.skipsNameBounds = false ∧
      namedItems.HeldToBounds ∧ namedItems.Accepted ∧ namedItems.request.BoundsFit ∧
      ∃ context, (namedItems.set (.skipNameBounds true)).build = .ok context ∧
        ∃ violations, namedItems.build = .error (.names violations context.changes) ∧
          ∃ v ∈ violations, v.defined = { kind := .function, name := longName } := by
  have hheld : namedItems.HeldToBounds := build_bounds rfl rfl
  have haccepted : namedItems.Accepted := by decide +kernel
  have hfit : namedItems.request.BoundsFit := by decide
  have hreach : namedItems.Reachable := reachable_items.set _
  obtain ⟨context, hrun⟩ := hreach.exists_run (by decide +kernel)
  have hfree : (namedItems.set (.skipNameBounds true)).build = .ok context := by
    rw [build_skipped rfl haccepted]
    exact congrArg (Except.mapError Error.internal) hrun
  -- the caller's own change is among those made, and its name is too long
  have hcustom : (Change.ofScript "SELECT 2").defining .function longName ∈ context.changes := by
    obtain ⟨-, rfl⟩ := Stage.eq_of_runAll_eq_ok hrun
    exact List.mem_flatMap.mpr ⟨.custom .atEnd, by decide, List.mem_singleton.mpr rfl⟩
  have hlong : ¬ namedItems.request.AdmitsName longName := by
    rintro ⟨-, hle⟩
    exact absurd hle (by decide +kernel)
  have hfailed : namedItems.build ≠ .ok context := fun hbuild =>
    hlong ((hheld.succeeded haccepted hfit context hfree).mp hbuild _ hcustom _ rfl)
  obtain ⟨violations, hbuild, -, hviolations⟩ :=
    hheld.reported haccepted hfit context hfree hfailed
  obtain ⟨i, hi⟩ := List.mem_iff_getElem?.mp hcustom
  obtain ⟨v, hv, -, hdefined⟩ := (hviolations i _).mpr ⟨_, hi, rfl, hlong⟩
  exact ⟨rfl, rfl, hheld, haccepted, hfit, context, hfree, violations, hbuild, v, hv, hdefined⟩

end Builder

end Tenancy
