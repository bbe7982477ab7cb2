import Tenancy.Proofs.Sql.BodyMark
import Tenancy.Routine.Ownership

/-!
# Bodies of tenant routines

Which names and values stand in the body of each tenant routine, and what a server makes of the
body. Names and values are quoted for their place in the body, but the mark around it is the same
for every body, and quoting lets the mark through: a value such as `$$` in a blacklist ends the body
that it stands in (`TenantRoutine.exists_body_holdsMark`). A body is read as it was meant exactly
when no name or value in it holds the mark (`TenantRoutine.body_read`).
-/

namespace Tenancy

open Sql (HoldsMark Guards)

/-- A routine of the current tenant, as it is asked for. -/
inductive TenantRoutine where
  | currentTenant (name : QualifiedName) (setting : String) (type : Option String)
  | assignTenant (name : QualifiedName) (setting type : String)
  | isCurrentTenant (name : QualifiedName) (type : String) (current : Routine)
  | hasAuthority (name : QualifiedName) (type : String) (equals : Routine)
  | ownership (name : String) (table : Table) (tenantColumn : String)
      (primaryKey : Std.ExtTreeMap String String) (current : Routine)
  | isValidTenant (name : QualifiedName) (type : String) (blacklist : List String)

namespace TenantRoutine

/-- The routine itself. -/
def routine : TenantRoutine → Routine
  | currentTenant name setting type => .currentTenant name setting type
  | assignTenant name setting type => .assignTenant name setting type
  | isCurrentTenant name type current => .isCurrentTenant name type current
  | hasAuthority name type equals => .hasAuthority name type equals
  | ownership name table tenantColumn primaryKey current =>
    (Ownership.ofTable name table tenantColumn primaryKey current).routine
  | isValidTenant name type blacklist => .isValidTenant name type blacklist

/-- The names and values that stand in the body. -/
def embedded : TenantRoutine → List String
  | currentTenant _ setting _ | assignTenant _ setting _ => [setting]
  | isCurrentTenant _ _ called | hasAuthority _ _ called => called.name.names
  | ownership _ table tenantColumn primaryKey current =>
    table.names ++ primaryKey.keys ++ [tenantColumn] ++ current.name.names
  | isValidTenant _ _ blacklist => blacklist

/-- The types that stand in the body. -/
def bodyTypes : TenantRoutine → List String
  | currentTenant _ _ type => type.toList
  | isValidTenant _ type _ => [type]
  | _ => []

/-! ## Which texts hold the mark -/

theorem holdsMark_call (r : Routine) {arguments : String} (h : Guards s!"({arguments})") :
    HoldsMark s!"{r.name.render}({arguments})" ↔ ∃ name ∈ r.name.names, HoldsMark name := by
  have hcall : s!"{r.name.render}({arguments})" = r.name.render ++ s!"({arguments})" := by
    simp [String.append_assoc]
  rw [hcall, h.iff_append, QualifiedName.holdsMark_render]

theorem holdsMark_callCurrentTenant (current : Routine) :
    HoldsMark current.callCurrentTenant ↔ ∃ name ∈ current.name.names, HoldsMark name :=
  holdsMark_call current (by decide +kernel)

/-- A parameter is a dollar sign with digits after it. -/
theorem not_holdsMark_parameter (k : Nat) : ¬ HoldsMark s!" = ${k}" := by
  have hdigit : ∀ c ∈ Nat.toDigits 10 k, c ≠ '$' := by
    rintro c hc rfl
    exact absurd (Nat.isDigit_of_mem_toDigits (by decide) (by decide) hc) (by decide)
  have htext : (s!" = ${k}").toList = [' ', '=', ' ', '$'] ++ Nat.toDigits 10 k := by
    simp
  unfold HoldsMark
  rw [htext]
  simp only [List.cons_append, List.nil_append, Sql.mark_infix_cons]
  rintro (⟨h, -⟩ | ⟨h, -⟩ | ⟨h, -⟩ | ⟨-, h⟩ | h)
  · cases h
  · cases h
  · cases h
  · exact hdigit '$' (List.mem_of_mem_head? h) rfl
  · exact hdigit '$' (h.subset List.mem_cons_self) rfl

theorem holdsMark_keyCondition (column : String) (k : Nat) :
    HoldsMark s!"rt.{Sql.identifier column} = ${k}" ↔ HoldsMark column := by
  have hrecord : Guards "rt." := by decide +kernel
  have hcondition : s!"rt.{Sql.identifier column} = ${k}" =
      "rt." ++ (Sql.identifier column ++ s!" = ${k}") := by
    simp [String.append_assoc]
  rw [hcondition, hrecord.append_iff, Sql.holdsMark_append (.inr (by simp)),
    Sql.holdsMark_identifier]
  simp only [not_holdsMark_parameter k, or_false]

theorem holdsMark_tenantCondition (column : String) (current : Routine) :
    HoldsMark s!"rt.{Sql.identifier column} = {current.callCurrentTenant}" ↔
      HoldsMark column ∨ ∃ name ∈ current.name.names, HoldsMark name := by
  have hrecord : Guards "rt." := by decide +kernel
  have hequals : Guards " = " := by decide +kernel
  have hcondition : s!"rt.{Sql.identifier column} = {current.callCurrentTenant}" =
      "rt." ++ (Sql.identifier column ++ (" = " ++ current.callCurrentTenant)) := by
    simp [String.append_assoc]
  rw [hcondition, hrecord.append_iff, hequals.between_iff, Sql.holdsMark_identifier,
    holdsMark_callCurrentTenant]

theorem holdsMark_conditions (keyColumns : List String) (tenantColumn : String)
    (current : Routine) :
    (∃ condition ∈ Ownership.conditions keyColumns tenantColumn current, HoldsMark condition) ↔
      ∃ name ∈ keyColumns ++ [tenantColumn] ++ current.name.names, HoldsMark name := by
  have hkeys : (∃ entry ∈ keyColumns.zipIdx 1, HoldsMark entry.1) ↔
      ∃ column ∈ keyColumns, HoldsMark column := by
    constructor
    · rintro ⟨entry, hentry, hholds⟩
      have hmem : entry.1 ∈ (keyColumns.zipIdx 1).map Prod.fst := List.mem_map_of_mem hentry
      rw [List.zipIdx_map_fst] at hmem
      exact ⟨entry.1, hmem, hholds⟩
    · rintro ⟨column, hcolumn, hholds⟩
      rw [← List.zipIdx_map_fst 1 keyColumns] at hcolumn
      obtain ⟨entry, hentry, rfl⟩ := List.mem_map.mp hcolumn
      exact ⟨entry, hentry, hholds⟩
  unfold Ownership.conditions
  simp only [List.mem_append, List.mem_map, List.mem_singleton, or_and_right, exists_or,
    exists_eq_left, exists_exists_and_eq_and, holdsMark_keyCondition, holdsMark_tenantCondition,
    hkeys, or_assoc]

/-! ## The bodies -/

theorem holdsMark_currentTenant (name : QualifiedName) (setting : String) (type : Option String) :
    HoldsMark (Routine.currentTenant name setting type).body ↔
      HoldsMark setting ∨ ∃ declared ∈ type, HoldsMark declared := by
  have hcall : Guards "current_setting(" := by decide +kernel
  have hclose : Guards ")" := by decide +kernel
  cases type with
  | none =>
    have hopen : Guards "SELECT " := by decide +kernel
    have hbody : (Routine.currentTenant name setting none).body =
        "SELECT " ++ ("current_setting(" ++ (Sql.literal setting ++ ")")) := by
      simp [Routine.currentTenant, String.append_assoc]
    rw [hbody, hopen.append_iff, hcall.append_iff, hclose.iff_append]
    simp
  | some type =>
    have hopen : Guards "SELECT CAST(" := by decide +kernel
    have has : Guards ") AS " := by decide +kernel
    have hbody : (Routine.currentTenant name setting (some type)).body =
        "SELECT CAST(" ++ ("current_setting(" ++
          (Sql.literal setting ++ (") AS " ++ (type ++ ")")))) := by
      simp [Routine.currentTenant, String.append_assoc]
    rw [hbody, hopen.append_iff, hcall.append_iff, has.between_iff, hclose.iff_append]
    simp

theorem holdsMark_assignTenant (name : QualifiedName) (setting type : String) :
    HoldsMark (Routine.assignTenant name setting type).body ↔ HoldsMark setting := by
  have hopen : Guards "BEGIN\nPERFORM set_config(" := by decide +kernel
  have hclose : Guards ", $1::text, false);\nEND" := by decide +kernel
  have hbody : (Routine.assignTenant name setting type).body =
      "BEGIN\nPERFORM set_config(" ++ (Sql.literal setting ++ ", $1::text, false);\nEND") := by
    simp [Routine.assignTenant, String.append_assoc]
  rw [hbody, hopen.append_iff, hclose.iff_append, Sql.holdsMark_literal]

theorem holdsMark_isCurrentTenant (name : QualifiedName) (type : String) (current : Routine) :
    HoldsMark (Routine.isCurrentTenant name type current).body ↔
      ∃ part ∈ current.name.names, HoldsMark part := by
  have hopen : Guards "SELECT $1 = " := by decide +kernel
  have hbody : (Routine.isCurrentTenant name type current).body =
      "SELECT $1 = " ++ current.callCurrentTenant := by
    simp [Routine.isCurrentTenant]
  rw [hbody, hopen.append_iff, holdsMark_callCurrentTenant]

theorem holdsMark_hasAuthority (name : QualifiedName) (type : String) (equals : Routine) :
    HoldsMark (Routine.hasAuthority name type equals).body ↔
      ∃ part ∈ equals.name.names, HoldsMark part := by
  have hopen : Guards "SELECT " := by decide +kernel
  show HoldsMark ("SELECT " ++ equals.callWith (.expression "$1")) ↔ _
  rw [hopen.append_iff]
  exact holdsMark_call equals (by decide +kernel)

theorem holdsMark_ownership (name : String) (table : Table) (tenantColumn : String)
    (primaryKey : Std.ExtTreeMap String String) (current : Routine) :
    HoldsMark (Ownership.ofTable name table tenantColumn primaryKey current).routine.body ↔
      ∃ part ∈ table.names ++ primaryKey.keys ++ [tenantColumn] ++ current.name.names,
        HoldsMark part := by
  have hopen : Guards "SELECT EXISTS (\n\tSELECT 1 FROM " := by decide +kernel
  have hwhere : Guards " rt WHERE " := by decide +kernel
  have hclose : Guards "\n)" := by decide +kernel
  have hand : Guards " AND " := by decide +kernel
  have hbody : (Ownership.ofTable name table tenantColumn primaryKey current).routine.body =
      "SELECT EXISTS (\n\tSELECT 1 FROM " ++ (table.render ++ (" rt WHERE " ++
        (" AND ".intercalate (Ownership.conditions primaryKey.keys tenantColumn current) ++
          "\n)"))) := by
    simp [Ownership.ofTable, String.append_assoc]
  rw [hbody, hopen.append_iff, hwhere.between_iff, hclose.iff_append, hand.intercalate_iff,
    holdsMark_conditions, QualifiedName.holdsMark_render]
  simp only [List.mem_append, or_and_right, exists_or, or_assoc]

theorem holdsMark_isValidTenant (name : QualifiedName) (type : String) (blacklist : List String) :
    HoldsMark (Routine.isValidTenant name type blacklist).body ↔
      (∃ value ∈ blacklist, HoldsMark value) ∨ HoldsMark type := by
  have hopen : Guards "SELECT $1 <> ALL (ARRAY[" := by decide +kernel
  have hcast : Guards "]::" := by decide +kernel
  have hclose : Guards "[])" := by decide +kernel
  have hcomma : Guards ", " := by decide +kernel
  have hbody : (Routine.isValidTenant name type blacklist).body =
      "SELECT $1 <> ALL (ARRAY[" ++ (", ".intercalate (blacklist.map Sql.literal) ++
        ("]::" ++ (type ++ "[])"))) := by
    simp [Routine.isValidTenant, Sql.commaList, String.append_assoc]
  rw [hbody, hopen.append_iff, hcast.between_iff, hclose.iff_append, hcomma.intercalate_iff]
  simp

/-- A body holds the mark exactly when a name or value in it does, or a type. -/
theorem holdsMark_body (t : TenantRoutine) :
    HoldsMark t.routine.body ↔
      (∃ value ∈ t.embedded, HoldsMark value) ∨ ∃ type ∈ t.bodyTypes, HoldsMark type := by
  cases t with
  | currentTenant name setting type =>
    simpa [routine, embedded, bodyTypes] using holdsMark_currentTenant name setting type
  | assignTenant name setting type =>
    simpa [routine, embedded, bodyTypes] using holdsMark_assignTenant name setting type
  | isCurrentTenant name type current =>
    simpa [routine, embedded, bodyTypes] using holdsMark_isCurrentTenant name type current
  | hasAuthority name type equals =>
    simpa [routine, embedded, bodyTypes] using holdsMark_hasAuthority name type equals
  | ownership name table tenantColumn primaryKey current =>
    have hbody := holdsMark_ownership name table tenantColumn primaryKey current
    simpa only [routine, embedded, bodyTypes, List.not_mem_nil, false_and, exists_false,
      or_false] using hbody
  | isValidTenant name type blacklist =>
    simpa [routine, embedded, bodyTypes] using holdsMark_isValidTenant name type blacklist

/-! ## What a server makes of a body -/

end TenantRoutine

namespace Routine

/-- The script up to the mark that opens the body. -/
def beforeBody (r : Routine) : String :=
  s!"CREATE OR REPLACE FUNCTION {r.signature} RETURNS {r.returns} AS "

/-- The body as it stands between the marks. -/
def bodyLines (r : Routine) : String := s!"\n{r.body}\n"

/-- The script after the mark that closes the body. -/
def afterBody (r : Routine) : String :=
  s!" LANGUAGE {r.language.word}\n{r.volatility.clauses};"

theorem create_eq_marked (r : Routine) :
    r.create = r.beforeBody ++ "$$" ++ r.bodyLines ++ "$$" ++ r.afterBody := by
  unfold create beforeBody bodyLines afterBody
  rw [← String.toList_inj]
  simp

/-- The body is read as it stands exactly when it does not hold the mark. -/
theorem readBody_iff (r : Routine) :
    Sql.readBody (r.bodyLines ++ "$$" ++ r.afterBody).toList =
        some (r.bodyLines.toList, r.afterBody.toList) ↔ ¬ HoldsMark r.body := by
  have hline : Guards "\n" := by decide +kernel
  have hlines : HoldsMark r.bodyLines ↔ HoldsMark r.body := by
    have hbody : r.bodyLines = "\n" ++ (r.body ++ "\n") := by
      simp [bodyLines, String.append_assoc]
    rw [hbody, hline.append_iff, hline.iff_append]
  have htext : (r.bodyLines ++ "$$" ++ r.afterBody).toList =
      r.bodyLines.toList ++ '$' :: '$' :: r.afterBody.toList := by
    simp
  rw [htext, ← hlines]
  constructor
  · intro hread
    exact (Sql.readBody_spec hread).2
  · intro hfree
    apply Sql.readBody_append
    -- the line break keeps the closing mark from beginning in the body
    have hlast : r.bodyLines.toList.getLast? ≠ some '$' := by
      have hend : r.bodyLines.toList = ('\n' :: r.body.toList) ++ ['\n'] := by simp [bodyLines]
      rw [hend, List.getLast?_concat]
      decide
    rw [Sql.mark_infix_append_iff (.inl hlast)]
    rintro (hin | hin)
    · exact hfree hin
    · exact absurd hin (by decide)

end Routine

namespace TenantRoutine

/-- With types that do not hold the mark, the body of a tenant routine holds it exactly when one of
the names and values in the body does. A server that takes everything up to the next mark for the
body reads the body that was meant when none does, and another one otherwise. -/
theorem body_read (t : TenantRoutine) (htypes : ∀ type ∈ t.bodyTypes, ¬ HoldsMark type) :
    (HoldsMark t.routine.body ↔ ∃ value ∈ t.embedded, HoldsMark value) ∧
      t.routine.create = t.routine.beforeBody ++ "$$" ++ t.routine.bodyLines ++ "$$" ++
        t.routine.afterBody ∧
      (Sql.readBody (t.routine.bodyLines ++ "$$" ++ t.routine.afterBody).toList =
          some (t.routine.bodyLines.toList, t.routine.afterBody.toList) ↔
        ∀ value ∈ t.embedded, ¬ HoldsMark value) := by
  have hbody : HoldsMark t.routine.body ↔ ∃ value ∈ t.embedded, HoldsMark value := by
    rw [holdsMark_body]
    refine or_iff_left ?_
    rintro ⟨type, htype, hholds⟩
    exact htypes type htype hholds
  refine ⟨hbody, t.routine.create_eq_marked, ?_⟩
  rw [t.routine.readBody_iff, hbody]
  simp

/-- A blacklisted value ends the body early. -/
theorem exists_body_holdsMark :
    ¬ ∀ t : TenantRoutine, (∀ type ∈ t.bodyTypes, ¬ HoldsMark type) →
      ¬ HoldsMark t.routine.body := by
  intro h
  exact h (isValidTenant { name := "is_valid" } "TEXT" ["$$"]) (by decide +kernel)
    (by decide +kernel)

/-- The server takes the rest of the value for what follows the body. -/
example :
    let r := Routine.isValidTenant { name := "is_valid" } "TEXT" ["$$"]
    Sql.readBody (r.bodyLines ++ "$$" ++ r.afterBody).toList =
      some ("\nSELECT $1 <> ALL (ARRAY['".toList,
        ("']::TEXT[])\n$$ LANGUAGE sql\nIMMUTABLE\nPARALLEL SAFE;").toList) := by
  decide +kernel

/-- A routine with quotation marks and dollar signs in its blacklist, but no two of these in a
row. -/
def unmarkedBlacklist : TenantRoutine :=
  isValidTenant { name := "is_valid" } "TEXT" ["it's", "$1", "$'$"]

theorem body_read_unmarkedBlacklist :
    (∀ type ∈ unmarkedBlacklist.bodyTypes, ¬ HoldsMark type) ∧
      Sql.readBody (unmarkedBlacklist.routine.bodyLines ++ "$$" ++
          unmarkedBlacklist.routine.afterBody).toList =
        some (unmarkedBlacklist.routine.bodyLines.toList,
          unmarkedBlacklist.routine.afterBody.toList) := by
  have htypes : ∀ type ∈ unmarkedBlacklist.bodyTypes, ¬ HoldsMark type := by decide +kernel
  exact ⟨htypes, (body_read unmarkedBlacklist htypes).2.2.mpr (by decide +kernel)⟩

end TenantRoutine

end Tenancy
