import Tenancy.Proofs.ColumnDefaults

/-!
# Lists of text constants

The blacklist stands in the body of its routine as an array of text constants, and a policy tells
the authority routine by text constants what the access is that it is asked about. Commas, brackets
and line breaks may occur in the constants as well as between them. The readers below take one
constant after the other and ask for what separates them, and they give back the list that was
written, so a value can neither add nor swallow a neighbour (`literals_read`).
-/

namespace Tenancy

namespace Sql

/-! ## Readers -/

theorem length_lt_of_readMarked {mark : Char} {text value rest : List Char}
    (h : readMarked mark text = some (value, rest)) : rest.length < text.length := by
  fun_induction readMarked mark text generalizing value rest with
  | case1 => cases h
  | case2 =>
    cases h
    simp
  | case3 tail ih =>
    obtain ⟨⟨read, after⟩, hread, heq⟩ := Option.map_eq_some_iff.mp h
    cases heq
    have hlt := ih hread
    simp only [List.length_cons]
    omega
  | case4 =>
    cases h
    simp
  | case5 c tail hc ih =>
    obtain ⟨⟨read, after⟩, hread, heq⟩ := Option.map_eq_some_iff.mp h
    cases heq
    have hlt := ih hread
    simp only [List.length_cons]
    omega

theorem length_lt_of_readLiteral {text rest : List Char} {value : String}
    (h : readLiteral text = some (value, rest)) : rest.length < text.length := by
  unfold readLiteral at h
  split at h
  · obtain ⟨⟨read, after⟩, hread, heq⟩ := Option.map_eq_some_iff.mp h
    cases heq
    have hlt := length_lt_of_readMarked hread
    simp only [List.length_cons]
    omega
  · cases h

/-- Reads text constants with a comma and a blank between two of them, at least one. -/
def readLiterals (text : List Char) : Option (List String × List Char) :=
  match _ : readLiteral text with
  | none => none
  | some (value, ',' :: ' ' :: rest) =>
    (readLiterals rest).map fun (values, after) => (value :: values, after)
  | some (value, rest) => some ([value], rest)
termination_by text.length
decreasing_by
  have hlt := length_lt_of_readLiteral ‹_›
  simp only [List.length_cons] at hlt
  omega

/-- Reads text constants up to the bracket that closes them. There may be none. -/
def readEnclosed (bracket : Char) (text : List Char) : Option (List String × List Char) :=
  if text.head? = some bracket then
    some ([], text.tail)
  else do
    let (values, rest) ← readLiterals text
    return (values, ← skip [bracket] rest)

/-! ## Lists read back -/

theorem readLiterals_literal (value : String) {rest : List Char} (h : rest.head? ≠ some '\'')
    (hcomma : rest.head? ≠ some ',') :
    readLiterals ((literal value).toList ++ rest) = some ([value], rest) := by
  rw [readLiterals, readLiteral_literal value h]
  split
  · next hread => cases hread
  · next hread =>
    cases hread
    exact absurd rfl hcomma
  · next hread =>
    cases hread
    rfl

/-- A constant with a comma and a blank after it stands before the constants that follow. -/
theorem readLiterals_cons (value : String) {text rest : List Char} {values : List String}
    (h : readLiterals text = some (values, rest)) :
    readLiterals ((literal value).toList ++ (", ".toList ++ text)) =
      some (value :: values, rest) := by
  have hmark : (", ".toList ++ text).head? ≠ some '\'' := by simp
  rw [readLiterals, readLiteral_literal value hmark]
  split
  · next hread => cases hread
  · next hread =>
    cases hread
    show (readLiterals text).map _ = _
    rw [h]
    rfl
  · next hother hread =>
    cases hread
    exact absurd rfl (hother text)

theorem readLiterals_commaList (value : String) (values : List String) (rest : List Char)
    (hmark : rest.head? ≠ some '\'') (hcomma : rest.head? ≠ some ',') :
    readLiterals ((commaList ((value :: values).map literal)).toList ++ rest) =
      some (value :: values, rest) := by
  induction values generalizing value with
  | nil => simpa [commaList] using readLiterals_literal value hmark hcomma
  | cons next values ih =>
    have hlist : (commaList ((value :: next :: values).map literal)).toList =
        (literal value).toList ++
          (", ".toList ++ (commaList ((next :: values).map literal)).toList) := by
      simp only [commaList, List.map_cons, String.intercalate_cons_cons, String.toList_append,
        List.append_assoc]
    rw [hlist, List.append_assoc, List.append_assoc]
    exact readLiterals_cons value (ih next)

/-- The constants between brackets are read back whatever characters they hold, the bracket
included. -/
theorem readEnclosed_commaList (bracket : Char) (hmark : bracket ≠ '\'') (hcomma : bracket ≠ ',')
    (values : List String) (rest : List Char) :
    readEnclosed bracket ((commaList (values.map literal)).toList ++ bracket :: rest) =
      some (values, rest) := by
  cases values with
  | nil => simp [readEnclosed, commaList]
  | cons value values =>
    have hread := readLiterals_commaList value values (bracket :: rest)
      (by simpa using hmark) (by simpa using hcomma)
    have hopen : ((commaList ((value :: values).map literal)).toList ++ bracket :: rest).head? ≠
        some bracket := by
      cases values <;> simp [commaList, literal, hmark.symm]
    rw [readEnclosed, if_neg hopen, hread]
    simp [skip]

end Sql

/-! ## The blacklist -/

/-- Reads the blacklist in the body of the routine that looks tenants up, and what comes after the
bracket that closes it. -/
def readBlacklist (body : List Char) : Option (List String × List Char) := do
  Sql.readEnclosed ']' (← skip "SELECT $1 <> ALL (ARRAY[".toList body)

namespace Routine

variable (name : QualifiedName) (type : String)

theorem readBlacklist_isValidTenant (blacklist : List String) :
    readBlacklist (isValidTenant name type blacklist).body.toList =
      some (blacklist, s!"::{type}[])".toList) := by
  have hbody : (isValidTenant name type blacklist).body.toList =
      "SELECT $1 <> ALL (ARRAY[".toList ++ ((Sql.commaList (blacklist.map Sql.literal)).toList ++
        ']' :: s!"::{type}[])".toList) := by
    simp [isValidTenant]
  rw [readBlacklist, hbody, skip_append]
  exact Sql.readEnclosed_commaList ']' (by decide) (by decide) blacklist _

/-- Scripts that are the same around the body are the same in the body. -/
theorem body_eq_of_create {f g : Routine} (h : f.create = g.create)
    (hsignature : f.signature = g.signature) (hreturns : f.returns = g.returns)
    (hafter : f.afterBody = g.afterBody) : f.body = g.body := by
  rw [create_eq_append, create_eq_append, hsignature, hreturns, hafter] at h
  simpa only [String.append_right_inj, String.append_left_inj] using h

/-- The body is all that the blacklist has a part in. -/
theorem create_isValidTenant_injective :
    Function.Injective fun blacklist => (isValidTenant name type blacklist).create := by
  intro blacklist blacklist' hcreate
  have hbody : (isValidTenant name type blacklist).body =
      (isValidTenant name type blacklist').body := body_eq_of_create hcreate rfl rfl rfl
  have hread := readBlacklist_isValidTenant name type blacklist
  rw [hbody, readBlacklist_isValidTenant name type blacklist'] at hread
  simpa [eq_comm] using hread

end Routine

/-! ## What a policy tells the authority routine -/

/-- Reads a call of a routine that has text constants for arguments. -/
def readCall (text : List Char) : Option (QualifiedName × List String × List Char) := do
  let (routine, rest) ← Sql.readQualified text
  let (arguments, rest) ← Sql.readEnclosed ')' (← skip "(".toList rest)
  return (routine, arguments, rest)

/-- An access that the authority routine is asked about, by a tenant that is named, to a table
with a schema. -/
structure Access where
  tenant : String
  command : Command
  clause : Clause
  schema : String
  table : String

namespace Access

/-- The question. -/
def call (a : Access) (r : Routine) : String :=
  r.callHasAuthority (.text a.tenant) a.command a.clause
    { schema := some a.schema, name := a.table }

/-- The values that are handed over. -/
def arguments (a : Access) : List String :=
  [a.tenant, a.command.word, a.clause.word, a.table, a.schema]

theorem readCall_call (a : Access) (r : Routine) :
    readCall (a.call r).toList = some (r.name, a.arguments, []) := by
  have hcall : (a.call r).toList = r.name.render.toList ++ ("(".toList ++
      ((Sql.commaList (a.arguments.map Sql.literal)).toList ++ [')'])) := by
    simp [call, Routine.callHasAuthority, Routine.call, arguments, Argument.render,
      Routine.tableSchema]
  have hopen : Sql.EndsName ("(".toList ++
      ((Sql.commaList (a.arguments.map Sql.literal)).toList ++ [')'])) :=
    Sql.endsName_cons (by decide) (by decide) _
  have hname := Sql.readQualified_render r.name hopen (by simp)
  have hlist := Sql.readEnclosed_commaList ')' (by decide) (by decide) a.arguments []
  simp only [readCall, hcall, hname, hlist, Option.bind_eq_bind, Option.bind_some, skip_append,
    Option.pure_def]

theorem arguments_injective : Function.Injective arguments := by
  rintro ⟨tenant, command, clause, schema, table⟩ ⟨tenant', command', clause', schema', table'⟩ h
  simp only [arguments, List.cons.injEq, and_true] at h
  obtain ⟨rfl, hcommand, hclause, rfl, rfl⟩ := h
  obtain rfl : command = command' := by
    cases command <;> cases command' <;> first | rfl | simp [Command.word] at hcommand
  obtain rfl : clause = clause' := by
    cases clause <;> cases clause' <;> first | rfl | simp [Clause.word] at hclause
  rfl

theorem call_injective (r : Routine) : Function.Injective fun a : Access => a.call r := by
  intro a a' hcall
  have hread := a.readCall_call r
  have hsame : a.call r = a'.call r := hcall
  rw [hsame, a'.readCall_call r] at hread
  apply arguments_injective
  simpa [eq_comm] using hread

end Access

/-- The blacklist is read back from the body of its routine, whatever its values are, so each
blacklist gives a script of its own. A question to the authority routine is read back as well, so no
two accesses are asked about in one and the same way. -/
theorem literals_read :
    (∀ (name : QualifiedName) (type : String) (blacklist : List String),
      readBlacklist (Routine.isValidTenant name type blacklist).body.toList =
        some (blacklist, s!"::{type}[])".toList)) ∧
    (∀ (name : QualifiedName) (type : String),
      Function.Injective fun blacklist => (Routine.isValidTenant name type blacklist).create) ∧
    (∀ (a : Access) (r : Routine), readCall (a.call r).toList = some (r.name, a.arguments, [])) ∧
    ∀ r : Routine, Function.Injective fun a : Access => a.call r :=
  ⟨Routine.readBlacklist_isValidTenant, Routine.create_isValidTenant_injective,
    Access.readCall_call, Access.call_injective⟩

/-- A value with all that stands between two constants is one value. -/
example :
    let blacklist := ["', '", "]", "", "a\nb"]
    readBlacklist (Routine.isValidTenant { name := "f" } "TEXT" blacklist).body.toList =
      some (blacklist, "::TEXT[])".toList) := by
  decide +kernel

end Tenancy
