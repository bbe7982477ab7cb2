import Tenancy.Proofs.Sql.Reader
import Tenancy.Sql.QualifiedName

/-!
# Reading names and values back

Where a statement has a name, a server takes a word as far as it goes and folds it, or takes a
delimited name up to the mark that closes it; where it has a text constant, it takes that. The
readers below do the same with whatever follows. A written name or value is read back as it was
and leaves what follows, as long as that cannot run on from it, so nothing else is written the same
way (`decodable`).
-/

namespace Tenancy.Sql

/-! ## Readers -/

/-- Reads on after an opening mark: the text up to the mark that closes it, where a doubled mark
stands for one, and what follows. -/
def readMarked (mark : Char) : List Char → Option (List Char × List Char)
  | [] => none
  | c :: rest =>
    if c = mark then
      match rest with
      | [] => some ([], [])
      | d :: tail =>
        if d = mark then (readMarked mark tail).map fun (text, after) => (mark :: text, after)
        else some ([], d :: tail)
    else (readMarked mark rest).map fun (text, after) => (c :: text, after)

/-- Reads a text constant. -/
def readLiteral : List Char → Option (String × List Char)
  | '\'' :: rest => (readMarked '\'' rest).map fun (value, after) => (String.ofList value, after)
  | _ => none

/-- Reads a name. A bare one goes as far as a word does, and is folded; a reserved word is no
name. -/
def readName : List Char → Option (String × List Char)
  | [] => none
  | c :: rest =>
    if c = '"' then
      (readMarked '"' rest).map fun (name, after) => (String.ofList name, after)
    else if startsWord c then
      match wordToken (c :: rest.takeWhile extendsWord) with
      | .identifier name => some (name, rest.dropWhile extendsWord)
      | _ => none
    else none

/-- Reads a name, and another one after a dot if there is a dot. -/
def readQualified (text : List Char) : Option (QualifiedName × List Char) := do
  let (first, after) ← readName text
  match after with
  | '.' :: rest =>
    let (second, after) ← readName rest
    return ({ schema := some first, name := second }, after)
  | _ => return ({ name := first }, after)

/-- What a name cannot run on into: the end, or a character that neither goes on with a word nor
doubles the mark of a delimited name. -/
def EndsName (text : List Char) : Prop := ∀ c ∈ text.head?, extendsWord c = false ∧ c ≠ '"'

instance : DecidablePred EndsName
  | [] => .isTrue fun _ hc => nomatch hc
  | c :: _ => decidable_of_iff (extendsWord c = false ∧ c ≠ '"') (by simp [EndsName])

theorem endsName_cons {c : Char} (hword : extendsWord c = false) (hmark : c ≠ '"')
    (rest : List Char) : EndsName (c :: rest) := by
  intro d hd
  cases hd
  exact ⟨hword, hmark⟩

/-! ## Marked texts -/

theorem readMarked_of_ne {mark c : Char} (hc : c ≠ mark) (rest : List Char) :
    readMarked mark (c :: rest) =
      (readMarked mark rest).map fun (text, after) => (c :: text, after) := by
  cases rest <;> simp [readMarked, hc]

/-- A text with its marks doubled is read up to the mark after it. -/
theorem readMarked_doubled {mark : Char} (text : List Char) {rest : List Char}
    (h : rest.head? ≠ some mark) :
    readMarked mark (doubled mark text ++ mark :: rest) = some (text, rest) := by
  induction text with
  | nil =>
    cases rest with
    | nil => simp [readMarked]
    | cons d tail =>
      have hd : d ≠ mark := by simpa using h
      simp [readMarked, hd]
  | cons c text ih =>
    by_cases hc : c = mark
    · subst hc
      simp [readMarked, ih]
    · simp [readMarked_of_ne hc, hc, ih]

theorem readLiteral_literal (value : String) {rest : List Char} (h : rest.head? ≠ some '\'') :
    readLiteral ((literal value).toList ++ rest) = some (value, rest) := by
  unfold literal
  rw [toList_quoted, List.cons_append, List.append_assoc, List.singleton_append, readLiteral,
    readMarked_doubled value.toList h]
  simp

/-! ## Names -/

/-- A word is read up to the end of its characters, and no further. -/
theorem span_word {text rest : List Char} (htext : ∀ c ∈ text, extendsWord c = true)
    (hrest : EndsName rest) :
    (text ++ rest).takeWhile extendsWord = text ∧ (text ++ rest).dropWhile extendsWord = rest := by
  rw [List.takeWhile_append_of_pos htext, List.dropWhile_append_of_pos htext]
  cases rest with
  | nil => simp
  | cons c tail =>
    have hc := (hrest c rfl).1
    simp [hc]

theorem readName_bare {name : String} (hbare : requiresQuoting name = false) {rest : List Char}
    (h : EndsName rest) : readName (name.toList ++ rest) = some (name, rest) := by
  obtain ⟨⟨c, text, hname, hopens, htext⟩, -⟩ := bare_of_not_requiresQuoting hbare
  have hstarts := (opensWord_le hopens).1
  have hmark : c ≠ '"' := by
    rintro rfl
    cases hstarts
  obtain ⟨htake, hdrop⟩ := span_word (fun d hd => (extendsWord_of_continuesWord (htext d hd)).1) h
  have hword := (wordToken_of_bare hbare).2
  rw [hname] at hword ⊢
  simp [readName, hmark, hstarts, htake, hdrop, hword]

/-- A written name is read back, whichever way it is written. -/
theorem readName_identifier (name : String) {rest : List Char} (h : EndsName rest) :
    readName ((identifier name).toList ++ rest) = some (name, rest) := by
  unfold identifier
  by_cases hquoting : requiresQuoting name = true
  · have hmark : rest.head? ≠ some '"' := fun hhead => (h '"' hhead).2 rfl
    rw [if_pos hquoting, quotedIdentifier, toList_quoted, List.cons_append, List.append_assoc,
      List.singleton_append, readName, readMarked_doubled name.toList hmark]
    simp
  · rw [if_neg hquoting]
    exact readName_bare (by simpa using hquoting) h

/-- A name that is written without marks is a word that the server takes as it stands. -/
theorem identifier_bare {name : String} (h : (identifier name).toList.head? ≠ some '"') :
    identifier name = name ∧ name.map Char.toLower = name ∧
      name.map Char.toUpper ∉ reservedWords := by
  unfold identifier at h ⊢
  by_cases hquoting : requiresQuoting name = true
  · simp [hquoting, quotedIdentifier] at h
  · have hbare : requiresQuoting name = false := by simpa using hquoting
    have hreserved : isReserved name = false := by
      simp only [requiresQuoting, Bool.or_eq_false_iff] at hbare
      exact hbare.2
    rw [if_neg hquoting]
    refine ⟨rfl, ?_, by simpa [isReserved] using hreserved⟩
    rw [← String.toList_inj, String.toList_map]
    exact (wordToken_of_bare hbare).1

/-! ## Qualified names -/

/-- The dot between schema and name is the first one outside marks. -/
theorem readQualified_render (q : QualifiedName) {rest : List Char} (h : EndsName rest)
    (hdot : rest.head? ≠ some '.') : readQualified (q.render.toList ++ rest) = some (q, rest) := by
  obtain ⟨schema, name⟩ := q
  cases schema with
  | none =>
    have hread := readName_identifier name h
    cases rest with
    | nil => simp_all [readQualified, QualifiedName.render]
    | cons c tail =>
      have hc : c ≠ '.' := by simpa using hdot
      simp [readQualified, QualifiedName.render, hread, hc]
  | some schema =>
    have hend : EndsName ('.' :: ((identifier name).toList ++ rest)) :=
      endsName_cons (by decide) (by decide) _
    simp [readQualified, QualifiedName.render, readName_identifier schema hend,
      readName_identifier name h]

/-- A written name tells the name, and where it ends. -/
theorem render_append_inj {q q' : QualifiedName} {rest rest' : List Char}
    (h : EndsName rest) (hdot : rest.head? ≠ some '.') (h' : EndsName rest')
    (hdot' : rest'.head? ≠ some '.')
    (heq : q.render.toList ++ rest = q'.render.toList ++ rest') : q = q' ∧ rest = rest' := by
  have hread := readQualified_render q h hdot
  rw [heq, readQualified_render q' h' hdot'] at hread
  simpa [eq_comm] using hread

theorem render_injective : Function.Injective QualifiedName.render := by
  intro q q' h
  have hend : EndsName [] := by simp [EndsName]
  exact (render_append_inj hend (by simp) hend (by simp) (by rw [h])).1

/-! ## Decoding -/

/-- Whatever is written, and whatever follows that cannot run on from it, reading gives what was
written and leaves what follows. A name stands without marks only if folding leaves it alone and
it is no reserved word. So no two qualified names are written alike. -/
theorem decodable :
    (∀ (name : String) (rest : List Char), EndsName rest →
      readName ((identifier name).toList ++ rest) = some (name, rest)) ∧
    (∀ name : String, (identifier name).toList.head? ≠ some '"' →
      identifier name = name ∧ name.map Char.toLower = name ∧
        name.map Char.toUpper ∉ reservedWords) ∧
    (∀ (value : String) (rest : List Char), rest.head? ≠ some '\'' →
      readLiteral ((literal value).toList ++ rest) = some (value, rest)) ∧
    (∀ (q : QualifiedName) (rest : List Char), EndsName rest → rest.head? ≠ some '.' →
      readQualified (q.render.toList ++ rest) = some (q, rest)) ∧
    Function.Injective QualifiedName.render :=
  ⟨fun name _ h => readName_identifier name h, fun _ h => identifier_bare h,
    fun value _ h => readLiteral_literal value h, fun q _ h hdot => readQualified_render q h hdot,
    render_injective⟩

theorem decodable_marks :
    EndsName " rt".toList ∧
      readName ((identifier "a\"\"b.c").toList ++ " rt".toList) =
        some ("a\"\"b.c", " rt".toList) ∧
      (identifier "col$1").toList.head? ≠ some '"' ∧ identifier "col$1" = "col$1" ∧
      readLiteral ((literal "it''s").toList ++ "\", ".toList) = some ("it''s", "\", ".toList) ∧
      readQualified ((QualifiedName.mk (some "a.b") "Order").render.toList ++ " rt".toList) =
        some ({ schema := some "a.b", name := "Order" }, " rt".toList) := by
  have hend : EndsName " rt".toList := by decide +kernel
  have hbare : (identifier "col$1").toList.head? ≠ some '"' := by decide +kernel
  obtain ⟨hname, hword, hliteral, hqualified, -⟩ := decodable
  exact ⟨hend, hname "a\"\"b.c" _ hend, hbare, (hword "col$1" hbare).1,
    hliteral "it''s" _ (by decide +kernel),
    hqualified { schema := some "a.b", name := "Order" } _ hend (by decide +kernel)⟩

/-- A bare name is folded, and a dot inside marks is no dot between schema and name. -/
example : readQualified "Sales.\"Q.1\" q".toList =
    some ({ schema := some "sales", name := "Q.1" }, " q".toList) := by
  decide +kernel

end Tenancy.Sql
