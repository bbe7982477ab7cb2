import Tenancy.Proofs.Sql.Decoding

/-!
# Key words of the server

Where a table or a column is named, the server refuses more words than the rule for bare names
knows of. Beside its reserved words it has a class of words that functions and types may be called
by and nothing else: `left` or `like` is refused there as `select` is. A written name is read back
as it was unless it is one of the words that the rule passes over, and those are written bare and
refused (`tableName_read`). The limit on the length of names is left out, as it is the same for bare
and for delimited names.
-/

namespace Tenancy.Sql

/-! ## The table of key words -/

/-- The words that the server lists as reserved, folded. -/
def serverReserved : List String :=
  ["all", "analyse", "analyze", "and", "any", "array", "as", "asc", "asymmetric", "both", "case",
    "cast", "check", "collate", "column", "constraint", "create", "current_catalog",
    "current_date", "current_role", "current_time", "current_timestamp", "current_user",
    "default", "deferrable", "desc", "distinct", "do", "else", "end", "except", "false", "fetch",
    "for", "foreign", "from", "grant", "group", "having", "in", "initially", "intersect", "into",
    "lateral", "leading", "limit", "localtime", "localtimestamp", "not", "null", "offset", "on",
    "only", "or", "order", "placing", "primary", "references", "returning", "select",
    "session_user", "some", "symmetric", "system_user", "table", "then", "to", "trailing", "true",
    "union", "unique", "user", "using", "variadic", "when", "where", "window", "with"]

/-- The words that it lists as reserved but free for functions and types. -/
def serverFunctionOrType : List String :=
  ["authorization", "binary", "collation", "concurrently", "cross", "current_schema", "freeze",
    "full", "ilike", "inner", "is", "isnull", "join", "left", "like", "natural", "notnull",
    "outer", "overlaps", "right", "similar", "tablesample", "verbose"]

/-- The words that no table or column may be called by without marks. -/
def refusedWords : List String := serverReserved ++ serverFunctionOrType

/-- Reads a name where a table or a column is named. A bare word goes as far as it can and is
folded, and a refused one is no name; a delimited name may be anything but empty. -/
def readTableName : List Char → Option (String × List Char)
  | [] => none
  | c :: rest =>
    if c = '"' then
      match readMarked '"' rest with
      | some (d :: name, after) => some (String.ofList (d :: name), after)
      | _ => none
    else if startsWord c then
      let word := String.ofList ((c :: rest.takeWhile extendsWord).map Char.toLower)
      if refusedWords.contains word then none else some (word, rest.dropWhile extendsWord)
    else none

/-! ## What the rule passes over -/

/-- The refused words that the rule for bare names does not know of. The server has all of them in
the class for functions and types but `system_user`, which it has reserved since release 16. -/
def overlookedWords : List String := "system_user" :: serverFunctionOrType

/-- The rule has every other word that the server lists as reserved, and nothing else. -/
theorem map_toUpper_serverReserved :
    (serverReserved.erase "system_user").map (·.map Char.toUpper) = reservedWords := by
  decide +kernel

/-- What the server refuses is quoted by the rule, or else passed over. -/
theorem isReserved_or_overlooked {word : String} (h : word ∈ refusedWords) :
    isReserved word = true ∨ word ∈ overlookedWords := by
  rcases List.mem_append.mp h with hreserved | hother
  · by_cases hnew : word = "system_user"
    · exact .inr (List.mem_cons.mpr (.inl hnew))
    · left
      have hmem : word ∈ serverReserved.erase "system_user" :=
        (List.mem_erase_of_ne hnew).mpr hreserved
      unfold isReserved
      rw [← map_toUpper_serverReserved, List.contains_iff_mem]
      exact List.mem_map_of_mem hmem
  · exact .inr (List.mem_cons_of_mem _ hother)

/-- A word that is passed over has the shape of a bare name, and is refused. -/
theorem requiresQuoting_of_overlooked {word : String} (h : word ∈ overlookedWords) :
    requiresQuoting word = false ∧ word ∈ refusedWords := by
  have hall : ∀ word ∈ overlookedWords, requiresQuoting word = false ∧ word ∈ refusedWords := by
    decide +kernel
  exact hall word h

/-- Among bare names the server refuses those that the rule passes over, and no others. -/
theorem mem_refusedWords_iff {name : String} (hbare : requiresQuoting name = false) :
    name ∈ refusedWords ↔ name ∈ overlookedWords := by
  refine ⟨fun hrefused => ?_, fun h => (requiresQuoting_of_overlooked h).2⟩
  simp only [requiresQuoting, Bool.or_eq_false_iff] at hbare
  rcases isReserved_or_overlooked hrefused with hreserved | h
  · rw [hbare.2] at hreserved
    cases hreserved
  · exact h

/-! ## Names of tables and columns -/

theorem readTableName_bare {name : String} (hbare : requiresQuoting name = false)
    {rest : List Char} (h : EndsName rest) :
    readTableName (name.toList ++ rest) =
      if name ∈ overlookedWords then none else some (name, rest) := by
  obtain ⟨⟨c, text, hname, hopens, htext⟩, -⟩ := bare_of_not_requiresQuoting hbare
  have hstarts := (opensWord_le hopens).1
  have hmark : c ≠ '"' := by
    rintro rfl
    cases hstarts
  obtain ⟨htake, hdrop⟩ := span_word (fun d hd => (extendsWord_of_continuesWord (htext d hd)).1) h
  -- folding leaves the word as it is
  have hfold : String.ofList ((c :: text).map Char.toLower) = name := by
    rw [← String.toList_inj, String.toList_ofList, ← hname]
    exact (wordToken_of_bare hbare).1
  rw [hname, List.cons_append, readTableName, if_neg hmark, if_pos hstarts, htake, hdrop, hfold]
  simp only [List.contains_iff_mem, mem_refusedWords_iff hbare]

/-- A name between marks is read back whatever it is, unless there is nothing between the marks. -/
theorem readTableName_quotedIdentifier {name : String} (hname : name ≠ "") {rest : List Char}
    (h : rest.head? ≠ some '"') :
    readTableName ((quotedIdentifier name).toList ++ rest) = some (name, rest) := by
  cases htext : name.toList with
  | nil => exact absurd (String.toList_inj.mp htext) hname
  | cons d text =>
    have hread := readMarked_doubled (d :: text) h
    rw [quotedIdentifier, toList_quoted, List.cons_append, List.append_assoc,
      List.singleton_append, htext, readTableName, if_pos rfl, hread]
    simp [← htext]

theorem readTableName_identifier {name : String} (hname : name ≠ "") {rest : List Char}
    (h : EndsName rest) :
    readTableName ((identifier name).toList ++ rest) =
      if name ∈ overlookedWords then none else some (name, rest) := by
  unfold identifier
  by_cases hquoting : requiresQuoting name = true
  · have hknown : name ∉ overlookedWords := fun hmem => by
      simp [(requiresQuoting_of_overlooked hmem).1] at hquoting
    have hmark : rest.head? ≠ some '"' := fun hhead => (h '"' hhead).2 rfl
    rw [if_pos hquoting, if_neg hknown, readTableName_quotedIdentifier hname hmark]
  · rw [if_neg hquoting]
    exact readTableName_bare (by simpa using hquoting) h

/-- A name is taken with its exact spelling wherever it is written bare, unless it is one of the
words that the rule for bare names passes over. Such a word is written bare, and the server refuses
it. A name between marks is taken in any case, if there is anything between them. -/
theorem tableName_read (name : String) {rest : List Char} (h : EndsName rest) :
    (((identifier name).toList.head? ≠ some '"' →
        readTableName ((identifier name).toList ++ rest) = some (name, rest)) ↔
      name ∉ overlookedWords) ∧
      (name ≠ "" → readTableName ((identifier name).toList ++ rest) =
        if name ∈ overlookedWords then none else some (name, rest)) := by
  refine ⟨⟨fun htaken hmem => ?_, fun hknown hbare => ?_⟩,
    fun hname => readTableName_identifier hname h⟩
  · -- the word is written bare, so it would be taken
    obtain ⟨hquoting, hrefused⟩ := requiresQuoting_of_overlooked hmem
    have hname : name ≠ "" := by
      rintro rfl
      exact absurd hrefused (by decide +kernel)
    have hmark : (identifier name).toList.head? ≠ some '"' := by
      obtain ⟨⟨c, text, htext, hopens, -⟩, -⟩ := bare_of_not_requiresQuoting hquoting
      have hword : (identifier name).toList = c :: text := by simp [identifier, hquoting, htext]
      rw [hword]
      rintro ⟨⟩
      cases hopens
    have hread := htaken hmark
    rw [readTableName_identifier hname h, if_pos hmem] at hread
    cases hread
  · have hname : name ≠ "" := by
      rintro rfl
      exact hbare (by decide +kernel)
    rw [readTableName_identifier hname h, if_neg hknown]

/-- Not every name that is written bare is taken: `left` is not. -/
theorem not_forall_bare_read :
    ¬ ∀ (name : String) (rest : List Char), EndsName rest →
      (identifier name).toList.head? ≠ some '"' →
      readTableName ((identifier name).toList ++ rest) = some (name, rest) := by
  intro h
  have hread := h "left" " INT".toList (by decide +kernel) (by decide +kernel)
  exact absurd hread (by decide +kernel)

theorem tableName_read_left :
    EndsName " INT".toList ∧
      readTableName ((identifier "left_side").toList ++ " INT".toList) =
        some ("left_side", " INT".toList) ∧
      readTableName ((identifier "Left").toList ++ " INT".toList) =
        some ("Left", " INT".toList) ∧
      ¬ ((identifier "left").toList.head? ≠ some '"' →
        readTableName ((identifier "left").toList ++ " INT".toList) =
          some ("left", " INT".toList)) := by
  have hend : EndsName " INT".toList := by decide +kernel
  refine ⟨hend, ?_, ?_, ?_⟩
  · exact ((tableName_read "left_side" hend).2 (by decide)).trans (if_neg (by decide +kernel))
  · exact ((tableName_read "Left" hend).2 (by decide)).trans (if_neg (by decide +kernel))
  · exact mt (tableName_read "left" hend).1.mp (not_not_intro (by decide +kernel))

end Tenancy.Sql
