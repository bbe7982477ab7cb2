import Mathlib.Data.List.Infix
import Tenancy.Proofs.Sql.Reader
import Tenancy.Sql.QualifiedName

/-!
# The mark around a body

The body of a routine stands between two `$$` marks, and a server takes everything up to the next
`$$` for the body, quotation marks or not. Names and text constants are written with their own
marks doubled, which neither takes a `$$` out of them nor puts one in, so a body holds the mark
exactly when a name or value in it does.
-/

namespace Tenancy.Sql

/-- The mark, as it stands in a script. -/
abbrev bodyMark : List Char := ['$', '$']

/-- Whether the mark occurs in a text. -/
def HoldsMark (text : String) : Prop := bodyMark <:+: text.toList

instance : DecidablePred HoldsMark := fun text =>
  inferInstanceAs (Decidable (bodyMark <:+: text.toList))

/-! ## Reading up to the mark -/

/-- Reads up to the first mark: what stands before it, and what follows it. -/
def readBody : List Char → Option (List Char × List Char)
  | a :: b :: rest =>
    if a = '$' ∧ b = '$' then some ([], rest)
    else (readBody (b :: rest)).map fun (body, after) => (a :: body, after)
  | _ => none

theorem mark_infix_cons {x : Char} {l : List Char} :
    bodyMark <:+: x :: l ↔ (x = '$' ∧ l.head? = some '$') ∨ bodyMark <:+: l := by
  rw [List.infix_cons_iff]
  cases l with
  | nil => simp
  | cons y rest => simp [eq_comm]

/-- A text that comes to the mark only where it ends is read as it stands. -/
theorem readBody_append {body : List Char} (h : ¬ bodyMark <:+: body ++ ['$'])
    (after : List Char) : readBody (body ++ '$' :: '$' :: after) = some (body, after) := by
  induction body with
  | nil => rfl
  | cons a rest ih =>
    rw [List.cons_append, mark_infix_cons, not_or] at h
    cases rest with
    | nil =>
      have ha : a ≠ '$' := fun ha => h.1 ⟨ha, rfl⟩
      simp [readBody, ha]
    | cons b rest =>
      have hab : ¬ (a = '$' ∧ b = '$') := fun hab => h.1 ⟨hab.1, by simp [hab.2]⟩
      show (if a = '$' ∧ b = '$' then _ else _) = _
      rw [if_neg hab]
      show (readBody ((b :: rest) ++ '$' :: '$' :: after)).map _ = _
      rw [ih h.2]
      rfl

/-- What is read is followed by the mark, and does not hold it. -/
theorem readBody_spec {text body after : List Char} (h : readBody text = some (body, after)) :
    text = body ++ '$' :: '$' :: after ∧ ¬ bodyMark <:+: body := by
  induction text generalizing body with
  | nil => cases h
  | cons a rest ih =>
    cases rest with
    | nil => cases h
    | cons b rest =>
      unfold readBody at h
      by_cases hab : a = '$' ∧ b = '$'
      · rw [if_pos hab] at h
        cases h
        simp [hab]
      · rw [if_neg hab] at h
        obtain ⟨⟨tail, after'⟩, hread, heq⟩ := Option.map_eq_some_iff.mp h
        cases heq
        obtain ⟨htext, hfree⟩ := ih hread
        refine ⟨by rw [htext]; rfl, ?_⟩
        rw [mark_infix_cons]
        rintro (⟨ha, hhead⟩ | hin)
        · -- the body would go on with `b`, which is no dollar sign
          cases tail with
          | nil => cases hhead
          | cons c tail =>
            cases hhead
            cases htext
            exact hab ⟨ha, rfl⟩
        · exact hfree hin

/-! ## Joins -/

/-- The mark does not come about where two texts are joined, unless a dollar sign stands on either
side. -/
theorem mark_infix_append_iff {a b : List Char}
    (h : a.getLast? ≠ some '$' ∨ b.head? ≠ some '$') :
    bodyMark <:+: a ++ b ↔ bodyMark <:+: a ∨ bodyMark <:+: b := by
  induction a with
  | nil => simp
  | cons x rest ih =>
    rw [List.cons_append, mark_infix_cons, mark_infix_cons]
    cases rest with
    | nil =>
      have hjoint : ¬ (x = '$' ∧ b.head? = some '$') := by
        rintro ⟨rfl, hb⟩
        rcases h with h | h
        · exact h rfl
        · exact h hb
      simp [hjoint]
    | cons y rest =>
      have hrest := ih (by simpa [List.getLast?_cons_cons] using h)
      rw [hrest, or_assoc]
      rfl

/-- A fixed text that keeps the mark from coming about beside it, and does not hold it. -/
def Guards (text : String) : Prop :=
  text.toList.head? ≠ some '$' ∧ text.toList.getLast? ≠ some '$' ∧ text ≠ "" ∧ ¬ HoldsMark text

instance : DecidablePred Guards := fun text =>
  inferInstanceAs (Decidable (_ ∧ _ ∧ _ ∧ ¬ HoldsMark text))

theorem holdsMark_append {a b : String}
    (h : a.toList.getLast? ≠ some '$' ∨ b.toList.head? ≠ some '$') :
    HoldsMark (a ++ b) ↔ HoldsMark a ∨ HoldsMark b := by
  unfold HoldsMark
  rw [String.toList_append]
  exact mark_infix_append_iff h

theorem Guards.append_iff {fixed : String} (h : Guards fixed) (text : String) :
    HoldsMark (fixed ++ text) ↔ HoldsMark text := by
  rw [holdsMark_append (.inl h.2.1)]
  simp [h.2.2.2]

theorem Guards.iff_append {fixed : String} (h : Guards fixed) (text : String) :
    HoldsMark (text ++ fixed) ↔ HoldsMark text := by
  rw [holdsMark_append (.inr h.1)]
  simp [h.2.2.2]

theorem Guards.between_iff {fixed : String} (h : Guards fixed) (before after : String) :
    HoldsMark (before ++ (fixed ++ after)) ↔ HoldsMark before ∨ HoldsMark after := by
  have hhead : (fixed ++ after).toList.head? ≠ some '$' := by
    rw [String.toList_append, List.head?_append_of_ne_nil]
    · exact h.1
    · exact fun hnil => h.2.2.1 (String.toList_inj.mp hnil)
  rw [holdsMark_append (.inr hhead), h.append_iff]

/-- A list holds the mark when an item does. -/
theorem Guards.intercalate_iff {fixed : String} (h : Guards fixed) (items : List String) :
    HoldsMark (fixed.intercalate items) ↔ ∃ item ∈ items, HoldsMark item := by
  induction items with
  | nil => simp [HoldsMark]
  | cons item rest ih =>
    cases rest with
    | nil => simp
    | cons next rest =>
      rw [String.intercalate_cons_cons, String.append_assoc, h.between_iff, ih]
      simp only [List.mem_cons, exists_eq_or_imp]

/-! ## Names and values -/

theorem head?_doubled (mark : Char) (text : List Char) :
    (doubled mark text).head? = text.head? := by
  cases text with
  | nil => rfl
  | cons c rest => by_cases hc : c = mark <;> simp [hc]

/-- Doubling another mark leaves dollar signs alone. -/
theorem mark_infix_doubled {mark : Char} (hmark : mark ≠ '$') (text : List Char) :
    bodyMark <:+: doubled mark text ↔ bodyMark <:+: text := by
  induction text with
  | nil => rfl
  | cons c rest ih =>
    rw [doubled_cons, mark_infix_cons]
    by_cases hc : c = mark
    · subst hc
      simp [mark_infix_cons, hmark, ih]
    · simp [mark_infix_cons, hc, head?_doubled, ih]

theorem holdsMark_quoted {mark : Char} (hmark : mark ≠ '$') (text : String) :
    HoldsMark (quoted mark text) ↔ HoldsMark text := by
  unfold HoldsMark
  rw [toList_quoted, mark_infix_cons]
  -- the quotation mark at the end is no dollar sign either
  have hend : bodyMark <:+: doubled mark text.toList ++ [mark] ↔
      bodyMark <:+: doubled mark text.toList := by
    rw [mark_infix_append_iff (.inr (by simpa using hmark))]
    simp [mark_infix_cons]
  simp [hmark, hend, mark_infix_doubled hmark]

@[simp] theorem holdsMark_literal (value : String) : HoldsMark (literal value) ↔ HoldsMark value :=
  holdsMark_quoted (by decide) value

@[simp] theorem holdsMark_identifier (name : String) :
    HoldsMark (identifier name) ↔ HoldsMark name := by
  unfold identifier
  by_cases h : requiresQuoting name = true
  · rw [if_pos h]
    exact holdsMark_quoted (by decide) name
  · rw [if_neg h]

end Tenancy.Sql

namespace Tenancy

/-- The names that a qualified name is made of. -/
def QualifiedName.names (q : QualifiedName) : List String := q.schema.toList ++ [q.name]

theorem QualifiedName.holdsMark_render (q : QualifiedName) :
    Sql.HoldsMark q.render ↔ ∃ name ∈ q.names, Sql.HoldsMark name := by
  obtain ⟨schema, name⟩ := q
  cases schema with
  | none => simp [render, names]
  | some schema =>
    have hdot : Sql.Guards "." := by decide +kernel
    have hrender : render ⟨some schema, name⟩ =
        Sql.identifier schema ++ ("." ++ Sql.identifier name) := by
      simp [render, String.append_assoc]
    rw [hrender, hdot.between_iff]
    simp [names]

end Tenancy
