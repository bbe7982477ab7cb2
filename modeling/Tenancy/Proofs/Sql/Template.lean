import Tenancy.Proofs.Sql.Reader
import Tenancy.Sql.QualifiedName

/-!
# Templates

A script that is made from names and values is a template: fixed text with slots in it. When the
fixed text leaves the reader between tokens wherever a slot begins, and goes on with something
that cannot run on from the slot wherever one ends (`Template.isSound`), the script reads as the
fixed tokens with one token for each name or value, whatever these are. No slot is left, so
nothing put into one can become a part of the statement around it.
-/

namespace Tenancy.Sql

/-! ## Slots -/

/-- What is put into a template. -/
inductive Slot where
  | name (text : String)
  | qualified (q : QualifiedName)
  | literal (value : String)
deriving DecidableEq, Repr, Inhabited

namespace Slot

def render : Slot → String
  | name text => identifier text
  | qualified q => q.render
  | literal value => Sql.literal value

/-- The name or value that the slot is given. -/
def tokens : Slot → List Token
  | name text => [.identifier text]
  | qualified ⟨some schema, text⟩ => [.identifier schema, .symbol '.', .identifier text]
  | qualified ⟨none, text⟩ => [.identifier text]
  | literal value => [.text value]

/-- A slot reads as what it is given, before anything that cannot run on from it. -/
theorem read_render (s : Slot) {rest : List Char} (h : Breaks rest) :
    Mode.between.read (s.render.toList ++ rest) =
      (Mode.between.read rest).map (s.tokens ++ ·) := by
  cases s with
  | name text => exact read_identifier text h
  | literal value => exact read_literal value h
  | qualified q =>
    obtain ⟨schema, name⟩ := q
    cases schema with
    | none => exact read_identifier name h
    | some schema =>
      have hdot : Breaks ('.' :: ((identifier name).toList ++ rest)) := by
        intro c hc
        cases hc
        decide
      have hread : Mode.between.read ('.' :: ((identifier name).toList ++ rest)) =
          (Mode.between.read ((identifier name).toList ++ rest)).map (.symbol '.' :: ·) :=
        Mode.read_append .between ['.'] _
      have hrender : (render (.qualified ⟨some schema, name⟩)).toList =
          (identifier schema).toList ++ '.' :: (identifier name).toList := by
        simp [render, QualifiedName.render]
      rw [hrender, List.append_assoc, List.cons_append, read_identifier schema hdot, hread,
        read_identifier name h]
      simp [tokens, Function.comp_def]

theorem semicolon_not_mem_tokens (s : Slot) : .symbol ';' ∉ s.tokens := by
  cases s with
  | name text => simp [tokens]
  | literal value => simp [tokens]
  | qualified q =>
    obtain ⟨schema, name⟩ := q
    cases schema <;> simp [tokens]

end Slot

/-! ## Templates -/

/-- A piece of a template. -/
inductive Part where
  | fixed (text : String)
  | slot (s : Slot)
deriving DecidableEq, Repr, Inhabited

namespace Part

abbrev name (text : String) : Part := slot (.name text)

abbrev qualified (q : QualifiedName) : Part := slot (.qualified q)

abbrev literal (value : String) : Part := slot (.literal value)

/-- The piece as it stands in a script. -/
def render : Part → String
  | fixed text => text
  | slot s => s.render

/-- The tokens of the piece: those of a fixed text read on its own, or what a slot is given. -/
def tokens : Part → List Token
  | fixed text => (tokens? text).getD []
  | slot s => s.tokens

@[simp] theorem render_fixed (text : String) : (fixed text).render = text := rfl

@[simp] theorem render_name (text : String) : (name text).render = identifier text := rfl

@[simp] theorem render_qualified (q : QualifiedName) : (qualified q).render = q.render := rfl

@[simp] theorem render_literal (value : String) :
    (literal value).render = Sql.literal value := rfl

end Part

/-- A statement, up to the semicolon that ends it. -/
abbrev Template := List Part

namespace Template

@[simp] def render : Template → String
  | [] => ""
  | part :: rest => part.render ++ render rest

def tokens (t : Template) : List Token := t.flatMap Part.tokens

/-- The script of the statement. -/
def script (t : Template) : String := t.render ++ ";"

theorem render_append (a b : Template) : render (a ++ b) = a.render ++ b.render := by
  induction a with
  | nil => simp
  | cons part rest ih => simp [ih, String.append_assoc]

/-! ## Soundness -/

/-- Whether a fixed text that `rest` follows leaves the reader between tokens. At the end of the
template it may also leave it in a word. -/
def isClosed (text : String) (rest : Template) : Bool :=
  match (Mode.between.feed text.toList).2 with
  | .between => true
  | .word _ => rest.isEmpty
  | _ => false

/-- Whether the template is at its end or goes on with a text that cannot run on from a slot. -/
def endsSlot : Template → Bool
  | [] => true
  | .slot _ :: _ => false
  | .fixed text :: _ =>
    match text.toList with
    | [] => false
    | c :: _ => !extendsWord c && !isMark c

/-- Whether every slot begins and ends where the fixed text lets it, and the fixed text holds no
semicolon. -/
def isSound : Template → Bool
  | [] => true
  | .slot _ :: rest => endsSlot rest && isSound rest
  | .fixed text :: rest => !text.toList.contains ';' && isClosed text rest && isSound rest

/-- Whether what follows the template could run on from it: it ends with a slot or in a word. -/
def isOpen : Template → Bool
  | [] => false
  | [.slot _] => true
  | [.fixed text] => (Mode.between.feed text.toList).2 != .between
  | _ :: rest => isOpen rest

theorem isOpen_of_rest {part : Part} {rest : Template} (h : rest.isOpen = true) :
    isOpen (part :: rest) = true := by
  cases rest with
  | nil => cases h
  | cons next rest => cases part <;> exact h

/-- Sound templates may be joined where the first one is at an end. -/
theorem isSound_append {a b : Template} (ha : a.isSound = true) (hopen : a.isOpen = false)
    (hb : b.isSound = true) : isSound (a ++ b) = true := by
  induction a with
  | nil => exact hb
  | cons part rest ih =>
    have hrest : isOpen rest = false := by
      cases hopen' : isOpen rest with
      | false => rfl
      | true => rw [isOpen_of_rest hopen'] at hopen; cases hopen
    cases part with
    | slot s =>
      simp only [List.cons_append, isSound, Bool.and_eq_true] at ha ⊢
      refine ⟨?_, ih ha.2 hrest⟩
      cases rest with
      | nil => cases hopen
      | cons next rest => cases next <;> exact ha.1
    | fixed text =>
      simp only [List.cons_append, isSound, Bool.and_eq_true] at ha ⊢
      refine ⟨⟨ha.1.1, ?_⟩, ih ha.2 hrest⟩
      have hclosed := ha.1.2
      unfold isClosed at hclosed ⊢
      cases hmode : (Mode.between.feed text.toList).2 with
      | between => rfl
      | word read =>
        -- only the last text may end in a word, and then the template is not at an end
        rw [hmode] at hclosed
        obtain rfl : rest = [] := by simpa using hclosed
        simp [isOpen, hmode] at hopen
      | _ =>
        rw [hmode] at hclosed
        cases hclosed

/-! ## Reading a template -/

theorem breaks_of_endsSlot {t : Template} (h : t.endsSlot = true) {after : List Char}
    (hafter : t = [] → Breaks after) : Breaks (t.render.toList ++ after) := by
  cases t with
  | nil => simpa using hafter rfl
  | cons part rest =>
    cases part with
    | slot s => cases h
    | fixed text =>
      cases htext : text.toList with
      | nil => simp [endsSlot, htext] at h
      | cons c chars =>
        intro d hd
        have hd : c = d := by simpa [htext] using hd
        subst hd
        simpa [endsSlot, htext] using h

/-- A fixed text reads as it does on its own. -/
theorem read_fixed {text : String} {rest : Template} (h : isClosed text rest = true)
    {after : List Char} (hafter : rest = [] → isOpen [.fixed text] = true → Breaks after) :
    Mode.between.read (text.toList ++ after) =
      (Mode.between.read after).map ((Part.fixed text).tokens ++ ·) := by
  rw [Mode.read_append]
  simp only [Part.tokens, tokens?, Mode.read]
  unfold isClosed at h
  cases hmode : (Mode.between.feed text.toList).2 with
  | between => simp [Mode.finish]
  | word read =>
    rw [hmode] at h
    have hbreaks : Breaks after := hafter (by simpa using h) (by simp [isOpen, hmode])
    have hread : (Mode.word read).read after = _ := Mode.read_word hbreaks
    unfold Mode.read at hread
    rw [hread]
    simp [Mode.finish, Function.comp_def]
  | _ =>
    rw [hmode] at h
    cases h

/-- What follows a sound template is read as if it stood alone, and the template as its own tokens
whatever its slots hold. -/
theorem read_render {t : Template} (h : t.isSound = true) {after : List Char}
    (hafter : t.isOpen = true → Breaks after) :
    Mode.between.read (t.render.toList ++ after) =
      (Mode.between.read after).map (t.tokens ++ ·) := by
  induction t with
  | nil => simp [tokens]
  | cons part rest ih =>
    -- what could run on from the rest could run on from the whole
    have hrest : isSound rest = true →
        Mode.between.read ((render rest).toList ++ after) =
          (Mode.between.read after).map (tokens rest ++ ·) :=
      fun hsound => ih hsound fun hopen => hafter (isOpen_of_rest hopen)
    rw [render, String.toList_append, List.append_assoc]
    cases part with
    | slot s =>
      rw [isSound, Bool.and_eq_true] at h
      have hbreaks : Breaks ((render rest).toList ++ after) :=
        breaks_of_endsSlot h.1 fun hnil => hafter (by rw [hnil]; rfl)
      rw [Part.render, s.read_render hbreaks, hrest h.2]
      simp [tokens, Part.tokens, Function.comp_def]
    | fixed text =>
      rw [isSound, Bool.and_eq_true, Bool.and_eq_true] at h
      have hlast : rest = [] → isOpen [.fixed text] = true →
          Breaks ((render rest).toList ++ after) := by
        rintro rfl hopen
        simpa using hafter hopen
      rw [Part.render, read_fixed h.1.2 hlast, hrest h.2]
      simp [tokens, Function.comp_def]

/-- A sound template has no semicolon of its own. -/
theorem semicolon_not_mem_tokens {t : Template} (h : t.isSound = true) :
    .symbol ';' ∉ t.tokens := by
  induction t with
  | nil => simp [tokens]
  | cons part rest ih =>
    show _ ∉ part.tokens ++ tokens rest
    rw [List.mem_append, not_or]
    cases part with
    | slot s =>
      rw [isSound, Bool.and_eq_true] at h
      exact ⟨s.semicolon_not_mem_tokens, ih h.2⟩
    | fixed text =>
      rw [isSound, Bool.and_eq_true, Bool.and_eq_true] at h
      refine ⟨fun hmem => ?_, ih h.2⟩
      have hin : ';' ∈ text.toList := mem_of_symbol_mem_tokens? hmem
      simp [hin] at h

/-- The script reads as the template, ended by its only semicolon. -/
def ReadsAs (script : String) (t : Template) : Prop :=
  tokens? script = some (t.tokens ++ [.symbol ';']) ∧ .symbol ';' ∉ t.tokens

theorem readsAs_script {t : Template} (h : t.isSound = true) : ReadsAs t.script t := by
  refine ⟨?_, semicolon_not_mem_tokens h⟩
  have hend : Breaks [';'] := by
    intro c hc
    cases hc
    decide
  unfold tokens? script
  rw [String.toList_append]
  exact read_render h fun _ => hend

/-- Whatever follows a sound template that is at an end is read on its own. -/
theorem tokens?_append {t : Template} (h : t.isSound = true) (hopen : t.isOpen = false)
    (sql : String) : tokens? (t.render ++ sql) = (tokens? sql).map (t.tokens ++ ·) := by
  unfold tokens?
  rw [String.toList_append]
  exact read_render h fun hopen' => by simp [hopen] at hopen'

end Template

end Tenancy.Sql
