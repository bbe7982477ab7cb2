import Mathlib.Data.List.Basic
import Tenancy.Sql.Identifier

/-!
# Reading scripts

The server cuts a script into tokens: words, delimited names, text constants, numbers and
symbols. The reader below does so one character at a time, so what it makes of a script is told
by what it makes of the pieces (`feed_append`). A name written by `identifier` and a value written
by `literal` each read back as one token that holds the very name or value, whatever is in it,
provided that what follows cannot run on from it (`Breaks`).
-/

namespace Tenancy.Sql

/-- A text stands in an interpolated one as it is. -/
@[simp] theorem toString_text (text : String) : toString text = text := rfl

/-! ## Tokens -/

/-- A token of a script. -/
inductive Token where
  /-- A reserved word, in upper case. -/
  | keyword (word : String)
  /-- A name. A bare one is folded to lower case and a delimited one is taken letter for letter. -/
  | identifier (name : String)
  /-- A text constant. -/
  | text (value : String)
  | number (digits : String)
  | symbol (c : Char)
deriving DecidableEq, Repr, Inhabited

/-- The characters that open a word: letters, the underscore, and everything outside ASCII. -/
def startsWord (c : Char) : Bool := c.isAlpha || c == '_' || 128 ≤ c.toNat

/-- The characters that a word goes on with. -/
def extendsWord (c : Char) : Bool := startsWord c || c.isDigit || c == '$'

def isBlank (c : Char) : Bool := [' ', '\t', '\n', '\r', '\x0b', '\x0c'].contains c

/-- The marks that enclose a text constant or a delimited name. -/
def isMark (c : Char) : Bool := c == '\'' || c == '"'

/-- What a bare word stands for. -/
def wordToken (word : List Char) : Token :=
  let upper := String.ofList (word.map Char.toUpper)
  if reservedWords.contains upper then .keyword upper
  else .identifier (String.ofList (word.map Char.toLower))

/-- What stands between two marks. -/
def markedToken (mark : Char) (content : List Char) : Token :=
  if mark = '"' then .identifier (String.ofList content) else .text (String.ofList content)

/-! ## The reader -/

/-- Where the reader is in a script. -/
inductive Mode where
  | between
  | word (read : List Char)
  | number (read : List Char)
  /-- After an opening mark. -/
  | marked (mark : Char) (read : List Char)
  /-- After a mark that closes, unless another one follows at once and the two stand for one. -/
  | closing (mark : Char) (read : List Char)
  /-- After a word that a mark follows at once, which is some other kind of constant. -/
  | unknown
deriving DecidableEq, Repr, Inhabited

namespace Mode

/-- Reads a character with which no token goes on. -/
def start (c : Char) : List Token × Mode :=
  if isBlank c then ([], between)
  else if startsWord c then ([], word [c])
  else if c.isDigit then ([], number [c])
  else if isMark c then ([], marked c [])
  else ([.symbol c], between)

/-- Reads a character: the tokens that end before it, and where the reader is after it. -/
def step : Mode → Char → List Token × Mode
  | between, c => start c
  | word read, c =>
    if extendsWord c then ([], word (read ++ [c]))
    else if isMark c then ([], unknown)
    else (wordToken read :: (start c).1, (start c).2)
  | number read, c =>
    if c.isDigit then ([], number (read ++ [c]))
    else (.number (String.ofList read) :: (start c).1, (start c).2)
  | marked mark read, c =>
    if c = mark then ([], closing mark read) else ([], marked mark (read ++ [c]))
  | closing mark read, c =>
    if c = mark then ([], marked mark (read ++ [mark]))
    else (markedToken mark read :: (start c).1, (start c).2)
  | unknown, _ => ([], unknown)

/-- The token that the end of the script ends, if the script may end here. -/
def finish : Mode → Option (List Token)
  | between => some []
  | word read => some [wordToken read]
  | number read => some [.number (String.ofList read)]
  | marked _ _ => none
  | closing mark read => some [markedToken mark read]
  | unknown => none

/-- Reads characters one after another. -/
def feed : Mode → List Char → List Token × Mode
  | m, [] => ([], m)
  | m, c :: rest =>
    ((m.step c).1 ++ ((m.step c).2.feed rest).1, ((m.step c).2.feed rest).2)

/-- Reads to the end. -/
def read (m : Mode) (text : List Char) : Option (List Token) :=
  (m.feed text).2.finish.map ((m.feed text).1 ++ ·)

end Mode

/-- The tokens of a script, or nothing when a constant in it is not closed. -/
def tokens? (script : String) : Option (List Token) := Mode.between.read script.toList

example : tokens? "DROP TABLE \"a\"\"b\", c;" = some [.identifier "drop", .keyword "TABLE",
    .identifier "a\"b", .symbol ',', .identifier "c", .symbol ';'] := by
  decide +kernel

/-! ## Reading in pieces -/

namespace Mode

theorem feed_append (m : Mode) (a b : List Char) :
    m.feed (a ++ b) = ((m.feed a).1 ++ ((m.feed a).2.feed b).1, ((m.feed a).2.feed b).2) := by
  induction a generalizing m with
  | nil => rfl
  | cons c rest ih =>
    show ((m.step c).1 ++ ((m.step c).2.feed (rest ++ b)).1,
      ((m.step c).2.feed (rest ++ b)).2) = _
    rw [ih (m.step c).2]
    simp [feed]

theorem read_append (m : Mode) (a b : List Char) :
    m.read (a ++ b) = ((m.feed a).2.read b).map ((m.feed a).1 ++ ·) := by
  unfold read
  rw [feed_append]
  simp [Function.comp_def]

/-- A word takes in every character that it can go on with. -/
theorem feed_word (read text : List Char) (h : ∀ c ∈ text, extendsWord c = true) :
    (word read).feed text = ([], word (read ++ text)) := by
  induction text generalizing read with
  | nil => simp [feed]
  | cons c rest ih =>
    have hc : (word read).step c = ([], word (read ++ [c])) := by
      simp [step, h c List.mem_cons_self]
    rw [feed, hc, ih (read ++ [c]) fun d hd => h d (List.mem_cons_of_mem c hd)]
    simp

/-- Between marks, a text with its marks doubled is taken in undoubled. -/
theorem feed_marked (mark : Char) (read text : List Char) :
    (marked mark read).feed (doubled mark text) = ([], marked mark (read ++ text)) := by
  induction text generalizing read with
  | nil => simp [feed]
  | cons c rest ih =>
    rw [doubled_cons, feed_append]
    by_cases hc : c = mark
    · subst hc
      simp [feed, step, ih]
    · simp [feed, step, hc, ih]

end Mode

/-! ## Symbols -/

theorem wordToken_ne_symbol (word : List Char) (s : Char) : wordToken word ≠ .symbol s := by
  simp only [wordToken]
  split <;> simp

theorem markedToken_ne_symbol (mark : Char) (content : List Char) (s : Char) :
    markedToken mark content ≠ .symbol s := by
  simp only [markedToken]
  split <;> simp

namespace Mode

theorem eq_of_symbol_mem_start {c s : Char} (h : .symbol s ∈ (start c).1) : s = c := by
  unfold start at h
  split at h
  · simp at h
  split at h
  · simp at h
  split at h
  · simp at h
  split at h
  · simp at h
  · simpa using h

/-- A step reads no symbol but its own character. -/
theorem eq_of_symbol_mem_step {m : Mode} {c s : Char} (h : .symbol s ∈ (m.step c).1) : s = c := by
  cases m with
  | between => exact eq_of_symbol_mem_start h
  | word read =>
    simp only [step] at h
    split at h
    · simp at h
    split at h
    · simp at h
    rcases List.mem_cons.mp h with h | h
    · exact absurd h.symm (wordToken_ne_symbol read s)
    · exact eq_of_symbol_mem_start h
  | number read =>
    simp only [step] at h
    split at h
    · simp at h
    rcases List.mem_cons.mp h with h | h
    · cases h
    · exact eq_of_symbol_mem_start h
  | marked mark read =>
    simp only [step] at h
    split at h <;> simp at h
  | closing mark read =>
    simp only [step] at h
    split at h
    · simp at h
    rcases List.mem_cons.mp h with h | h
    · exact absurd h.symm (markedToken_ne_symbol mark read s)
    · exact eq_of_symbol_mem_start h
  | unknown => simp [step] at h

/-- No symbol is read that is not there. -/
theorem mem_of_symbol_mem_feed {m : Mode} {text : List Char} {s : Char}
    (h : .symbol s ∈ (m.feed text).1) : s ∈ text := by
  induction text generalizing m with
  | nil => simp [feed] at h
  | cons c rest ih =>
    rw [feed, List.mem_append] at h
    rcases h with h | h
    · rw [eq_of_symbol_mem_step h]
      exact List.mem_cons_self
    · exact List.mem_cons_of_mem c (ih h)

theorem symbol_not_mem_finish {m : Mode} {tokens : List Token} (h : m.finish = some tokens)
    (s : Char) : .symbol s ∉ tokens := by
  cases m with
  | word read =>
    cases h
    simpa using (wordToken_ne_symbol read s).symm
  | closing mark read =>
    cases h
    simpa using (markedToken_ne_symbol mark read s).symm
  | marked mark read => cases h
  | unknown => cases h
  | _ =>
    cases h
    simp

end Mode

/-- No symbol is read in a script that is not there. -/
theorem mem_of_symbol_mem_tokens? {script : String} {s : Char}
    (h : .symbol s ∈ (tokens? script).getD []) : s ∈ script.toList := by
  unfold tokens? Mode.read at h
  cases hfinish : (Mode.between.feed script.toList).2.finish with
  | none => simp [hfinish] at h
  | some tokens =>
    rw [hfinish] at h
    rcases List.mem_append.mp h with h | h
    · exact Mode.mem_of_symbol_mem_feed h
    · exact absurd h (Mode.symbol_not_mem_finish hfinish s)

/-! ## Boundaries -/

/-- What cannot run on from a token: the end, or a character that neither goes on with a word nor
is a mark. -/
def Breaks (text : List Char) : Prop :=
  ∀ c ∈ text.head?, extendsWord c = false ∧ isMark c = false

/-- A token that has come to its end is read before anything that cannot run on from it. -/
theorem Mode.read_of_breaks {m : Mode} {token : Token} {text : List Char} (h : Breaks text)
    (hend : m.finish = some [token])
    (hstep : ∀ c, extendsWord c = false → isMark c = false →
      m.step c = (token :: (start c).1, (start c).2)) :
    m.read text = (between.read text).map (token :: ·) := by
  cases text with
  | nil =>
    show m.finish.map _ = _
    rw [hend]
    rfl
  | cons c rest =>
    obtain ⟨hword, hmark⟩ := h c (by simp)
    have hc := hstep c hword hmark
    simp [read, feed, hc, show between.step c = start c from rfl, Function.comp_def]

theorem Mode.read_word {read text : List Char} (h : Breaks text) :
    (word read).read text = (between.read text).map (wordToken read :: ·) :=
  read_of_breaks h rfl fun c hword hmark => by simp [step, hword, hmark]

theorem Mode.read_closing {mark : Char} (hopens : isMark mark = true) {read text : List Char}
    (h : Breaks text) :
    (closing mark read).read text = (between.read text).map (markedToken mark read :: ·) := by
  refine read_of_breaks h rfl fun c _ hmark => ?_
  have hne : c ≠ mark := by
    rintro rfl
    rw [hopens] at hmark
    cases hmark
  simp [step, hne]

/-! ## Marked texts -/

/-- A text enclosed in marks reads back as one token, whatever is in it. -/
theorem read_quoted (mark : Char) (hmark : isMark mark = true) (text : String) {rest : List Char}
    (h : Breaks rest) :
    Mode.between.read ((quoted mark text).toList ++ rest) =
      (Mode.between.read rest).map (markedToken mark text.toList :: ·) := by
  have hstart : Mode.between.step mark = ([], .marked mark []) := by
    rcases (by simpa [isMark] using hmark : mark = '\'' ∨ mark = '"') with rfl | rfl <;> rfl
  have hfeed : Mode.between.feed (quoted mark text).toList = ([], .closing mark text.toList) := by
    rw [toList_quoted, Mode.feed, hstart, Mode.feed_append, Mode.feed_marked]
    simp [Mode.feed, Mode.step]
  rw [Mode.read_append, hfeed, Mode.read_closing hmark h]
  simp [Function.comp_def]

theorem read_literal (value : String) {rest : List Char} (h : Breaks rest) :
    Mode.between.read ((literal value).toList ++ rest) =
      (Mode.between.read rest).map (.text value :: ·) := by
  have hread := read_quoted '\'' rfl value h
  simpa [literal, markedToken] using hread

/-! ## Names -/

/-- Folding moves nothing but the letters `A` to `Z`. -/
theorem toLower_eq_self {c : Char} (h : c.toNat < 65 ∨ 90 < c.toNat) : c.toLower = c := by
  unfold Char.toLower
  rw [dif_neg]
  rintro ⟨hlow, hhigh⟩
  rw [ge_iff_le, UInt32.le_iff_toNat_le] at hlow
  rw [UInt32.le_iff_toNat_le] at hhigh
  have hlow : 65 ≤ c.toNat := hlow
  have hhigh : c.toNat ≤ 90 := hhigh
  omega

/-- A small letter is a letter. -/
theorem startsWord_of_isLower {c : Char} (h : c.isLower = true) : startsWord c = true := by
  have halpha : c.isAlpha = true := by
    show (c.isUpper || c.isLower) = true
    rw [h, Bool.or_true]
  simp [startsWord, halpha]

theorem lt_toNat_of_isLower {c : Char} (h : c.isLower = true) : 90 < c.toNat := by
  have h : (c.val ≥ 'a'.val && c.val ≤ 'z'.val) = true := h
  rw [Bool.and_eq_true, decide_eq_true_eq, ge_iff_le, UInt32.le_iff_toNat_le] at h
  exact Nat.lt_of_lt_of_le (by decide) h.1

/-- The characters of a bare name are among those of a word, and folding leaves them alone. -/
theorem extendsWord_of_continuesWord {c : Char} (h : continuesWord c = true) :
    extendsWord c = true ∧ c.toLower = c := by
  simp only [continuesWord, Bool.or_eq_true, beq_iff_eq] at h
  rcases h with ((hlower | hdigit) | rfl) | rfl
  · refine ⟨by simp [extendsWord, startsWord_of_isLower hlower], toLower_eq_self ?_⟩
    exact .inr (lt_toNat_of_isLower hlower)
  · refine ⟨by simp [extendsWord, hdigit], toLower_eq_self ?_⟩
    simp only [Char.isDigit, Bool.and_eq_true, decide_eq_true_eq, ge_iff_le,
      UInt32.le_iff_toNat_le] at hdigit
    exact .inl (Nat.lt_of_le_of_lt hdigit.2 (by decide))
  · exact ⟨rfl, rfl⟩
  · exact ⟨rfl, rfl⟩

theorem opensWord_le {c : Char} (h : opensWord c = true) :
    startsWord c = true ∧ continuesWord c = true := by
  simp only [opensWord, Bool.or_eq_true, beq_iff_eq] at h
  rcases h with hlower | rfl
  · exact ⟨startsWord_of_isLower hlower, by simp [continuesWord, hlower]⟩
  · exact ⟨rfl, rfl⟩

theorem not_isBlank_of_startsWord {c : Char} (h : startsWord c = true) : isBlank c = false := by
  cases hblank : isBlank c with
  | false => rfl
  | true =>
    have hmem : c = ' ' ∨ c = '\t' ∨ c = '\n' ∨ c = '\r' ∨ c = '\x0b' ∨ c = '\x0c' := by
      simpa [isBlank] using hblank
    rcases hmem with rfl | rfl | rfl | rfl | rfl | rfl <;> exact absurd h (by decide)

/-- A name that may stand bare is a lower-case word, and not a reserved one. -/
theorem bare_of_not_requiresQuoting {name : String} (h : requiresQuoting name = false) :
    (∃ c text, name.toList = c :: text ∧ opensWord c = true ∧
        ∀ d ∈ text, continuesWord d = true) ∧
      reservedWords.contains (String.ofList (name.toList.map Char.toUpper)) = false := by
  simp only [requiresQuoting, Bool.or_eq_false_iff, Bool.not_eq_false'] at h
  obtain ⟨hword, hreserved⟩ := h
  constructor
  · unfold isWord at hword
    cases hname : name.toList with
    | nil => simp [hname] at hword
    | cons c text =>
      rw [hname] at hword
      simp only [Bool.and_eq_true, List.all_eq_true] at hword
      exact ⟨c, text, rfl, hword.1, hword.2⟩
  · have hmap : String.ofList (name.toList.map Char.toUpper) = name.map Char.toUpper := by
      rw [← String.toList_inj]
      simp
    rw [hmap]
    exact hreserved

/-- A bare name is a word that folding leaves alone. -/
theorem wordToken_of_bare {name : String} (hbare : requiresQuoting name = false) :
    name.toList.map Char.toLower = name.toList ∧ wordToken name.toList = .identifier name := by
  obtain ⟨⟨c, text, hname, hopens, htext⟩, hreserved⟩ := bare_of_not_requiresQuoting hbare
  have hlower : name.toList.map Char.toLower = name.toList := by
    rw [hname]
    refine (List.map_congr_left fun d hd => ?_).trans (List.map_id _)
    rcases List.mem_cons.mp hd with rfl | hd
    · exact (extendsWord_of_continuesWord (opensWord_le hopens).2).2
    · exact (extendsWord_of_continuesWord (htext d hd)).2
  refine ⟨hlower, ?_⟩
  simp only [wordToken, hreserved, hlower]
  simp

/-- A bare name reads back as the name. -/
theorem read_bare {name : String} (hbare : requiresQuoting name = false) {rest : List Char}
    (h : Breaks rest) :
    Mode.between.read (name.toList ++ rest) =
      (Mode.between.read rest).map (.identifier name :: ·) := by
  obtain ⟨⟨c, text, hname, hopens, htext⟩, -⟩ := bare_of_not_requiresQuoting hbare
  have hstarts := (opensWord_le hopens).1
  -- the first character opens a word, and none of the others ends it
  have hstart : Mode.between.step c = ([], .word [c]) := by
    simp [Mode.step, Mode.start, not_isBlank_of_startsWord hstarts, hstarts]
  have hfeed : Mode.between.feed name.toList = ([], .word name.toList) := by
    rw [hname, Mode.feed, hstart,
      Mode.feed_word [c] text fun d hd => (extendsWord_of_continuesWord (htext d hd)).1]
    rfl
  rw [Mode.read_append, hfeed, Mode.read_word h, (wordToken_of_bare hbare).2]
  simp [Function.comp_def]

theorem read_identifier (name : String) {rest : List Char} (h : Breaks rest) :
    Mode.between.read ((identifier name).toList ++ rest) =
      (Mode.between.read rest).map (.identifier name :: ·) := by
  unfold identifier
  by_cases hquoting : requiresQuoting name = true
  · rw [if_pos hquoting]
    have hread := read_quoted '"' rfl name h
    simpa [quotedIdentifier, markedToken] using hread
  · rw [if_neg hquoting]
    exact read_bare (by simpa using hquoting) h

/-- A written name tells the name. -/
theorem identifier_injective : Function.Injective identifier := by
  intro a b h
  have hend : Breaks [] := by simp [Breaks]
  -- the two names are what one text reads as
  have ha := read_identifier a hend
  have hb := read_identifier b hend
  rw [h, hb] at ha
  simpa [Mode.read, Mode.feed, Mode.finish] using ha.symm

end Tenancy.Sql
