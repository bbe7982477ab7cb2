import Mathlib.Data.List.Chain
import Tenancy.Proofs.Json.Values

/-!
# Spellings

A value can be written as a text in many ways: blanks may stand between tokens, a character of a
quotation may be escaped, and a numeral may have a fraction and an exponent. `Value.Spells` is the
grammar of these texts, without any reading in it. Every text that spells a value is read as this
value (`Document.ofText_of_spells`), and the text that is printed for a value is one of them
(`Value.spells_print`).
-/

namespace Tenancy.Json

/-! ## The grammar of tokens -/

/-- A run of digits. -/
def Digits (ds : List Char) : Prop := ds ≠ [] ∧ ∀ d ∈ ds, d.isDigit

theorem Digits.of_all {d : Char} {ds : List Char} (h : (d :: ds).all Char.isDigit) :
    Digits (d :: ds) :=
  ⟨List.cons_ne_nil _ _, List.all_eq_true.mp h⟩

namespace Numeral

/-- The digits behind the point, and the text that gives them: nothing, or a point and digits. -/
inductive FractionSpelled : List Char → List Char → Prop
  | none : FractionSpelled [] []
  | digits {ds : List Char} (h : Digits ds) : FractionSpelled ds ('.' :: ds)

/-- An exponent and the text that gives it: nothing, or a mark, maybe a sign, and digits. -/
inductive ExponentSpelled : Option Int → List Char → Prop
  | none : ExponentSpelled none []
  | unsigned {mark : Char} {ds : List Char} (hmark : mark = 'e' ∨ mark = 'E') (h : Digits ds) :
      ExponentSpelled (some (Nat.ofDigitChars 10 ds 0)) (mark :: ds)
  | plus {mark : Char} {ds : List Char} (hmark : mark = 'e' ∨ mark = 'E') (h : Digits ds) :
      ExponentSpelled (some (Nat.ofDigitChars 10 ds 0)) (mark :: '+' :: ds)
  | minus {mark : Char} {ds : List Char} (hmark : mark = 'e' ∨ mark = 'E') (h : Digits ds) :
      ExponentSpelled (some (-(Nat.ofDigitChars 10 ds 0 : Int))) (mark :: '-' :: ds)

/-- A numeral and its text. It begins with a zero only if no digit comes behind the zero. -/
inductive Spelled : Numeral → List Char → Prop
  | mk {n : Numeral} {sign fraction exponent : List Char}
      (hsign : sign = if n.negative then ['-'] else []) (hwhole : Digits n.whole)
      (hzero : n.whole.head? = some '0' → n.whole = ['0'])
      (hfraction : FractionSpelled n.fraction fraction)
      (hexponent : ExponentSpelled n.exponent exponent) :
      Spelled n (sign ++ (n.whole ++ (fraction ++ exponent)))

end Numeral

/-- The pieces of a quotation and the text between its marks. -/
inductive PiecesSpelled : List Piece → List Char → Prop
  | nil : PiecesSpelled [] []
  /-- A character that is no control character stands for itself, marks and backslashes apart. -/
  | plain {c : Char} {pieces : List Piece} {cs : List Char} (hcontrol : 0x20 ≤ c.toNat)
      (hmark : c ≠ '"') (hbackslash : c ≠ '\\') (h : PiecesSpelled pieces cs) :
      PiecesSpelled (.whole c :: pieces) (c :: cs)
  | letter {e c : Char} {pieces : List Piece} {cs : List Char} (hletter : escaped? e = some c)
      (h : PiecesSpelled pieces cs) : PiecesSpelled (.whole c :: pieces) ('\\' :: e :: cs)
  | unit {a b c d : Char} {unit : Nat} {pieces : List Piece} {cs : List Char}
      (hunit : codeUnit? a b c d = some unit) (h : PiecesSpelled pieces cs) :
      PiecesSpelled (.ofUnit unit :: pieces) ('\\' :: 'u' :: a :: b :: c :: d :: cs)

/-- A token and its text. -/
inductive Token.Spelled : Token → List Char → Prop
  | char {c : Char} {t : Token} (h : Token.ofChar? c = some t) : Spelled t [c]
  | null : Spelled .null "null".toList
  | true : Spelled (.bool true) "true".toList
  | false : Spelled (.bool false) "false".toList
  | number {n : Numeral} {cs : List Char} (h : n.Spelled cs) : Spelled (.number n.value) cs
  | text {pieces : List Piece} {cs : List Char} (h : PiecesSpelled pieces cs) :
      Spelled (.text ((Piece.join pieces).map String.ofList)) ('"' :: (cs ++ ['"']))

/-- Tokens and a text of theirs, with blanks around them. -/
inductive Spaced : List Token → List Char → Prop
  | nil {blanks : List Char} (h : ∀ c ∈ blanks, Token.isBlank c) : Spaced [] blanks
  | cons {t : Token} {ts : List Token} {blanks cs rest : List Char}
      (hblanks : ∀ c ∈ blanks, Token.isBlank c) (ht : t.Spelled cs) (hts : Spaced ts rest) :
      Spaced (t :: ts) (blanks ++ (cs ++ rest))

/-- The text spells the value. -/
def Value.Spells (v : Value) (text : String) : Prop := Spaced v.tokens text.toList

/-! ## Numerals are read -/

namespace Numeral

theorem readDigits_of_digits {ds : List Char} (h : Digits ds) (rest : List Char)
    (hrest : ∀ c ∈ rest.head?, c.isDigit = false) : readDigits (ds ++ rest) = some (ds, rest) :=
  readDigits_eq_some_iff.mpr ⟨rfl, h.1, h.2, hrest⟩

/-- Digits do not open with a sign. -/
theorem exists_head_of_digits {ds : List Char} (h : Digits ds) :
    ∃ c tail, ds = c :: tail ∧ c ≠ '-' ∧ c ≠ '+' := by
  obtain ⟨hne, hdigits⟩ := h
  cases ds with
  | nil => exact absurd rfl hne
  | cons c tail =>
    have hc := hdigits c List.mem_cons_self
    refine ⟨c, tail, rfl, ?_, ?_⟩ <;>
    · rintro rfl
      cases hc

theorem readExponent_of_spelled {n : Option Int} {cs rest : List Char}
    (h : ExponentSpelled n cs) (hrest : EndedBy rest) :
    readExponent (cs ++ rest) = some (n, rest) := by
  have hmarked {mark : Char} (hmark : mark = 'e' ∨ mark = 'E') (cs : List Char) :
      readExponent (mark :: cs) = (readSigned cs).map fun p => (some p.1, p.2) := by
    rcases hmark with rfl | rfl <;> rfl
  have hread {ds : List Char} (h : Digits ds) : readDigits (ds ++ rest) = some (ds, rest) :=
    readDigits_of_digits h rest fun c hc => (hrest.head? c hc).1
  cases h with
  | none =>
    cases rest with
    | nil => rfl
    | cons c tail =>
      have hgoes := hrest c rfl
      simp only [goesOn, Bool.or_eq_false_iff, beq_eq_false_iff_ne] at hgoes
      exact readExponent_of_ne hgoes.1.2 hgoes.2
  | unsigned hmark h =>
    have hread := hread h
    obtain ⟨c, tail, rfl, hminus, hplus⟩ := exists_head_of_digits h
    rw [List.cons_append, hmarked hmark, List.cons_append, readSigned_of_ne hminus hplus]
    rw [List.cons_append] at hread
    rw [hread]
    rfl
  | plus hmark h =>
    rw [List.cons_append, hmarked hmark, List.cons_append, readSigned, hread h]
    rfl
  | minus hmark h =>
    rw [List.cons_append, hmarked hmark, List.cons_append, readSigned, hread h]
    rfl

/-- An exponent goes on with neither digits nor a fraction. -/
theorem ExponentSpelled.head? {n : Option Int} {cs rest : List Char} (h : ExponentSpelled n cs)
    (hrest : EndedBy rest) : ∀ c ∈ (cs ++ rest).head?, c.isDigit = false ∧ c ≠ '.' := by
  cases h with
  | none => exact hrest.head?
  | unsigned hmark _ | plus hmark _ | minus hmark _ =>
    rintro c ⟨⟩
    rcases hmark with rfl | rfl <;> decide

theorem readFraction_of_spelled {ds cs rest : List Char} (h : FractionSpelled ds cs)
    (hrest : ∀ c ∈ rest.head?, c.isDigit = false ∧ c ≠ '.') :
    readFraction (cs ++ rest) = some (ds, rest) := by
  cases h with
  | none =>
    cases rest with
    | nil => rfl
    | cons c tail => exact readFraction_of_ne (hrest c rfl).2
  | digits h => exact readDigits_of_digits h rest fun c hc => (hrest c hc).1

theorem FractionSpelled.head? {ds cs rest : List Char} (h : FractionSpelled ds cs)
    (hrest : ∀ c ∈ rest.head?, c.isDigit = false ∧ c ≠ '.') :
    ∀ c ∈ (cs ++ rest).head?, c.isDigit = false := by
  cases h with
  | none => exact fun c hc => (hrest c hc).1
  | digits h =>
    rintro c ⟨⟩
    rfl

theorem readWhole_of_digits {ds rest : List Char} (h : Digits ds)
    (hzero : ds.head? = some '0' → ds = ['0']) (hrest : ∀ c ∈ rest.head?, c.isDigit = false) :
    readWhole (ds ++ rest) = some (ds, rest) := by
  have hlead : ¬(ds.head? = some '0' && ds.length ≠ 1) := by
    intro hlead
    simp only [Bool.and_eq_true, decide_eq_true_eq] at hlead
    exact hlead.2 (by rw [hzero hlead.1]; rfl)
  rw [readWhole, readDigits_of_digits h rest hrest]
  exact if_neg hlead

/-- A numeral is read from its text, if what follows does not go on with it. -/
theorem read_of_spelled {n : Numeral} {cs rest : List Char} (h : n.Spelled cs)
    (hrest : EndedBy rest) : read (cs ++ rest) = some (n, rest) := by
  obtain ⟨rfl, hwhole, hzero, hfraction, hexponent⟩ := h
  have hend := readExponent_of_spelled hexponent hrest
  have hrest := hexponent.head? hrest
  have hread := readWhole_of_digits hwhole hzero (hfraction.head? hrest)
  have hpoint := readFraction_of_spelled hfraction hrest
  obtain ⟨c, tail, hhead, hminus, -⟩ := exists_head_of_digits hwhole
  obtain ⟨negative, whole, point, power⟩ := n
  dsimp only at hread hpoint hend hhead ⊢
  subst hhead
  rw [List.cons_append] at hread
  -- the sign is told by the first character, as digits do not open with one
  cases negative with
  | false => simp [read, hminus, hread, hpoint, hend]
  | true => simp [read, hread, hpoint, hend]

theorem inRange_of_integer? {n : Numeral} {i : Int} (h : n.integer? = some i) :
    (Number.whole i).InRange := by
  unfold integer? at h
  by_cases hplain : n.fraction.isEmpty && n.exponent.isNone
  · rw [if_pos hplain] at h
    dsimp only at h
    generalize Nat.ofDigitChars 10 n.whole 0 = value at h
    split_ifs at h with hnegative hsmall hsmall
    · obtain rfl := Option.some.inj h
      simp only [Bool.and_eq_true, decide_eq_true_eq] at hsmall
      exact ⟨by omega, by omega⟩
    · obtain rfl := Option.some.inj h
      exact ⟨by omega, by omega⟩
  · rw [if_neg hplain] at h
    cases h

/-- The integers that a numeral stands for are those told from other numbers. -/
theorem inRange_value (n : Numeral) : n.value.InRange := by
  unfold value
  cases hinteger : n.integer? with
  | some i => exact inRange_of_integer? hinteger
  | none => cases n.overflows <;> trivial

end Numeral

/-! ## Tokens are read -/

theorem readPieces_of_spelled {pieces : List Piece} {cs : List Char} (h : PiecesSpelled pieces cs)
    (rest : List Char) : readPieces (cs ++ '"' :: rest) = some (pieces, rest) := by
  induction h with
  | nil => simp [readPieces]
  | plain hcontrol hmark hbackslash _ ih =>
    rw [List.cons_append, readPieces_plain hmark (by simp [hbackslash, hcontrol]), ih]
    rfl
  | letter hletter _ ih =>
    rw [List.cons_append, List.cons_append, readPieces_letter hletter, ih]
    rfl
  | unit hunit _ ih =>
    simp only [List.cons_append]
    rw [readPieces_unit hunit, ih]
    rfl

namespace Token

theorem read_of_spelled {t : Token} {cs rest : List Char} (h : t.Spelled cs)
    (hrest : (∃ n, t = .number n) → Numeral.EndedBy rest) : read (cs ++ rest) = some (t, rest) := by
  cases h with
  | char h => exact read_of_char h
  | null => rfl
  | true => rfl
  | false => rfl
  | number h => exact read_of_numeral (Numeral.read_of_spelled h (hrest ⟨_, rfl⟩))
  | text h =>
    rw [List.cons_append, List.append_assoc, read, List.singleton_append,
      readPieces_of_spelled h rest]
    rfl

theorem printable_of_spelled {t : Token} {cs : List Char} (h : t.Spelled cs) : t.Printable := by
  cases h with
  | char h =>
    unfold ofChar? at h
    split at h <;> cases h <;> trivial
  | number h => exact Numeral.inRange_value _
  | _ => trivial

end Token

/-! ## Texts are read -/

namespace Token

/-- The tokens that may stand behind a number. -/
def separates : Token → Bool
  | comma | closeList | closeObject | broken => true
  | _ => false

/-- What may stand next to each other: a number goes on with none but a separating token. -/
def Follows (t next : Token) : Prop := (∃ n, t = number n) → next.separates

theorem goesOn_of_isBlank {c : Char} (h : isBlank c) : Numeral.goesOn c = false := by
  simp only [isBlank, Bool.or_eq_true, beq_iff_eq] at h
  rcases h with ((rfl | rfl) | rfl) | rfl <;> rfl

theorem ofText_blanks {blanks : List Char} (h : ∀ c ∈ blanks, isBlank c) (cs : List Char) :
    ofText (blanks ++ cs) = ofText cs := by
  induction blanks with
  | nil => rfl
  | cons c rest ih =>
    obtain ⟨hc, hrest⟩ := List.forall_mem_cons.mp h
    rw [List.cons_append, ofText, if_pos hc, ih hrest]

theorem goesOn_of_separates {t : Token} {cs : List Char} (h : t.Spelled cs) (ht : t.separates)
    (rest : List Char) : Numeral.EndedBy (cs ++ rest) := by
  cases h with
  | char h =>
    unfold ofChar? at h
    split at h <;> cases h <;> cases ht <;>
    · rintro c ⟨⟩
      rfl
  | _ => cases ht

end Token

open Token (Follows)

/-- Blanks and a separating token end a numeral. -/
theorem Spaced.endedBy {ts : List Token} {cs : List Char} (h : Spaced ts cs)
    (hhead : ∀ t ∈ ts.head?, t.separates) : Numeral.EndedBy cs := by
  have hblank (blanks rest : List Char) (hblanks : ∀ c ∈ blanks, Token.isBlank c)
      (hrest : Numeral.EndedBy rest) : Numeral.EndedBy (blanks ++ rest) := by
    cases blanks with
    | nil => exact hrest
    | cons b tail =>
      rintro c ⟨⟩
      exact Token.goesOn_of_isBlank (hblanks b List.mem_cons_self)
  cases h with
  | nil hblanks =>
    have hall := hblank _ [] hblanks nofun
    rwa [List.append_nil] at hall
  | cons hblanks ht _ => exact hblank _ _ hblanks (Token.goesOn_of_separates ht (hhead _ rfl) _)

/-- Tokens are read from a text of theirs. -/
theorem Spaced.ofText_eq {ts : List Token} {cs : List Char} (h : Spaced ts cs)
    (hchain : ts.IsChain Follows) : Token.ofText cs = ts := by
  induction h with
  | nil hblanks =>
    have hall := Token.ofText_blanks hblanks []
    rwa [List.append_nil, Token.ofText] at hall
  | cons hblanks ht hts ih =>
    obtain ⟨hhead, hrest⟩ := List.isChain_cons.mp hchain
    have hread := Token.read_of_spelled ht fun hnumber =>
      hts.endedBy fun next hnext => hhead next hnext hnumber
    rw [Token.ofText_blanks hblanks, Token.ofText_of_read hread, ih hrest]

theorem Spaced.spelled {ts : List Token} {cs : List Char} (h : Spaced ts cs) :
    ∀ t ∈ ts, ∃ cs, t.Spelled cs := by
  induction h with
  | nil => exact nofun
  | cons _ ht _ ih => exact List.forall_mem_cons.mpr ⟨⟨_, ht⟩, ih⟩

/-! ## Values are read -/

/-- A token that no text goes on with may stand before anything. -/
theorem isChain_cons {t : Token} {ts : List Token} (ht : t.endsItself)
    (h : ts.IsChain Follows) : (t :: ts).IsChain Follows := by
  refine List.isChain_cons.mpr ⟨?_, h⟩
  rintro next - ⟨n, rfl⟩
  cases ht

theorem Items.exists_head (items : Items) : ∃ t ts, items.tokens = t :: ts ∧ t.separates := by
  cases items <;> exact ⟨_, _, rfl, rfl⟩

theorem Members.exists_head (members : Members) :
    ∃ t ts, members.tokens = t :: ts ∧ t.separates := by
  cases members <;> exact ⟨_, _, rfl, rfl⟩

/-- Tokens that open with a separating one may stand behind any others. -/
theorem isChain_append {as bs : List Token} (has : as.IsChain Follows) (hbs : bs.IsChain Follows)
    (hhead : ∃ t ts, bs = t :: ts ∧ t.separates) : (as ++ bs).IsChain Follows := by
  obtain ⟨t, ts, rfl, ht⟩ := hhead
  refine List.isChain_append.mpr ⟨has, hbs, fun a _ b hb _ => ?_⟩
  obtain rfl : t = b := Option.some.inj hb
  exact ht

/-- Key and colon may stand before anything. -/
theorem isChain_member (key : Option String) {ts : List Token} (h : ts.IsChain Follows) :
    (.text key :: .colon :: ts).IsChain Follows :=
  isChain_cons rfl (isChain_cons rfl h)

mutual

theorem Value.isChain_tokens : (v : Value) → v.tokens.IsChain Follows
  | .broken | .null | .bool _ | .number _ | .text _ => .singleton _
  | .list .close | .list .cut | .object .close | .object .cut => isChain_cons rfl (.singleton _)
  | .list (.item value rest) =>
    isChain_cons rfl (isChain_append value.isChain_tokens rest.isChain_tokens rest.exists_head)
  | .object (.member key value rest) =>
    isChain_cons rfl (isChain_member key
      (isChain_append value.isChain_tokens rest.isChain_tokens rest.exists_head))

theorem Items.isChain_tokens : (items : Items) → items.tokens.IsChain Follows
  | .close | .cut => .singleton _
  | .item value rest =>
    isChain_cons rfl (isChain_append value.isChain_tokens rest.isChain_tokens rest.exists_head)

theorem Members.isChain_tokens : (members : Members) → members.tokens.IsChain Follows
  | .close | .cut => .singleton _
  | .member key value rest =>
    isChain_cons rfl (isChain_member key
      (isChain_append value.isChain_tokens rest.isChain_tokens rest.exists_head))

end

theorem Value.written_of_spells {v : Value} {text : String} (h : v.Spells text) : v.Written :=
  fun t ht => by
    obtain ⟨cs, hcs⟩ := h.spelled t ht
    exact Token.printable_of_spelled hcs

/-- A text is read as the value that it spells, and ends with it. -/
theorem Document.ofText_of_spells {v : Value} {text : String} (h : v.Spells text) :
    Document.ofText text = { root := v, ended := true } := by
  have htokens : Token.ofText text.toList = v.tokens := h.ofText_eq v.isChain_tokens
  have hvalue := v.readValue_tokens [] [] (Value.written_of_spells h)
  rw [List.append_nil] at hvalue
  rw [ofText, htokens, hvalue]
  rfl

/-! ## Printed texts -/

/-- The decimal digits of a number alone are a numeral, with a sign or without. -/
theorem Numeral.spelled_toDigits (negative : Bool) (n : Nat) :
    Spelled { negative, whole := Nat.toDigits 10 n }
      ((if negative then ['-'] else []) ++ Nat.toDigits 10 n) := by
  have hdigits : Digits (Nat.toDigits 10 n) :=
    ⟨Nat.toDigits_ne_nil, fun d hd => Nat.isDigit_of_mem_toDigits (by decide) (by decide) hd⟩
  have hzero : (Nat.toDigits 10 n).head? = some '0' → Nat.toDigits 10 n = ['0'] := by
    intro hhead
    rcases Nat.eq_zero_or_pos n with rfl | hn
    · rfl
    · exact absurd hhead (head?_toDigits_ne_zero hn)
  have hspelled : Spelled { negative, whole := Nat.toDigits 10 n }
      ((if negative then ['-'] else []) ++ (Nat.toDigits 10 n ++ ([] ++ []))) :=
    .mk rfl hdigits hzero .none .none
  simpa using hspelled

/-- A number is printed as one of its numerals. -/
theorem Number.exists_spelled_print {n : Number} (h : n.InRange) :
    ∃ numeral : Numeral, numeral.Spelled n.print ∧ numeral.value = n := by
  cases n with
  | fractional =>
    exact ⟨{ whole := ['0'], fraction := ['5'] },
      .mk rfl (.of_all rfl) (fun _ => rfl) (.digits (.of_all rfl)) .none, rfl⟩
  | outOfRange =>
    have hnines : Digits ['9', '9', '9'] := .of_all rfl
    have hexponent : Numeral.ExponentSpelled (some 999) ['e', '9', '9', '9'] :=
      .unsigned (.inl rfl) hnines
    let numeral : Numeral := { whole := ['1'], exponent := some 999 }
    have hspelled : numeral.Spelled ([] ++ (['1'] ++ ([] ++ ['e', '9', '9', '9']))) :=
      .mk rfl (.of_all rfl) (fun hhead => absurd hhead (by decide)) .none hexponent
    exact ⟨numeral, hspelled, rfl⟩
  | whole n =>
    cases n with
    | ofNat m =>
      rw [print_ofNat]
      refine ⟨_, Numeral.spelled_toDigits false m, ?_⟩
      have hsmall : m < UInt64.size := Int.ofNat_lt.mp h.2
      simp [Numeral.value, Numeral.integer?, hsmall]
    | negSucc m =>
      rw [print_negSucc]
      refine ⟨_, Numeral.spelled_toDigits true (m + 1), ?_⟩
      have hsmall : m + 1 ≤ UInt64.size / 2 := by
        have hlower : -((UInt64.size / 2 : Nat) : Int) ≤ Int.negSucc m := h.1
        rw [Int.negSucc_eq] at hlower
        omega
      simp [Numeral.value, Numeral.integer?, hsmall, Int.negSucc_eq]

/-- What a character is escaped to stands for the character. -/
theorem PiecesSpelled.escape {pieces : List Piece} {cs : List Char} (h : PiecesSpelled pieces cs)
    (c : Char) : PiecesSpelled (.whole c :: pieces) (Json.escape c ++ cs) := by
  fun_cases Json.escape c with
  | case1 | case2 | case3 | case4 | case5 | case6 | case7 => exact .letter rfl h
  | case8 c _ _ _ _ _ _ _ hcontrol =>
    rw [← ofUnit_toNat hcontrol]
    exact .unit (codeUnit?_hexDigit hcontrol) h
  | case9 c hmark hback _ _ _ _ _ hcontrol =>
    exact .plain (Nat.le_of_not_lt hcontrol) hmark hback h

theorem piecesSpelled_escape (text : List Char) :
    PiecesSpelled (text.map .whole) (text.flatMap escape) := by
  induction text with
  | nil => exact .nil
  | cons c rest ih => exact ih.escape c

/-- A token is printed as one of its texts. -/
theorem Token.spelled_print {t : Token} (h : t.Printable) : t.Spelled t.print := by
  cases t with
  | number n =>
    obtain ⟨numeral, hspelled, rfl⟩ := Number.exists_spelled_print h
    exact .number hspelled
  | text content =>
    cases content with
    | none =>
      -- half of a surrogate pair alone is no character
      have hhalf : codeUnit? 'd' '8' '0' '0' = some 0xD800 := by decide
      exact .text (.unit hhalf .nil)
    | some content =>
      have hspelled := Token.Spelled.text (piecesSpelled_escape content.toList)
      rw [join_map_whole] at hspelled
      simpa [print, quote] using hspelled
  | bool b =>
    cases b with
    | true => exact .true
    | false => exact .false
  | null => exact .null
  | broken => exact h.elim
  | _ => exact .char rfl

/-- Tokens may be printed with blanks before each of them. -/
theorem spaced_flatMap {ts : List Token} (h : ∀ t ∈ ts, t.Printable) {blanks : List Char}
    (hblanks : ∀ c ∈ blanks, Token.isBlank c) :
    Spaced ts (ts.flatMap fun t => blanks ++ t.print) := by
  induction ts with
  | nil => exact .nil nofun
  | cons t rest ih =>
    obtain ⟨ht, hrest⟩ := List.forall_mem_cons.mp h
    rw [List.flatMap_cons, List.append_assoc]
    exact .cons hblanks (Token.spelled_print ht) (ih hrest)

/-- The text that is printed for a value spells it. -/
theorem Value.spells_print {v : Value} (h : v.Written) : v.Spells v.print := by
  unfold Spells print
  rw [String.toList_ofList]
  have hblanks : ∀ c ∈ ([] : List Char), Token.isBlank c := nofun
  exact spaced_flatMap h hblanks

end Tenancy.Json
