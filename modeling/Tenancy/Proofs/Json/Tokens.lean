import Mathlib.Data.List.TakeWhile
import Tenancy.Json.Token

/-!
# Single tokens

The first characters of a text decide how it is read: as a numeral or another token, as an escaped
character or the character itself. A token that is read at the front of a text is the first of the
tokens of the text (`Token.ofText_of_read`).
-/

namespace Tenancy.Json

/-! ## Numerals -/

namespace Numeral

/-- The characters that go on with a numeral. -/
def goesOn (c : Char) : Bool := c.isDigit || c == '.' || c == 'e' || c == 'E'

/-- A text that may stand behind a numeral, since it does not go on with it. -/
def EndedBy (more : List Char) : Prop := ∀ c ∈ more.head?, goesOn c = false

/-- Digits are read as far as they go. -/
theorem readDigits_eq_some_iff {cs ds rest : List Char} :
    readDigits cs = some (ds, rest) ↔
      cs = ds ++ rest ∧ ds ≠ [] ∧ (∀ d ∈ ds, d.isDigit) ∧ ∀ c ∈ rest.head?, c.isDigit = false := by
  constructor
  · intro h
    rw [readDigits] at h
    split at h
    · cases h
    · next hne =>
      obtain ⟨rfl, rfl⟩ := by simpa using h
      refine ⟨List.takeWhile_append_dropWhile.symm, hne, fun d => List.mem_takeWhile_imp, ?_⟩
      intro c hc
      have hhead := List.head?_dropWhile_not Char.isDigit cs
      rwa [Option.mem_def.mp hc] at hhead
  · rintro ⟨rfl, hne, hdigits, hrest⟩
    have hstop : rest.takeWhile Char.isDigit = [] ∧ rest.dropWhile Char.isDigit = rest := by
      cases rest with
      | nil => exact ⟨rfl, rfl⟩
      | cons c rest => simp [hrest c rfl]
    rw [readDigits, List.takeWhile_append_of_pos hdigits, List.dropWhile_append_of_pos hdigits,
      hstop.1, hstop.2, List.append_nil]
    cases ds with
    | nil => exact absurd rfl hne
    | cons d ds => rfl

section

variable {cs ds rest : List Char}

theorem EndedBy.head? (h : EndedBy rest) : ∀ c ∈ rest.head?, c.isDigit = false ∧ c ≠ '.' := by
  intro c hc
  have hgoes := h c hc
  simp only [goesOn, Bool.or_eq_false_iff, beq_eq_false_iff_ne] at hgoes
  exact hgoes.1.1

/-! Without a point, without a mark and without a sign there is nothing to read but the rest. -/

theorem readFraction_of_ne {c : Char} (h : c ≠ '.') :
    readFraction (c :: cs) = some ([], c :: cs) := by
  rw [readFraction.eq_def]
  split
  · next heq => exact absurd (List.cons.inj heq).1 h
  · rfl

theorem readSigned_of_ne {c : Char} (h : c ≠ '-') (h' : c ≠ '+') :
    readSigned (c :: cs) = (do
      let (digits, rest) ← readDigits (c :: cs)
      some ((Nat.ofDigitChars 10 digits 0 : Int), rest)) := by
  rw [readSigned.eq_def]
  split
  · next heq => exact absurd (List.cons.inj heq).1 h
  · next heq => exact absurd (List.cons.inj heq).1 h'
  · rfl

theorem readExponent_of_ne {c : Char} (h : c ≠ 'e') (h' : c ≠ 'E') :
    readExponent (c :: cs) = some (none, c :: cs) := by
  simp [readExponent, h, h']

theorem exists_head_of_readDigits (h : readDigits cs = some (ds, rest)) :
    ∃ c cs', cs = c :: cs' ∧ c.isDigit := by
  obtain ⟨rfl, hne, hdigits, -⟩ := readDigits_eq_some_iff.mp h
  cases ds with
  | nil => exact absurd rfl hne
  | cons d ds => exact ⟨d, ds ++ rest, rfl, hdigits d List.mem_cons_self⟩

/-- A numeral starts with a sign or a digit. -/
theorem exists_head_of_read {n : Numeral} (h : read cs = some (n, rest)) :
    ∃ c cs', cs = c :: cs' ∧ (c == '-' || c.isDigit) := by
  simp only [read, Option.bind_eq_bind, Option.bind_eq_some_iff] at h
  obtain ⟨⟨whole, cs₁⟩, hwhole, -⟩ := h
  simp only [readWhole, Option.bind_eq_bind, Option.bind_eq_some_iff] at hwhole
  obtain ⟨⟨digits, tail⟩, hdigits, -⟩ := hwhole
  cases cs with
  | nil => cases hdigits
  | cons c cs =>
    refine ⟨c, cs, rfl, ?_⟩
    by_cases hminus : c = '-'
    · simp [hminus]
    · obtain ⟨d, ds, heq, hd⟩ := exists_head_of_readDigits (by simpa [hminus] using hdigits)
      obtain ⟨rfl, -⟩ := List.cons.inj heq
      simp [hd]

end

/-! ### Decimal digits -/

theorem head?_toDigits_ne_zero {n : Nat} (h : 0 < n) : (Nat.toDigits 10 n).head? ≠ some '0' := by
  induction n using Nat.strongRecOn with
  | ind n ih =>
    by_cases hsmall : n < 10
    · have hall : ∀ m : Fin 10, 0 < m.val → [m.val.digitChar].head? ≠ some '0' := by decide
      rw [Nat.toDigits_of_lt_base hsmall]
      exact hall ⟨n, hsmall⟩ h
    · have hhead : (Nat.toDigits 10 n).head? = (Nat.toDigits 10 (n / 10)).head? := by
        rw [Nat.toDigits_of_base_le (by decide) (by omega), List.head?_append,
          Option.or_of_isSome (by simp [Nat.toDigits_ne_nil])]
      rw [hhead]
      exact ih (n / 10) (by omega) (by omega)

end Numeral

/-- The integers that are told from other numbers. -/
def Number.InRange : Number → Prop
  | whole n => -((UInt64.size / 2 : Nat) : Int) ≤ n ∧ n < (UInt64.size : Nat)
  | fractional | outOfRange => True

theorem Number.print_ofNat (n : Nat) : (whole (.ofNat n)).print = Nat.toDigits 10 n := by
  have hrepr : toString (Int.ofNat n) = n.repr := rfl
  rw [print, hrepr, Nat.toList_repr]

theorem Number.print_negSucc (n : Nat) :
    (whole (.negSucc n)).print = '-' :: Nat.toDigits 10 (n + 1) := by
  have hrepr : toString (Int.negSucc n) = "-" ++ (n + 1).repr := rfl
  rw [print, hrepr, String.toList_append, Nat.toList_repr]
  rfl

/-! ## Quotations -/

section

variable {more : List Char}

theorem readPieces_unit {a b c d : Char} {unit : Nat} (h : codeUnit? a b c d = some unit) :
    readPieces ('\\' :: 'u' :: a :: b :: c :: d :: more) = (do
      let (pieces, rest) ← readPieces more
      some (.ofUnit unit :: pieces, rest)) := by
  rw [readPieces, h]
  rfl

theorem readPieces_letter {e c : Char} (h : escaped? e = some c) :
    readPieces ('\\' :: e :: more) = (do
      let (pieces, rest) ← readPieces more
      some (.whole c :: pieces, rest)) := by
  rw [readPieces.eq_def]
  split
  · next heq => cases heq
  · next heq => cases heq
  · next heq =>
    -- no letter is escaped by the mark of a unit
    obtain ⟨-, heq⟩ := List.cons.inj heq
    obtain ⟨rfl, -⟩ := List.cons.inj heq
    cases h
  · next heq =>
    obtain ⟨-, heq⟩ := List.cons.inj heq
    obtain ⟨rfl, rfl⟩ := List.cons.inj heq
    rw [h]
    rfl
  · next hno heq =>
    obtain ⟨rfl, rfl⟩ := List.cons.inj heq
    exact absurd rfl (hno e more rfl)

theorem readPieces_plain {c : Char} (hmark : c ≠ '"') (h : ¬(c.toNat < 0x20 || c = '\\')) :
    readPieces (c :: more) = (do
      let (pieces, rest) ← readPieces more
      some (.whole c :: pieces, rest)) := by
  rw [readPieces.eq_def]
  split
  · next heq => cases heq
  · next heq => exact absurd (List.cons.inj heq).1 hmark
  · next heq =>
    obtain ⟨rfl, -⟩ := List.cons.inj heq
    simp at h
  · next heq =>
    obtain ⟨rfl, -⟩ := List.cons.inj heq
    simp at h
  · next heq =>
    obtain ⟨rfl, rfl⟩ := List.cons.inj heq
    rw [if_neg h]

theorem codeUnit?_hexDigit {n : Nat} (h : n < 0x20) :
    codeUnit? '0' '0' (hexDigit (n / 16)) (hexDigit (n % 16)) = some n := by
  have hall : ∀ m : Fin 0x20,
      codeUnit? '0' '0' (hexDigit (m / 16)) (hexDigit (m % 16)) = some m.val := by decide
  exact hall ⟨n, h⟩

theorem ofUnit_toNat {c : Char} (h : c.toNat < 0x20) : Piece.ofUnit c.toNat = .whole c := by
  rw [Piece.ofUnit, if_neg (by omega), if_neg (by omega), Char.ofNat_toNat]

theorem join_map_whole (text : List Char) : Piece.join (text.map .whole) = some text := by
  induction text with
  | nil => rfl
  | cons c rest ih => simp [Piece.join, ih]

end

/-! ## Single tokens -/

namespace Token

variable {cs rest : List Char} {t : Token}

theorem read_of_char {c : Char} (h : ofChar? c = some t) : read (c :: cs) = some (t, cs) := by
  unfold ofChar? at h
  split at h <;> cases h <;> rfl

/-- What starts a numeral starts no other token. -/
theorem read_of_numeral {n : Numeral} (h : Numeral.read cs = some (n, rest)) :
    read cs = some (.number n.value, rest) := by
  obtain ⟨c, cs, rfl, hc⟩ := Numeral.exists_head_of_read h
  rw [read.eq_def]
  split
  · next heq => cases heq
  · next heq =>
    obtain ⟨rfl, -⟩ := List.cons.inj heq
    cases hc
  · next heq =>
    obtain ⟨rfl, -⟩ := List.cons.inj heq
    cases hc
  · next heq =>
    obtain ⟨rfl, -⟩ := List.cons.inj heq
    cases hc
  · next heq =>
    obtain ⟨rfl, -⟩ := List.cons.inj heq
    cases hc
  · next heq =>
    obtain ⟨rfl, rfl⟩ := List.cons.inj heq
    split
    · next hchar =>
      unfold ofChar? at hchar
      split at hchar <;> cases hchar <;> cases hc
    · rw [h]
      rfl

/-- The tokens that have a text of their own. -/
def Printable : Token → Prop
  | broken => False
  | number n => n.InRange
  | _ => True

theorem not_isBlank_of_read {c : Char} (h : read (c :: cs) = some (t, rest)) :
    isBlank c = false := by
  by_contra hblank
  simp only [isBlank, Bool.not_eq_false, Bool.or_eq_true, beq_iff_eq] at hblank
  rcases hblank with ((rfl | rfl) | rfl) | rfl <;> cases h

/-- A token at the front of a text is the first of its tokens. -/
theorem ofText_of_read (h : read cs = some (t, rest)) : ofText cs = t :: ofText rest := by
  cases cs with
  | nil => cases h
  | cons c cs =>
    rw [ofText, not_isBlank_of_read h, if_neg Bool.false_ne_true]
    split
    · next hnone => cases hnone.symm.trans h
    · next hsome =>
      cases hsome.symm.trans h
      rfl

/-- The tokens that no text goes on with. -/
def endsItself : Token → Bool
  | number _ | broken => false
  | _ => true

end Token

end Tenancy.Json
