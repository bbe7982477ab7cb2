/-!
# Numerals

A numeral in a JSON text is a sign, digits, a fraction and an exponent. Of its value only three
things are told apart: an integer of 64 bits, another number in the range of double precision, and
a number beyond that range. To tell the last two apart the digits are read the way a fast reader
reads them: into a significand of 64 bits, with the digits that no longer fit counted but not
kept.
-/

namespace Tenancy.Json

/-- What a numeral stands for. -/
inductive Number where
  /-- An integer from `-2^63` to `2^64 - 1`. -/
  | whole (n : Int)
  /-- Another number, or minus zero. -/
  | fractional
  /-- A number that double precision cannot hold. -/
  | outOfRange
deriving DecidableEq, Repr, Inhabited

structure Numeral where
  negative : Bool := false
  /-- The digits before the point. -/
  whole : List Char
  /-- The digits behind the point; none if there is no point. -/
  fraction : List Char := []
  exponent : Option Int := none
deriving DecidableEq, Repr, Inhabited

namespace Numeral

/-! ## Reading -/

def readDigits (cs : List Char) : Option (List Char × List Char) :=
  match cs.takeWhile Char.isDigit with
  | [] => none
  | digits => some (digits, cs.dropWhile Char.isDigit)

/-- Reads the digits before the point, which start with a zero only if they are one. -/
def readWhole (cs : List Char) : Option (List Char × List Char) := do
  let (digits, rest) ← readDigits cs
  if digits.head? = some '0' && digits.length ≠ 1 then none else some (digits, rest)

/-- Reads a point and the digits behind it, if there is a point. -/
def readFraction : List Char → Option (List Char × List Char)
  | '.' :: cs => readDigits cs
  | cs => some ([], cs)

/-- Reads a sign, if there is one, and digits. -/
def readSigned : List Char → Option (Int × List Char)
  | '-' :: cs => do
    let (digits, rest) ← readDigits cs
    some (-(Nat.ofDigitChars 10 digits 0 : Int), rest)
  | '+' :: cs => do
    let (digits, rest) ← readDigits cs
    some ((Nat.ofDigitChars 10 digits 0 : Int), rest)
  | cs => do
    let (digits, rest) ← readDigits cs
    some ((Nat.ofDigitChars 10 digits 0 : Int), rest)

/-- Reads the mark of an exponent and the exponent, if there is a mark. -/
def readExponent : List Char → Option (Option Int × List Char)
  | c :: cs =>
    if c = 'e' || c = 'E' then (readSigned cs).map fun (n, rest) => (some n, rest)
    else some (none, c :: cs)
  | [] => some (none, [])

/-- Reads the longest numeral at the front of a text, whatever follows it. A text that starts like
a numeral and does not go on like one is refused. -/
def read (cs : List Char) : Option (Numeral × List Char) := do
  let negative := cs.head? = some '-'
  let (whole, cs) ← readWhole (if negative then cs.tail else cs)
  let (fraction, cs) ← readFraction cs
  let (exponent, cs) ← readExponent cs
  some ({ negative, whole, fraction, exponent }, cs)

/-! What follows a numeral is shorter than what it was read from. -/

theorem length_lt_of_readDigits {cs ds rest : List Char} (h : readDigits cs = some (ds, rest)) :
    rest.length < cs.length := by
  have whole := congrArg List.length (List.takeWhile_append_dropWhile (p := Char.isDigit) (l := cs))
  rw [List.length_append] at whole
  rw [readDigits] at h
  split at h
  · simp at h
  · next digits hne =>
    obtain ⟨rfl, rfl⟩ := by simpa using h
    -- a digit was taken, so what is left is shorter
    have : 0 < (cs.takeWhile Char.isDigit).length := List.length_pos_iff.2 hne
    omega

theorem length_lt_of_readWhole {cs ds rest : List Char} (h : readWhole cs = some (ds, rest)) :
    rest.length < cs.length := by
  simp only [readWhole, Option.bind_eq_bind, Option.bind_eq_some_iff] at h
  obtain ⟨⟨digits, tail⟩, hd, h⟩ := h
  split at h
  · simp at h
  · obtain ⟨rfl, rfl⟩ := by simpa using h
    exact length_lt_of_readDigits hd

theorem length_le_of_readFraction {cs ds rest : List Char}
    (h : readFraction cs = some (ds, rest)) : rest.length ≤ cs.length := by
  rw [readFraction.eq_def] at h
  split at h
  · have := length_lt_of_readDigits h
    simp only [List.length_cons]
    omega
  · simp_all

theorem length_lt_of_readSigned {cs rest : List Char} {n : Int}
    (h : readSigned cs = some (n, rest)) : rest.length < cs.length := by
  rw [readSigned.eq_def] at h
  split at h <;>
  · simp only [Option.bind_eq_bind, Option.bind_eq_some_iff] at h
    obtain ⟨⟨digits, tail⟩, hd, h⟩ := h
    have := length_lt_of_readDigits hd
    simp_all
    try omega

theorem length_le_of_readExponent {cs rest : List Char} {n : Option Int}
    (h : readExponent cs = some (n, rest)) : rest.length ≤ cs.length := by
  rw [readExponent.eq_def] at h
  split at h
  · split at h
    · simp only [Option.map_eq_some_iff] at h
      obtain ⟨⟨m, tail⟩, hs, h⟩ := h
      have := length_lt_of_readSigned hs
      simp_all
      omega
    · simp_all
  · simp_all

theorem length_lt_of_read {cs rest : List Char} {n : Numeral} (h : read cs = some (n, rest)) :
    rest.length < cs.length := by
  simp only [read, Option.bind_eq_bind, Option.bind_eq_some_iff] at h
  obtain ⟨⟨whole, cs₁⟩, hw, ⟨fraction, cs₂⟩, hf, ⟨exponent, cs₃⟩, he, h⟩ := h
  obtain ⟨-, rfl⟩ := by simpa using h
  -- only the digits before the point have to be there, so they make the rest shorter
  have hw := length_lt_of_readWhole hw
  have hf := length_le_of_readFraction hf
  have he := length_le_of_readExponent he
  have : (if (cs.head? = some '-' : Bool) then cs.tail else cs).length ≤ cs.length := by
    split <;> simp
  simp_all
  omega

/-! ## The value -/

def significandMax : Nat := UInt64.size - 1

/-- Appends a digit to a significand, if the result is not too great. -/
def append? (significand : Nat) (digit : Char) : Option Nat :=
  let longer := Nat.ofDigitChars 10 [digit] significand
  if longer ≤ significandMax then some longer else none

/-- Takes the digits before the point into the significand. From the first that does not fit on,
each raises the exponent by one. -/
def takeWhole (significand : Nat) : List Char → Nat × Int
  | [] => (significand, 0)
  | digit :: digits =>
    match append? significand digit with
    | some longer => takeWhole longer digits
    | none => (significand, digits.length + 1)

/-- Takes the digits behind the point into the significand, each of which lowers the exponent by
one, up to the first that does not fit. -/
def takeFraction (significand : Nat) (exponent : Int) : List Char → Nat × Int
  | [] => (significand, exponent)
  | digit :: digits =>
    match append? significand digit with
    | some longer => takeFraction longer (exponent - 1) digits
    | none => (significand, exponent)

/-- The significand and the decimal exponent of a numeral. -/
def magnitude (n : Numeral) : Nat × Int :=
  let (significand, exponent) := takeWhole 0 n.whole
  let (significand, exponent) := takeFraction significand exponent n.fraction
  (significand, exponent + n.exponent.getD 0)

/-- Rounds to 53 significant binary digits; a half goes to the even neighbour. -/
def roundToDouble (n : Nat) : Nat :=
  let unit := Nat.pow 2 (n.log2 + 1 - 53)
  let quotient := n / unit
  let rest := 2 * (n % unit)
  let up := unit < rest || (rest = unit && quotient % 2 = 1)
  (if up then quotient + 1 else quotient) * unit

/-- Half a unit in the last place above the greatest finite double: from here on rounding goes to
infinity. -/
def overflowBound : Nat := Nat.pow 2 1024 - Nat.pow 2 970

/-- Whether double precision cannot hold the number. The significand and the power of ten are
rounded before they are multiplied; a negative exponent divides and so never overflows. -/
def overflows (n : Numeral) : Bool :=
  let (significand, exponent) := n.magnitude
  if significand = 0 || exponent < 0 then false
  else if 308 < exponent then true
  else overflowBound ≤ roundToDouble significand * roundToDouble (Nat.pow 10 exponent.toNat)

/-- The integer that the numeral stands for, if it is one of 64 bits. Minus zero is none. -/
def integer? (n : Numeral) : Option Int :=
  if n.fraction.isEmpty && n.exponent.isNone then
    let value := Nat.ofDigitChars 10 n.whole 0
    if n.negative then
      if 0 < value && value ≤ UInt64.size / 2 then some (-(value : Int)) else none
    else
      if value < UInt64.size then some (value : Int) else none
  else none

def value (n : Numeral) : Number :=
  match n.integer? with
  | some i => .whole i
  | none => if n.overflows then .outOfRange else .fractional

end Numeral

def Number.print : Number → List Char
  | whole n => (toString n).toList
  | fractional => ['0', '.', '5']
  | outOfRange => ['1', 'e', '9', '9', '9']

end Tenancy.Json
