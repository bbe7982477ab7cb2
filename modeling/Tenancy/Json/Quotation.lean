/-!
# Quotations

A text in JSON stands between `"` marks. A backslash starts an escape: for a mark, a backslash, a
control character, or any code unit of UTF-16 by its four hexadecimal digits. Two escaped units
may together stand for one character; a unit that lacks its partner stands for none, so a
quotation can be well formed and yet hold no text.
-/

namespace Tenancy.Json

/-! ## Reading -/

/-- A piece of a quotation: a character, or the ten bits of one half of a character. -/
inductive Piece where
  | whole (c : Char)
  | high (bits : Nat)
  | low (bits : Nat)
deriving DecidableEq, Repr, Inhabited

namespace Piece

/-- The piece that a code unit stands for. -/
def ofUnit (unit : Nat) : Piece :=
  if 0xD800 ≤ unit ∧ unit < 0xDC00 then high (unit - 0xD800)
  else if 0xDC00 ≤ unit ∧ unit < 0xE000 then low (unit - 0xDC00)
  else whole (Char.ofNat unit)

/-- The text that the pieces make up, if every half finds its partner next to it. -/
def join : List Piece → Option (List Char)
  | [] => some []
  | whole c :: rest => (c :: ·) <$> join rest
  | high h :: low l :: rest => (Char.ofNat (0x10000 + 0x400 * h + l) :: ·) <$> join rest
  | high _ :: _ => none
  | low _ :: _ => none

end Piece

/-- The value of a hexadecimal digit. -/
def hexValue? (c : Char) : Option Nat :=
  if c.isDigit then some (c.toNat - '0'.toNat)
  else if 'a' ≤ c ∧ c ≤ 'f' then some (c.toNat - 'a'.toNat + 10)
  else if 'A' ≤ c ∧ c ≤ 'F' then some (c.toNat - 'A'.toNat + 10)
  else none

/-- The code unit with the given hexadecimal digits. -/
def codeUnit? (a b c d : Char) : Option Nat := do
  return 0x1000 * (← hexValue? a) + 0x100 * (← hexValue? b) + 0x10 * (← hexValue? c) +
    (← hexValue? d)

/-- The character that a letter behind a backslash stands for. -/
def escaped? : Char → Option Char
  | '"' => some '"'
  | '\\' => some '\\'
  | '/' => some '/'
  | 'b' => some '\x08'
  | 'f' => some '\x0c'
  | 'n' => some '\n'
  | 'r' => some '\r'
  | 't' => some '\t'
  | _ => none

/-- Reads the pieces of a quotation up to its closing mark, and what follows the mark. -/
def readPieces : List Char → Option (List Piece × List Char)
  | [] => none
  | '"' :: rest => some ([], rest)
  | '\\' :: 'u' :: a :: b :: c :: d :: rest => do
    let unit ← codeUnit? a b c d
    let (pieces, rest) ← readPieces rest
    some (.ofUnit unit :: pieces, rest)
  | '\\' :: e :: rest => do
    let c ← escaped? e
    let (pieces, rest) ← readPieces rest
    some (.whole c :: pieces, rest)
  | c :: rest =>
    if c.toNat < 0x20 || c = '\\' then none
    else do
      let (pieces, rest) ← readPieces rest
      some (.whole c :: pieces, rest)

/-- What follows a quotation is shorter than what it was read from. -/
theorem length_lt_of_readPieces {cs rest : List Char} {pieces : List Piece}
    (h : readPieces cs = some (pieces, rest)) : rest.length < cs.length := by
  fun_induction readPieces cs generalizing pieces rest with
  | case1 => simp at h
  | case2 r =>
    obtain ⟨-, rfl⟩ := by simpa using h
    simp
  | case3 a b c d r ih =>
    obtain ⟨unit, -, p, hp, hr⟩ := by simpa [Option.bind_eq_some_iff] using h
    have := ih hp
    simp_all
    omega
  | case4 e r _ ih =>
    obtain ⟨c, -, p, hp, hr⟩ := by simpa [Option.bind_eq_some_iff] using h
    have := ih hp
    simp_all
    omega
  | case5 c r _ _ _ hc => simp at h
  | case6 c r _ _ _ hc ih =>
    obtain ⟨p, hp, hr⟩ := by simpa [hc, Option.bind_eq_some_iff] using h
    have := ih hp
    simp_all
    omega

/-! ## Writing -/

/-- A hexadecimal digit, in lower case. -/
def hexDigit (n : Nat) : Char := Nat.digitChar n

/-- A character as it stands in a quotation. Marks, backslashes and control characters are escaped,
with a letter where there is one; everything else stands for itself. -/
def escape (c : Char) : List Char :=
  match c with
  | '"' => ['\\', '"']
  | '\\' => ['\\', '\\']
  | '\x08' => ['\\', 'b']
  | '\x0c' => ['\\', 'f']
  | '\n' => ['\\', 'n']
  | '\r' => ['\\', 'r']
  | '\t' => ['\\', 't']
  | c =>
    if c.toNat < 0x20 then ['\\', 'u', '0', '0', hexDigit (c.toNat / 16), hexDigit (c.toNat % 16)]
    else [c]

def quote (text : String) : List Char := '"' :: (text.toList.flatMap escape ++ ['"'])

end Tenancy.Json
