/-!
# Base64

Bytes as text of the standard alphabet: three bytes in four characters, the last ones padded with
equals signs. Reading is strict: the padding must be there, and the bits that the last character
leaves over must be zero, so that each sequence of bytes has one text. Main statement: what is
written reads back (`decode?_encode`).
-/

namespace MessageSchema.Base64

/-- The character for six bits. -/
def char (n : Nat) : Char :=
  if n < 26 then Char.ofNat (65 + n)
  else if n < 52 then Char.ofNat (71 + n)
  else if n < 62 then Char.ofNat (n - 4)
  else if n = 62 then '+'
  else '/'

/-- The six bits of a character. -/
def value? (c : Char) : Option Nat :=
  if 'A' ≤ c ∧ c ≤ 'Z' then some (c.toNat - 65)
  else if 'a' ≤ c ∧ c ≤ 'z' then some (c.toNat - 71)
  else if '0' ≤ c ∧ c ≤ '9' then some (c.toNat + 4)
  else if c = '+' then some 62
  else if c = '/' then some 63
  else none

/-- Bytes as characters. -/
def encode : List UInt8 → List Char
  | [] => []
  | [a] =>
    let n := a.toNat * 16
    [char (n / 64), char (n % 64), '=', '=']
  | [a, b] =>
    let n := (a.toNat * 256 + b.toNat) * 4
    [char (n / 4096), char (n / 64 % 64), char (n % 64), '=']
  | a :: b :: c :: rest =>
    let n := (a.toNat * 256 + b.toNat) * 256 + c.toNat
    char (n / 262144) :: char (n / 4096 % 64) :: char (n / 64 % 64) :: char (n % 64) ::
      encode rest

/-- The bytes that characters stand for, if they are such a text. -/
def decode? : List Char → Option (List UInt8)
  | [] => some []
  | [a, b, '=', '='] => do
    let n := (← value? a) * 64 + (← value? b)
    if n % 16 = 0 then some [UInt8.ofNat (n / 16)] else none
  | [a, b, c, '='] => do
    let n := ((← value? a) * 64 + (← value? b)) * 64 + (← value? c)
    if n % 4 = 0 then some [UInt8.ofNat (n / 1024), UInt8.ofNat (n / 4 % 256)] else none
  | a :: b :: c :: d :: rest => do
    let n := (((← value? a) * 64 + (← value? b)) * 64 + (← value? c)) * 64 + (← value? d)
    let rest ← decode? rest
    return UInt8.ofNat (n / 65536) :: UInt8.ofNat (n / 256 % 256) :: UInt8.ofNat (n % 256) :: rest
  | _ => none

theorem value?_char {n : Nat} (h : n < 64) : value? (char n) = some n := by
  have : ∀ n, n < 64 → value? (char n) = some n := by decide
  exact this n h

theorem char_ne_pad {n : Nat} (h : n < 64) : char n ≠ '=' := by
  have : ∀ n, n < 64 → char n ≠ '=' := by decide
  exact this n h

/-- What is written reads back. -/
theorem decode?_encode (bytes : List UInt8) : decode? (encode bytes) = some bytes := by
  fun_induction encode bytes with
  | case1 => rfl
  | case2 a n =>
    have ha : a.toNat < 256 := a.toNat_lt
    have hn : n = a.toNat * 16 := rfl
    have hhigh : value? (char (n / 64)) = some (n / 64) := value?_char (by omega)
    have hlow : value? (char (n % 64)) = some (n % 64) := value?_char (by omega)
    have hjoin : n / 64 * 64 + n % 64 = n := by omega
    rw [decode?, hhigh, hlow]
    simp only [Option.bind_eq_bind, Option.bind_some, hjoin]
    rw [if_pos (by omega), show n / 16 = a.toNat by omega, UInt8.ofNat_toNat]
  | case3 a b n =>
    have ha : a.toNat < 256 := a.toNat_lt
    have hb : b.toNat < 256 := b.toNat_lt
    have hn : n = (a.toNat * 256 + b.toNat) * 4 := rfl
    have hfirst : value? (char (n / 4096)) = some (n / 4096) := value?_char (by omega)
    have hsecond : value? (char (n / 64 % 64)) = some (n / 64 % 64) := value?_char (by omega)
    have hthird : value? (char (n % 64)) = some (n % 64) := value?_char (by omega)
    have hjoin : (n / 4096 * 64 + n / 64 % 64) * 64 + n % 64 = n := by omega
    rw [decode?, hfirst, hsecond, hthird]
    · simp only [Option.bind_eq_bind, Option.bind_some, hjoin]
      rw [if_pos (by omega), show n / 1024 = a.toNat by omega, show n / 4 % 256 = b.toNat by omega,
        UInt8.ofNat_toNat, UInt8.ofNat_toNat]
    · exact char_ne_pad (by omega)
  | case4 a b c rest n ih =>
    have ha : a.toNat < 256 := a.toNat_lt
    have hb : b.toNat < 256 := b.toNat_lt
    have hc : c.toNat < 256 := c.toNat_lt
    have hn : n = (a.toNat * 256 + b.toNat) * 256 + c.toNat := rfl
    have hfirst : value? (char (n / 262144)) = some (n / 262144) := value?_char (by omega)
    have hsecond : value? (char (n / 4096 % 64)) = some (n / 4096 % 64) := value?_char (by omega)
    have hthird : value? (char (n / 64 % 64)) = some (n / 64 % 64) := value?_char (by omega)
    have hlast : value? (char (n % 64)) = some (n % 64) := value?_char (by omega)
    have hjoin :
        ((n / 262144 * 64 + n / 4096 % 64) * 64 + n / 64 % 64) * 64 + n % 64 = n := by omega
    have hpad : char (n % 64) ≠ '=' := char_ne_pad (by omega)
    -- no equals sign is written here, so this is a group of three bytes
    rw [decode?, hfirst, hsecond, hthird, hlast, ih]
    · simp only [Option.bind_eq_bind, Option.bind_some, hjoin, Option.pure_def]
      rw [show n / 65536 = a.toNat by omega, show n / 256 % 256 = b.toNat by omega,
        show n % 256 = c.toNat by omega, UInt8.ofNat_toNat, UInt8.ofNat_toNat, UInt8.ofNat_toNat]
    · exact fun _ hd => absurd hd hpad
    · exact fun hd => absurd hd hpad

end MessageSchema.Base64
