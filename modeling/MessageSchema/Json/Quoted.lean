import MessageSchema.Number.Hexadecimal

/-!
# Quoted strings of JSON text

A string is written between quotes, with a backslash before a quote and a backslash, the short
escapes for five control characters, and `\u00` and two hexadecimal digits for the others. Reading
takes every escape of JSON; a pair of surrogate escapes stands for one character, and a surrogate
escape without its partner stands for none, which is told apart from text that is no string at all.
Main statement: what is written reads back (`decode?_encode`).
-/

namespace MessageSchema.Quoted

/-- A character as it is written between quotes. -/
def encodeChar (c : Char) : List Char :=
  if c = '"' then ['\\', '"']
  else if c = '\\' then ['\\', '\\']
  else if c = '\x08' then ['\\', 'b']
  else if c = '\x0c' then ['\\', 'f']
  else if c = '\n' then ['\\', 'n']
  else if c = '\r' then ['\\', 'r']
  else if c = '\t' then ['\\', 't']
  else if c.toNat < 32 then
    ['\\', 'u', '0', '0', hexDigit (c.toNat / 16), hexDigit (c.toNat % 16)]
  else [c]

/-- The characters as they are written between quotes. -/
def encode (cs : List Char) : List Char := cs.flatMap encodeChar

/-- A string with its quotes. -/
def write (s : String) : List Char := '"' :: encode s.toList ++ ['"']

/-- What one item between quotes spells: a character, or a unit of 16 bits that is half of a
surrogate pair. -/
inductive Unit16 where
  | char (c : Char)
  | high (u : Nat)
  | low (u : Nat)

/-- The unit that four hexadecimal digits spell. -/
def Unit16.ofCode (u : Nat) : Unit16 :=
  if 0xD800 ≤ u ∧ u < 0xDC00 then .high (u - 0xD800)
  else if 0xDC00 ≤ u ∧ u < 0xE000 then .low (u - 0xDC00)
  else .char (Char.ofNat u)

/-- The character of a one-letter escape. -/
def shortEscape? (c : Char) : Option Char :=
  if c = '"' then some '"'
  else if c = '\\' then some '\\'
  else if c = '/' then some '/'
  else if c = 'b' then some '\x08'
  else if c = 'f' then some '\x0c'
  else if c = 'n' then some '\n'
  else if c = 'r' then some '\r'
  else if c = 't' then some '\t'
  else none

/-- The number that four hexadecimal digits spell. -/
def code? (a b c d : Char) : Option Nat := do
  let a ← hexValue? a
  let b ← hexValue? b
  let c ← hexValue? c
  let d ← hexValue? d
  return ((a * 16 + b) * 16 + c) * 16 + d

/-- The items between quotes; none for a bare control character or an escape that is none. -/
def units? : List Char → Option (List Unit16)
  | [] => some []
  | '\\' :: 'u' :: a :: b :: c :: d :: rest =>
    (code? a b c d).bind fun u => (units? rest).map (.ofCode u :: ·)
  | '\\' :: c :: rest =>
    (shortEscape? c).bind fun c => (units? rest).map (.char c :: ·)
  | '\\' :: [] => none
  | c :: rest => if c.toNat < 32 then none else (units? rest).map (.char c :: ·)

/-- The characters of a list of units; none if half of a surrogate pair stands alone. -/
def join? : List Unit16 → Option (List Char)
  | [] => some []
  | .char c :: rest => (join? rest).map (c :: ·)
  | .high u :: .low v :: rest => (join? rest).map (Char.ofNat (0x10000 + u * 1024 + v) :: ·)
  | .high _ :: _ => none
  | .low _ :: _ => none

/-- The characters spelled between quotes: none if that is no string, and `some none` if it is one
that spells no text. -/
def decode? (cs : List Char) : Option (Option (List Char)) :=
  (units? cs).map join?

/-- A control character is read from the two digits it is written with. -/
theorem ofCode_of_control {c : Char} (h : c.toNat < 32) :
    (code? '0' '0' (hexDigit (c.toNat / 16)) (hexDigit (c.toNat % 16))).map Unit16.ofCode =
      some (.char c) := by
  have hn : c.toNat / 16 * 16 + c.toNat % 16 = c.toNat := by omega
  have hc : Unit16.ofCode c.toNat = .char c := by
    unfold Unit16.ofCode
    rw [if_neg (by omega), if_neg (by omega), Char.ofNat_toNat]
  simp [code?, show hexValue? '0' = some 0 by decide,
    hexValue?_hexDigit (show c.toNat / 16 < 16 by omega),
    hexValue?_hexDigit (show c.toNat % 16 < 16 by omega), hn, hc]

/-- A written character is read as that character. -/
theorem units?_encodeChar (c : Char) (rest : List Char) :
    units? (encodeChar c ++ rest) = (units? rest).map (.char c :: ·) := by
  unfold encodeChar
  split
  · subst_vars; simp [units?, shortEscape?]
  split
  · subst_vars; simp [units?, shortEscape?]
  split
  · subst_vars; simp [units?, shortEscape?]
  split
  · subst_vars; simp [units?, shortEscape?]
  split
  · subst_vars; simp [units?, shortEscape?]
  split
  · subst_vars; simp [units?, shortEscape?]
  split
  · subst_vars; simp [units?, shortEscape?]
  split
  · rename_i h
    obtain ⟨u, hu, hc⟩ := Option.map_eq_some_iff.1 (ofCode_of_control h)
    simp [units?, hu, hc]
  · rename_i _ hbackslash _ _ _ _ _ hcontrol
    simp [units?, hbackslash, hcontrol]

/-- What is written reads back. -/
theorem decode?_encode (cs : List Char) : decode? (encode cs) = some (some cs) := by
  unfold decode?
  suffices h : units? (encode cs) = some (cs.map .char) ∧ join? (cs.map .char) = some cs by
    simp [h]
  induction cs with
  | nil => exact ⟨rfl, rfl⟩
  | cons c rest ih =>
    refine ⟨?_, ?_⟩
    · rw [encode, List.flatMap_cons, units?_encodeChar]
      have := ih.1
      rw [encode] at this
      simp [this]
    · simp [join?, ih.2]

end MessageSchema.Quoted
