import MessageSchema.Text.Base64
import Mathlib.Data.List.Forall2
import Mathlib.Data.Nat.Digits.Lemmas

/-!
# Base64 texts

Characters of base64 come in groups of four, each for three bytes (`Base64.Spells`): both are digits
of one number, the characters by their places in the alphabet. This determines the text, and writing
keeps to it, so that reading accepts exactly what is written (`Base64.decode?_eq_some_iff`): each
sequence of bytes has one text.
-/

namespace MessageSchema.Base64

variable {cs ds : List Char} {bytes : List UInt8} {a b c : UInt8} {n : Nat}

/-! ## Texts that are read -/

theorem char_of_value? {c : Char} (h : value? c = some n) : n < 64 ∧ char n = c := by
  have hchar : ∀ code, code = c.toNat → Char.ofNat code = c := fun code hcode => by
    rw [hcode, Char.ofNat_toNat]
  have hle : ∀ a b : Char, a ≤ b ↔ a.toNat ≤ b.toNat := fun _ _ => UInt32.le_iff_toNat_le
  unfold value? at h
  split at h
  · next hupper =>
    rw [hle, hle] at hupper
    change 65 ≤ c.toNat ∧ c.toNat ≤ 90 at hupper
    obtain rfl := Option.some.inj h
    refine ⟨by omega, ?_⟩
    rw [char, if_pos (by omega)]
    exact hchar _ (by omega)
  split at h
  · next hlower =>
    rw [hle, hle] at hlower
    change 97 ≤ c.toNat ∧ c.toNat ≤ 122 at hlower
    obtain rfl := Option.some.inj h
    refine ⟨by omega, ?_⟩
    rw [char, if_neg (by omega), if_pos (by omega)]
    exact hchar _ (by omega)
  split at h
  · next hdigit =>
    rw [hle, hle] at hdigit
    change 48 ≤ c.toNat ∧ c.toNat ≤ 57 at hdigit
    obtain rfl := Option.some.inj h
    refine ⟨by omega, ?_⟩
    rw [char, if_neg (by omega), if_neg (by omega), if_pos (by omega)]
    exact hchar _ (by omega)
  split at h
  · next hplus =>
    cases h
    exact ⟨by decide, hplus.symm⟩
  split at h
  · next hslash =>
    cases h
    exact ⟨by decide, hslash.symm⟩
  · cases h

/-- A text that is read begins with a character of the alphabet. -/
theorem exists_char_of_bind {c : Char} {next : Nat → Option (List UInt8)}
    (h : (value? c).bind next = some bytes) : ∃ n < 64, char n = c ∧ next n = some bytes := by
  obtain ⟨n, hn, hnext⟩ := Option.bind_eq_some_iff.1 h
  obtain ⟨hlt, hchar⟩ := char_of_value? hn
  exact ⟨n, hlt, hchar, hnext⟩

/-- What is read is what the bytes are written as. -/
theorem encode_of_decode? (h : decode? cs = some bytes) : encode bytes = cs := by
  have hbyte : ∀ n < 256, (UInt8.ofNat n).toNat = n := fun _ => UInt8.toNat_ofNat_of_lt
  fun_induction decode? cs generalizing bytes with
  | case1 =>
    cases h
    rfl
  | case2 a b =>
    obtain ⟨m, hm, rfl, hsecond⟩ := exists_char_of_bind h
    obtain ⟨n, hn, rfl, hgroup⟩ := exists_char_of_bind hsecond
    -- the four bits that are left over are zero
    obtain ⟨hzero, hbytes⟩ := Option.ite_none_right_eq_some.1 hgroup
    obtain rfl := Option.some.inj hbytes
    simp only [encode, hbyte ((m * 64 + n) / 16) (by omega)]
    rw [show (m * 64 + n) / 16 * 16 / 64 = m by omega,
      show (m * 64 + n) / 16 * 16 % 64 = n by omega]
  | case3 a b c =>
    obtain ⟨l, hl, rfl, hsecond⟩ := exists_char_of_bind h
    obtain ⟨m, hm, rfl, hthird⟩ := exists_char_of_bind hsecond
    obtain ⟨n, hn, rfl, hgroup⟩ := exists_char_of_bind hthird
    -- the two bits that are left over are zero
    obtain ⟨hzero, hbytes⟩ := Option.ite_none_right_eq_some.1 hgroup
    obtain rfl := Option.some.inj hbytes
    have hjoin : (((l * 64 + m) * 64 + n) / 1024 * 256 + ((l * 64 + m) * 64 + n) / 4 % 256) * 4 =
        (l * 64 + m) * 64 + n := by omega
    simp only [encode, hbyte (((l * 64 + m) * 64 + n) / 1024) (by omega),
      hbyte (((l * 64 + m) * 64 + n) / 4 % 256) (by omega), hjoin]
    rw [show ((l * 64 + m) * 64 + n) / 4096 = l by omega,
      show ((l * 64 + m) * 64 + n) / 64 % 64 = m by omega,
      show ((l * 64 + m) * 64 + n) % 64 = n by omega]
  | case4 a b c d rest _ _ ih =>
    obtain ⟨k, hk, rfl, hsecond⟩ := exists_char_of_bind h
    obtain ⟨l, hl, rfl, hthird⟩ := exists_char_of_bind hsecond
    obtain ⟨m, hm, rfl, hfourth⟩ := exists_char_of_bind hthird
    obtain ⟨n, hn, rfl, hrest⟩ := exists_char_of_bind hfourth
    obtain ⟨others, hothers, hbytes⟩ := Option.bind_eq_some_iff.1 hrest
    obtain rfl := Option.some.inj hbytes
    generalize hgroup : ((k * 64 + l) * 64 + m) * 64 + n = group
    have hjoin : (group / 65536 * 256 + group / 256 % 256) * 256 + group % 256 = group := by omega
    simp only [encode, hbyte (group / 65536) (by omega), hbyte (group / 256 % 256) (by omega),
      hbyte (group % 256) (by omega), hjoin, ih hothers]
    rw [show group / 262144 = k by omega, show group / 4096 % 64 = l by omega,
      show group / 64 % 64 = m by omega, show group % 64 = n by omega]
  | case5 => cases h

/-! ## Digits of one number -/

/-- The sixty-four characters, each at the place of its number. -/
def alphabet : List Char :=
  "ABCDEFGHIJKLMNOPQRSTUVWXYZabcdefghijklmnopqrstuvwxyz0123456789+/".toList

theorem getElem?_alphabet (h : n < 64) : alphabet[n]? = some (char n) := by
  have hall : ∀ n < 64, alphabet[n]? = some (char n) := by decide
  exact hall n h

theorem lt_of_forall₂ {sextets : List Nat} {body : List Char}
    (h : List.Forall₂ (fun n c => alphabet[n]? = some c) sextets body) : ∀ n ∈ sextets, n < 64 := by
  induction h with
  | nil => exact fun _ h => absurd h List.not_mem_nil
  | cons hfirst _ ih => exact List.forall_mem_cons.2 ⟨(List.getElem?_eq_some_iff.1 hfirst).1, ih⟩

/-- The number of the digits, the first of them the leading one. -/
def spelled (base : Nat) (digits : List Nat) : Nat := Nat.ofDigits base digits.reverse

theorem spelled_append (base : Nat) (leading digits : List Nat) :
    spelled base (leading ++ digits) =
      spelled base leading * base ^ digits.length + spelled base digits := by
  rw [spelled, List.reverse_append, Nat.ofDigits_append, List.length_reverse, Nat.mul_comm,
    Nat.add_comm]
  rfl

/-- The text is groups of four characters, for three bytes each; equals signs take the places of the
characters that the last group does not need. The characters are the digits of a number to the base
of 64, the bytes are digits to the base of 256, and it is the same number but for the bits that are
left over, two for each equals sign, which are zero. -/
def Spells (cs : List Char) (bytes : List UInt8) : Prop :=
  ∃ (body : List Char) (sextets : List Nat) (padding count : Nat),
    cs = body ++ List.replicate padding '=' ∧ padding ≤ 2 ∧
    List.Forall₂ (fun n c => alphabet[n]? = some c) sextets body ∧
    body.length + padding = 4 * count ∧ bytes.length + padding = 3 * count ∧
    spelled 64 sextets = spelled 256 (bytes.map UInt8.toNat) * 4 ^ padding

/-- Three bytes more are four characters more: both are the digits of one number. -/
theorem Spells.group (h : Spells cs bytes) (hn : n = (a.toNat * 256 + b.toNat) * 256 + c.toNat) :
    Spells (char (n / 262144) :: char (n / 4096 % 64) :: char (n / 64 % 64) :: char (n % 64) :: cs)
      (a :: b :: c :: bytes) := by
  have ha : a.toNat < 256 := a.toNat_lt
  have hb : b.toNat < 256 := b.toNat_lt
  have hc : c.toNat < 256 := c.toNat_lt
  obtain ⟨body, sextets, padding, count, rfl, hfew, hbody, hchars, hbytes, hnumber⟩ := h
  have hfour : spelled 64 [n / 262144, n / 4096 % 64, n / 64 % 64, n % 64] = n := by
    simp only [spelled, List.reverse, List.reverseAux, Nat.ofDigits_cons, Nat.ofDigits_nil]
    omega
  have hthree : spelled 256 [a.toNat, b.toNat, c.toNat] = n := by
    simp only [spelled, List.reverse, List.reverseAux, Nat.ofDigits_cons, Nat.ofDigits_nil]
    omega
  have hpower : 64 ^ sextets.length = 256 ^ bytes.length * 4 ^ padding := by
    rw [show 64 = 4 ^ 3 from rfl, show 256 = 4 ^ 4 from rfl, ← Nat.pow_mul, ← Nat.pow_mul,
      ← Nat.pow_add, hbody.length_eq]
    congr 1
    omega
  refine ⟨char (n / 262144) :: char (n / 4096 % 64) :: char (n / 64 % 64) :: char (n % 64) :: body,
    [n / 262144, n / 4096 % 64, n / 64 % 64, n % 64] ++ sextets, padding, count + 1, rfl, hfew, ?_,
    ?_, ?_, ?_⟩
  · exact .cons (getElem?_alphabet (by omega)) (.cons (getElem?_alphabet (by omega))
      (.cons (getElem?_alphabet (by omega)) (.cons (getElem?_alphabet (by omega)) hbody)))
  · simp only [List.length_cons]
    omega
  · simp only [List.length_cons]
    omega
  · have hapart : (a :: b :: c :: bytes).map UInt8.toNat =
        [a.toNat, b.toNat, c.toNat] ++ bytes.map UInt8.toNat := rfl
    rw [hapart, spelled_append, spelled_append, hfour, hthree, hnumber, List.length_map, hpower,
      Nat.add_mul, Nat.mul_assoc]

/-- What is written spells the bytes. -/
theorem spells_encode (bytes : List UInt8) : Spells (encode bytes) bytes := by
  fun_induction encode bytes with
  | case1 => exact ⟨[], [], 0, 0, rfl, by omega, .nil, rfl, rfl, rfl⟩
  | case2 a n =>
    have ha : a.toNat < 256 := a.toNat_lt
    have hn : n = a.toNat * 16 := rfl
    refine ⟨[char (n / 64), char (n % 64)], [n / 64, n % 64], 2, 1, rfl, by omega, ?_, rfl, rfl, ?_⟩
    · exact .cons (getElem?_alphabet (by omega)) (.cons (getElem?_alphabet (by omega)) .nil)
    · simp only [spelled, List.map, List.reverse, List.reverseAux, Nat.ofDigits_cons,
        Nat.ofDigits_nil]
      omega
  | case3 a b n =>
    have ha : a.toNat < 256 := a.toNat_lt
    have hb : b.toNat < 256 := b.toNat_lt
    have hn : n = (a.toNat * 256 + b.toNat) * 4 := rfl
    refine ⟨[char (n / 4096), char (n / 64 % 64), char (n % 64)],
      [n / 4096, n / 64 % 64, n % 64], 1, 1, rfl, by omega, ?_, rfl, rfl, ?_⟩
    · exact .cons (getElem?_alphabet (by omega)) (.cons (getElem?_alphabet (by omega))
        (.cons (getElem?_alphabet (by omega)) .nil))
    · simp only [spelled, List.map, List.reverse, List.reverseAux, Nat.ofDigits_cons,
        Nat.ofDigits_nil]
      omega
  | case4 a b c rest n ih => exact ih.group rfl

/-- Bytes are spelled by one text. -/
theorem Spells.eq (hc : Spells cs bytes) (hd : Spells ds bytes) : cs = ds := by
  obtain ⟨body, sextets, padding, count, rfl, hfew, hbody, hchars, hbytes, hnumber⟩ := hc
  obtain ⟨body', sextets', padding', count', rfl, hfew', hbody', hchars', hbytes', hnumber'⟩ := hd
  have hpadding : padding = padding' := by omega
  subst hpadding
  have hsextets : sextets = sextets' := by
    have hlength : sextets.reverse.length = sextets'.reverse.length := by
      rw [List.length_reverse, List.length_reverse, hbody.length_eq, hbody'.length_eq]
      omega
    refine List.reverse_injective (Nat.ofDigits_inj_of_len_eq (by decide : 1 < 64) hlength
      (fun n hn => ?_) (fun n hn => ?_) (hnumber.trans hnumber'.symm))
    · exact lt_of_forall₂ hbody n (List.mem_reverse.1 hn)
    · exact lt_of_forall₂ hbody' n (List.mem_reverse.1 hn)
  subst hsextets
  rw [List.right_unique_forall₂' (fun n c d h h' => Option.some.inj (h.symm.trans h')) hbody hbody']

theorem decode?_eq_some_iff : decode? cs = some bytes ↔ Spells cs bytes := by
  constructor
  · intro h
    rw [← encode_of_decode? h]
    exact spells_encode bytes
  · intro h
    rw [h.eq (spells_encode bytes)]
    exact decode?_encode bytes

end MessageSchema.Base64
