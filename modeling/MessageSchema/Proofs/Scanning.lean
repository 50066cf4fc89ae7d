import MessageSchema.Proofs.NumberText

/-!
# Written values in tokens

Characters spell tokens if they are scanned as these wherever something follows that ends a number
and a word (`Token.Spells`). Numbers, words, strings and marks each spell one token, so a value that
is written in one line spells the tokens of its parts (`Json.spells_compactChars`).
-/

namespace MessageSchema

namespace Token

/-! ## One token -/

/-- What follows continues neither a number nor a word. -/
def Ends (rest : List Char) : Prop :=
  ∀ c ∈ rest.head?, isNumberChar c = false ∧ c.isLower = false

theorem ends_nil : Ends [] := nofun

/-- A bracket, a comma or a colon is a token, and ends what comes before it. -/
structure IsMark (c : Char) (token : Token) : Prop where
  starts : start? c = some ([token], .blank)
  endsNumber : isNumberChar c = false
  endsWord : c.isLower = false

theorem IsMark.ends {c : Char} {token : Token} (h : IsMark c token) (rest : List Char) :
    Ends (c :: rest) := fun d hd => by
  obtain rfl : c = d := Option.some.inj hd
  exact ⟨h.endsNumber, h.endsWord⟩

theorem isMark_openBrace : IsMark '{' .openBrace := ⟨rfl, rfl, rfl⟩
theorem isMark_closeBrace : IsMark '}' .closeBrace := ⟨rfl, rfl, rfl⟩
theorem isMark_openBracket : IsMark '[' .openBracket := ⟨rfl, rfl, rfl⟩
theorem isMark_closeBracket : IsMark ']' .closeBracket := ⟨rfl, rfl, rfl⟩
theorem isMark_comma : IsMark ',' .comma := ⟨rfl, rfl, rfl⟩
theorem isMark_colon : IsMark ':' .colon := ⟨rfl, rfl, rfl⟩

theorem start?_of_numeral {c : Char} (h : c = '-' ∨ c.isDigit = true) :
    start? c = some ([], .number [c]) := by
  have hnumber : isNumberChar c = true := by
    rcases h with rfl | h
    · rfl
    · exact isNumberChar_of_isDigit h
  have hother : ∀ d, isNumberChar d = false → c ≠ d := by
    rintro d hd rfl
    exact Bool.false_ne_true (hd.symm.trans hnumber)
  unfold start?
  rw [not_isBlank_of_isNumberChar hnumber, if_neg Bool.false_ne_true, if_neg (hother '{' rfl),
    if_neg (hother '}' rfl), if_neg (hother '[' rfl), if_neg (hother ']' rfl),
    if_neg (hother ',' rfl), if_neg (hother ':' rfl), if_neg (hother '"' rfl), if_pos]
  simpa only [Bool.or_eq_true, decide_eq_true_eq] using h

variable [DecimalRounding]

/-- Characters that are scanned as the given tokens, whatever follows if only it ends them. -/
def Spells (tokens : List Token) (cs : List Char) : Prop :=
  ∀ rest, Ends rest → scanFrom? .blank (cs ++ rest) = (scanFrom? .blank rest).map (tokens ++ ·)

theorem Spells.scan? {tokens : List Token} {cs : List Char} (h : Spells tokens cs) :
    scan? cs = some tokens := by
  have hscan := h [] ends_nil
  rw [List.append_nil] at hscan
  rw [Token.scan?, hscan]
  simp only [scanFrom?, finish?, Option.map_some, List.append_nil]

theorem spells_nil : Spells [] [] := fun rest _ => by
  rw [List.nil_append]
  exact Option.map_id'.symm

theorem scanFrom?_cons {reading next : Reading} {c : Char} {tokens : List Token}
    (h : step? reading c = some (tokens, next)) (rest : List Char) :
    scanFrom? reading (c :: rest) = (scanFrom? next rest).map (tokens ++ ·) := by
  rw [scanFrom?, h]
  change (scanFrom? next rest).bind (fun more => some (tokens ++ more)) = _
  exact Option.map_eq_bind.symm

/-- A token that is ended by what follows is followed by the tokens of that. -/
theorem scanFrom?_ends {reading : Reading} {token : Token} {rest : List Char}
    (hfinish : finish? reading = some [token])
    (hstep : ∀ c ∈ rest.head?, step? reading c = step?.finishBefore c reading) :
    scanFrom? reading rest = (scanFrom? .blank rest).map (token :: ·) := by
  cases rest with
  | nil =>
    rw [scanFrom?, scanFrom?, hfinish]
    rfl
  | cons c rest =>
    have hbefore := hstep c rfl
    have hblank : step? .blank c = start? c := rfl
    rw [step?.finishBefore, hfinish] at hbefore
    cases hstart : start? c with
    | none =>
      rw [hstart] at hbefore
      rw [scanFrom?, scanFrom?, hbefore, hblank, hstart]
      rfl
    | some started =>
      obtain ⟨tokens, next⟩ := started
      rw [hstart] at hbefore
      rw [scanFrom?_cons hbefore, scanFrom?_cons (hblank.trans hstart), Option.map_map]
      rfl

/-- A character that makes no token leads from one state to another. -/
theorem scanFrom?_silent {reading next : Reading} {c : Char}
    (h : step? reading c = some ([], next)) (rest : List Char) :
    scanFrom? reading (c :: rest) = scanFrom? next rest := by
  rw [scanFrom?_cons h]
  exact Option.map_id'

section Spells

variable {tokens more : List Token} {cs ds : List Char} {c : Char} {token : Token}

theorem Spells.mark (h : Spells tokens cs) (hc : IsMark c token) :
    Spells (token :: tokens) (c :: cs) := fun rest hrest => by
  have hstep : step? .blank c = some ([token], .blank) := hc.starts
  rw [List.cons_append, scanFrom?_cons hstep, h rest hrest, Option.map_map]
  rfl

/-- Two parts with a mark between them. -/
theorem Spells.append_mark (h : Spells tokens cs) (hc : IsMark c token) (hmore : Spells more ds) :
    Spells (tokens ++ token :: more) (cs ++ c :: ds) := fun rest hrest => by
  rw [List.append_assoc, h (c :: ds ++ rest) (hc.ends _), hmore.mark hc rest hrest, Option.map_map]
  congr 1
  funext others
  exact (List.append_assoc tokens _ others).symm

end Spells

/-! ## Numbers -/

theorem scanFrom?_number {cs rest : List Char} (hcs : ∀ c ∈ cs, isNumberChar c = true)
    (before : List Char) :
    scanFrom? (.number before) (cs ++ rest) = scanFrom? (.number (cs.reverse ++ before)) rest := by
  induction cs generalizing before with
  | nil => rfl
  | cons c cs ih =>
    have hstep : step? (.number before) c = some ([], .number (c :: before)) := by
      rw [step?, if_pos (hcs c List.mem_cons_self)]
    rw [List.cons_append, scanFrom?_silent hstep, ih (fun d hd => hcs d (.tail _ hd)),
      List.reverse_cons, List.append_assoc]
    rfl

/-- A numeral is one token as long as nothing else follows. -/
theorem scanFrom?_numeral {cs : List Char} (hcs : IsNumeral cs) (rest : List Char) :
    scanFrom? .blank (cs ++ rest) = scanFrom? (.number cs.reverse) rest := by
  obtain ⟨c, hc, hfirst⟩ := hcs.head
  obtain ⟨tail, rfl⟩ := List.head?_eq_some_iff.1 hc
  have hstep : step? .blank c = some ([], .number [c]) := start?_of_numeral hfirst
  rw [List.cons_append, scanFrom?_silent hstep,
    scanFrom?_number (fun d hd => hcs.all d (.tail _ hd)), ← List.reverse_cons]

theorem scan?_numeral {cs : List Char} (hcs : IsNumeral cs) :
    scan? cs = (ofNumber? cs).map ([·]) := by
  have hscan := scanFrom?_numeral hcs []
  rw [List.append_nil] at hscan
  rw [scan?, hscan, scanFrom?, finish?, List.reverse_reverse]

theorem spells_numeral {cs : List Char} {token : Token} (hcs : IsNumeral cs)
    (htoken : ofNumber? cs = some token) : Spells [token] cs := fun rest hrest => by
  rw [scanFrom?_numeral hcs]
  refine scanFrom?_ends ?_ fun d hd => ?_
  · rw [finish?, List.reverse_reverse, htoken]
    rfl
  · rw [step?, if_neg (by rw [(hrest d hd).1]; exact Bool.false_ne_true)]

/-! ## Words -/

theorem scanFrom?_word {cs rest : List Char} (hcs : ∀ c ∈ cs, c.isLower = true)
    (before : List Char) :
    scanFrom? (.word before) (cs ++ rest) = scanFrom? (.word (cs.reverse ++ before)) rest := by
  induction cs generalizing before with
  | nil => rfl
  | cons c cs ih =>
    have hstep : step? (.word before) c = some ([], .word (c :: before)) := by
      rw [step?, if_pos (hcs c List.mem_cons_self)]
    rw [List.cons_append, scanFrom?_silent hstep, ih (fun d hd => hcs d (.tail _ hd)),
      List.reverse_cons, List.append_assoc]
    rfl

theorem spells_word {c : Char} {cs : List Char} {token : Token}
    (hfirst : start? c = some ([], .word [c])) (hcs : ∀ d ∈ cs, d.isLower = true)
    (htoken : ofWord? (c :: cs) = some token) : Spells [token] (c :: cs) := fun rest hrest => by
  have hstep : step? .blank c = some ([], .word [c]) := hfirst
  rw [List.cons_append, scanFrom?_silent hstep, scanFrom?_word hcs, ← List.reverse_cons]
  refine scanFrom?_ends ?_ fun d hd => ?_
  · rw [finish?, List.reverse_reverse, htoken]
    rfl
  · rw [step?, if_neg (by rw [(hrest d hd).2]; exact Bool.false_ne_true)]

theorem spells_null : Spells [.null] ['n', 'u', 'l', 'l'] :=
  spells_word rfl (List.all_eq_true.1 rfl) rfl

theorem spells_true : Spells [.bool true] ['t', 'r', 'u', 'e'] :=
  spells_word rfl (List.all_eq_true.1 rfl) rfl

theorem spells_false : Spells [.bool false] ['f', 'a', 'l', 's', 'e'] :=
  spells_word rfl (List.all_eq_true.1 rfl) rfl

/-! ## Strings -/

theorem scanFrom?_plain {c : Char} (hquote : c ≠ '"') (hbackslash : c ≠ '\\')
    (before rest : List Char) :
    scanFrom? (.string before false) (c :: rest) =
      scanFrom? (.string (c :: before) false) rest := by
  refine scanFrom?_silent ?_ rest
  rw [step?, if_neg hquote, decide_eq_false hbackslash]

/-- After a backslash any character belongs to the string. -/
theorem scanFrom?_escape (c : Char) (before rest : List Char) :
    scanFrom? (.string before false) ('\\' :: c :: rest) =
      scanFrom? (.string (c :: '\\' :: before) false) rest := by
  rw [scanFrom?_silent (show step? _ _ = some ([], .string ('\\' :: before) true) from rfl),
    scanFrom?_silent (show step? _ _ = some ([], .string (c :: '\\' :: before) false) from rfl)]

/-- A character is written so that the string goes on after it. -/
theorem scanFrom?_encodeChar (c : Char) (before rest : List Char) :
    scanFrom? (.string before false) (Quoted.encodeChar c ++ rest) =
      scanFrom? (.string ((Quoted.encodeChar c).reverse ++ before) false) rest := by
  have hhex : ∀ n < 16, hexDigit n ≠ '"' ∧ hexDigit n ≠ '\\' := by decide
  unfold Quoted.encodeChar
  split
  · exact scanFrom?_escape _ _ _
  next hquote =>
  split
  · exact scanFrom?_escape _ _ _
  next hbackslash =>
  iterate 5
    split
    · exact scanFrom?_escape _ _ _
  split
  · next hcontrol =>
    obtain ⟨hquote₁, hbackslash₁⟩ := hhex (c.toNat / 16) (by omega)
    obtain ⟨hquote₀, hbackslash₀⟩ := hhex (c.toNat % 16) (by omega)
    simp only [List.cons_append, List.nil_append]
    rw [scanFrom?_escape, scanFrom?_plain (by decide) (by decide),
      scanFrom?_plain (by decide) (by decide), scanFrom?_plain hquote₁ hbackslash₁,
      scanFrom?_plain hquote₀ hbackslash₀]
    rfl
  · exact scanFrom?_plain hquote hbackslash _ _

theorem scanFrom?_encode (cs before rest : List Char) :
    scanFrom? (.string before false) (Quoted.encode cs ++ rest) =
      scanFrom? (.string ((Quoted.encode cs).reverse ++ before) false) rest := by
  induction cs generalizing before with
  | nil => rfl
  | cons c cs ih =>
    have hcons : Quoted.encode (c :: cs) = Quoted.encodeChar c ++ Quoted.encode cs := rfl
    rw [hcons, List.append_assoc, scanFrom?_encodeChar, ih, List.reverse_append, List.append_assoc]

theorem spells_write (s : String) : Spells [.string (some s)] (Quoted.write s) := fun rest _ => by
  have htoken : ofString? (Quoted.encode s.toList) = some (.string (some s)) := by
    rw [ofString?, Quoted.decode?_encode]
    simp only [Option.map_some, String.ofList_toList]
  have hopen : step? .blank '"' = some ([], .string [] false) := rfl
  have hclose : step? (.string (Quoted.encode s.toList).reverse false) '"' =
      some ([.string (some s)], .blank) := by
    rw [step?, if_pos rfl, List.reverse_reverse, htoken]
    rfl
  have hwrite : Quoted.write s ++ rest = '"' :: (Quoted.encode s.toList ++ '"' :: rest) := by
    simp only [Quoted.write, List.cons_append, List.append_assoc, List.nil_append]
  rw [hwrite, scanFrom?_silent hopen, scanFrom?_encode, List.append_nil]
  exact scanFrom?_cons hclose rest

end Token

variable [DecimalRounding]

namespace Number

/-- The token of a number where it has been written. -/
def token (n : Number) : Token := .number n.readBack?

theorem spells_write {n : Number} (h : n.IsLiteral) : Token.Spells [n.token] n.write := by
  obtain ⟨l, hl⟩ := Option.isSome_iff_exists.1 h
  refine Token.spells_numeral n.isNumeral_write ?_
  rw [Token.ofNumber?, hl, Option.map_some, token, readBack?, hl, Option.bind_some]

end Number

namespace Json

/-! ## Values -/

mutual

/-- The tokens of a value. -/
def tokens : Json → List Token
  | .null => [.null]
  | .bool value => [.bool value]
  | .num n => [n.token]
  | .str s => [.string (some s)]
  | .arr items => .openBracket :: (itemTokens items ++ [.closeBracket])
  | .obj members => .openBrace :: (memberTokens members ++ [.closeBrace])

/-- The tokens of items with commas between them. -/
def itemTokens : List Json → List Token
  | [] => []
  | [item] => item.tokens
  | item :: rest => item.tokens ++ .comma :: itemTokens rest

/-- The tokens of members with commas between them. -/
def memberTokens : List (String × Json) → List Token
  | [] => []
  | [(key, value)] => .string (some key) :: .colon :: value.tokens
  | (key, value) :: rest =>
    .string (some key) :: .colon :: value.tokens ++ .comma :: memberTokens rest

end

mutual

/-- The numbers are literals where they are written, and there is room for all containers around
each other. -/
def Readable (room : Nat) : Json → Prop
  | .num n => n.IsLiteral
  | .arr items => 0 < room ∧ ItemsReadable (room - 1) items
  | .obj members => 0 < room ∧ MembersReadable (room - 1) members
  | .null | .bool _ | .str _ => True

/-- `Readable` of all items. -/
def ItemsReadable (room : Nat) : List Json → Prop
  | [] => True
  | item :: rest => item.Readable room ∧ ItemsReadable room rest

/-- `Readable` of the values of all members. -/
def MembersReadable (room : Nat) : List (String × Json) → Prop
  | [] => True
  | (_, value) :: rest => value.Readable room ∧ MembersReadable room rest

end

mutual

/-- A value is written as its tokens. -/
theorem spells_compactChars {room : Nat} :
    (v : Json) → v.Readable room → Token.Spells v.tokens v.compactChars
  | .null, _ => Token.spells_null
  | .bool true, _ => Token.spells_true
  | .bool false, _ => Token.spells_false
  | .num _, h => Number.spells_write h
  | .str s, _ => Token.spells_write s
  | .arr items, h =>
    ((spells_compactItems items h.2).append_mark Token.isMark_closeBracket Token.spells_nil).mark
      Token.isMark_openBracket
  | .obj members, h =>
    ((spells_compactMembers members h.2).append_mark Token.isMark_closeBrace Token.spells_nil).mark
      Token.isMark_openBrace

theorem spells_compactItems {room : Nat} :
    (items : List Json) → ItemsReadable room items →
      Token.Spells (itemTokens items) (compactItems items)
  | [], _ => Token.spells_nil
  | [item], h => spells_compactChars item h.1
  | item :: next :: rest, h =>
    (spells_compactChars item h.1).append_mark Token.isMark_comma
      (spells_compactItems (next :: rest) h.2)

theorem spells_compactMembers {room : Nat} :
    (members : List (String × Json)) → MembersReadable room members →
      Token.Spells (memberTokens members) (compactMembers members)
  | [], _ => Token.spells_nil
  | [(key, value)], h =>
    (Token.spells_write key).append_mark Token.isMark_colon (spells_compactChars value h.1)
  | (key, value) :: next :: rest, h =>
    ((Token.spells_write key).append_mark Token.isMark_colon
      (spells_compactChars value h.1)).append_mark Token.isMark_comma
      (spells_compactMembers (next :: rest) h.2)

end

theorem scan?_compact {v : Json} {room : Nat} (h : v.Readable room) :
    Token.scan? v.compact.toList = some v.tokens := by
  rw [compact, String.toList_ofList]
  exact (v.spells_compactChars h).scan?

end Json

end MessageSchema
