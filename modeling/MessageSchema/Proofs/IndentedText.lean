import MessageSchema.Proofs.Building

/-!
# Indented text

Blanks between two tokens mean nothing (`Token.Spells.blanks`), and like a mark they end the token
before them. So a value that is written on indented lines spells the same tokens as in one line
(`Json.spells_prettyChars`), and reads back as it does there, also where a new line follows
(`Json.read?_of_spells`).
-/

namespace MessageSchema

namespace Token

variable {tokens more : List Token} {cs ds before : List Char} {c : Char}

/-! ## Blanks -/

/-- A blank continues neither a number nor a word. -/
theorem ends_of_isBlank (h : isBlank c = true) (rest : List Char) : Ends (c :: rest) := by
  intro d hd
  obtain rfl : c = d := Option.some.inj hd
  unfold isBlank at h
  simp only [Bool.or_eq_true, decide_eq_true_eq] at h
  rcases h with ((rfl | rfl) | rfl) | rfl <;> exact ⟨rfl, rfl⟩

theorem isBlank_of_mem_newLine {depth : Nat} (h : c ∈ Json.newLine depth) : isBlank c = true := by
  rcases List.mem_cons.1 h with rfl | hspace
  · rfl
  · rw [List.eq_of_mem_replicate hspace]
    rfl

variable [DecimalRounding]

theorem Spells.blanks (h : Spells tokens cs) (hbefore : ∀ c ∈ before, isBlank c = true) :
    Spells tokens (before ++ cs) := by
  induction before with
  | nil => exact h
  | cons c before ih =>
    intro rest hrest
    have hstep : step? .blank c = some ([], .blank) := by
      rw [step?, start?, if_pos (hbefore c List.mem_cons_self)]
    rw [List.cons_append, List.cons_append, scanFrom?_silent hstep]
    exact ih (fun d hd => hbefore d (.tail _ hd)) rest hrest

/-- Two parts of which the second one ends the first. -/
theorem Spells.append (h : Spells tokens cs) (hmore : Spells more ds)
    (hends : ∀ rest, Ends rest → Ends (ds ++ rest)) : Spells (tokens ++ more) (cs ++ ds) := by
  intro rest hrest
  rw [List.append_assoc, h _ (hends rest hrest), hmore rest hrest, Option.map_map]
  congr 1
  funext others
  exact (List.append_assoc tokens more others).symm

theorem Spells.newLine (h : Spells tokens cs) (depth : Nat) :
    Spells tokens (Json.newLine depth ++ cs) :=
  h.blanks fun _ => isBlank_of_mem_newLine

/-- A mark on a line of its own. -/
theorem Spells.append_newLine_mark {token : Token} (h : Spells tokens cs) (depth : Nat)
    (hc : IsMark c token) : Spells (tokens ++ [token]) (cs ++ Json.newLine depth ++ [c]) := by
  rw [List.append_assoc]
  exact h.append ((spells_nil.mark hc).newLine depth) fun _ _ => ends_of_isBlank rfl _

/-- A new line at the end of a text. -/
theorem Spells.append_newLine (h : Spells tokens cs) : Spells tokens (cs ++ ['\n']) := by
  have hblank : Spells [] ['\n'] := spells_nil.newLine 0
  have happend := h.append hblank fun _ _ => ends_of_isBlank rfl _
  rwa [List.append_nil] at happend

end Token

namespace Json

variable [DecimalRounding]

/-! ## Values -/

mutual

/-- Indented lines spell the tokens of the value. -/
theorem spells_prettyChars {room : Nat} (depth : Nat) :
    (v : Json) → v.Readable room → Token.Spells v.tokens (v.prettyChars depth)
  | .null, _ => Token.spells_null
  | .bool true, _ => Token.spells_true
  | .bool false, _ => Token.spells_false
  | .num _, h => Number.spells_write h
  | .str s, _ => Token.spells_write s
  | .arr [], _ => (Token.spells_nil.mark Token.isMark_closeBracket).mark Token.isMark_openBracket
  | .arr (item :: rest), h =>
    ((spells_prettyItems (depth + 1) (item :: rest) h.2).append_newLine_mark depth
      Token.isMark_closeBracket).mark Token.isMark_openBracket
  | .obj [], _ => (Token.spells_nil.mark Token.isMark_closeBrace).mark Token.isMark_openBrace
  | .obj (member :: rest), h =>
    ((spells_prettyMembers (depth + 1) (member :: rest) h.2).append_newLine_mark depth
      Token.isMark_closeBrace).mark Token.isMark_openBrace

theorem spells_prettyItems {room : Nat} (depth : Nat) :
    (items : List Json) → ItemsReadable room items →
      Token.Spells (itemTokens items) (prettyItems depth items)
  | [], _ => Token.spells_nil
  | [item], h => (spells_prettyChars depth item h.1).newLine depth
  | item :: next :: rest, h =>
    ((spells_prettyChars depth item h.1).newLine depth).append_mark Token.isMark_comma
      (spells_prettyItems depth (next :: rest) h.2)

theorem spells_prettyMembers {room : Nat} (depth : Nat) :
    (members : List (String × Json)) → MembersReadable room members →
      Token.Spells (memberTokens members) (prettyMembers depth members)
  | [], _ => Token.spells_nil
  | [(key, value)], h =>
    ((Token.spells_write key).newLine depth).append_mark Token.isMark_colon
      ((spells_prettyChars depth value h.1).blanks (List.forall_mem_singleton.2 rfl))
  | (key, value) :: next :: rest, h =>
    (((Token.spells_write key).newLine depth).append_mark Token.isMark_colon
      ((spells_prettyChars depth value h.1).blanks (List.forall_mem_singleton.2 rfl))).append_mark
      Token.isMark_comma (spells_prettyMembers depth (next :: rest) h.2)

end

/-- Whatever spells the tokens of a value is read as what the value is respelled as. -/
theorem read?_of_spells {v : Json} {text : String} (h : v.Readable Written.greatestDepth)
    (hspells : Token.Spells v.tokens text.toList) : Written.read? text = some v.respelled := by
  rw [← read?_compact h, Written.read?, Written.read?, hspells.scan?, scan?_compact h]

end Json

end MessageSchema
