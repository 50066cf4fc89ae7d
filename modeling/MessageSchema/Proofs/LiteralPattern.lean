import MessageSchema.Schema.Keywords
import MessageSchema.Schema.WellKnown
import MessageSchema.Verify.Pattern

/-!
# Patterns of literal texts

A text in which every sign has a backslash before it is read part by part: it opens nothing and
leaves nothing open (`run?_literalPattern`). So the patterns for the start and the end of a text are
patterns whatever the text is (`isValid_startPattern`, `isValid_endPattern`). The schemas that are
generated ask no more of the syntax of patterns than this, and the same of a few fixed ones
(`PatternSyntax.TakesGenerated`).
-/

namespace MessageSchema.Pattern

namespace State

variable {s : State} {c : Char}

/-- Nothing is open, and another part may follow. -/
structure Between (s : State) : Prop where
  closed : s.around = []
  free : s.reading = .part ∨ s.reading = .repeated

theorem Between.isComplete (h : s.Between) : s.isComplete = true := by
  obtain ⟨hclosed, hpart | hrepeated⟩ := h
  · rw [State.isComplete, hclosed, hpart]; rfl
  · rw [State.isComplete, hclosed, hrepeated]; rfl

theorem run?_append (s : State) (first second : List Char) :
    s.run? (first ++ second) = (s.run? first).bind (·.run? second) := by
  induction first generalizing s with
  | nil => rfl
  | cons c rest ih =>
    rw [List.cons_append, run?, run?]
    cases s.step? c with
    | none => rfl
    | some next => exact ih next

/-- A character that is no sign is a part by itself. -/
theorem part?_of_not_sign (h : isPatternSign c = false) : s.part? c = s.add .text := by
  unfold part?
  split <;> first | rfl | exact absurd h (by decide)

/-- Between parts a character that does not change a repetition is read as a part. -/
theorem Between.step?_eq (h : s.Between) (hq : c ≠ '?') (hp : c ≠ '+') : s.step? c = s.part? c := by
  obtain hpart | hrepeated := h.free
  · rw [step?, hpart]
  · rw [step?, hrepeated]
    simp only [hq, hp, if_false]

theorem Between.add (h : s.Between) (part : Content) : ∃ t, s.add part = some t ∧ t.Between :=
  ⟨_, rfl, h.closed, .inl rfl⟩

/-- The escape of a sign is the sign. -/
theorem escape?_of_sign (h : isPatternSign c = true) : s.escape? .outside c = s.add .text := by
  have hmem := List.contains_iff_mem.1 h
  simp only [List.mem_cons, List.not_mem_nil, or_false] at hmem
  rcases hmem with rfl | rfl | rfl | rfl | rfl | rfl | rfl | rfl | rfl | rfl | rfl | rfl | rfl |
    rfl | rfl | rfl | rfl | rfl <;> rfl

/-- A character as it stands in the pattern of a text is one part. -/
theorem Between.run?_literal (h : s.Between) (c : Char) :
    ∃ t, s.run? (if isPatternSign c then ['\\', c] else [c]) = some t ∧ t.Between := by
  obtain ⟨t, ht, hbetween⟩ := h.add .text
  refine ⟨t, ?_, hbetween⟩
  cases hc : isPatternSign c with
  | true =>
    have hslash : s.step? '\\' = s.go (.escape .outside) := h.step?_eq (by decide) (by decide)
    show (s.step? '\\').bind (·.run? [c]) = some t
    rw [hslash]
    show (State.escape? _ .outside c).bind (·.run? []) = some t
    rw [escape?_of_sign hc, ← ht]
    rfl
  | false =>
    have hq : c ≠ '?' := by rintro rfl; exact absurd hc (by decide)
    have hp : c ≠ '+' := by rintro rfl; exact absurd hc (by decide)
    show (s.step? c).bind (·.run? []) = some t
    rw [h.step?_eq hq hp, part?_of_not_sign hc, ht]
    rfl

/-- The pattern of a text is read part by part. -/
theorem Between.run?_literalPattern (h : s.Between) (cs : List Char) :
    ∃ t, s.run? (literalPattern cs) = some t ∧ t.Between := by
  induction cs generalizing s with
  | nil => exact ⟨s, rfl, h⟩
  | cons c rest ih =>
    obtain ⟨next, hnext, hbetween⟩ := h.run?_literal c
    obtain ⟨t, ht, hdone⟩ := ih hbetween
    refine ⟨t, ?_, hdone⟩
    show s.run? ((if isPatternSign c then ['\\', c] else [c]) ++ literalPattern rest) = some t
    rw [run?_append, hnext]
    exact ht

theorem Between.run?_anything (h : s.Between) :
    ∃ t, s.run? ['.', '*'] = some t ∧ t.Between := by
  have hdot : s.step? '.' = s.add .text := h.step?_eq (by decide) (by decide)
  rw [run?, hdot]
  exact ⟨_, rfl, h.closed, .inr rfl⟩

theorem Between.run?_end (h : s.Between) : ∃ t, s.run? ['$'] = some t ∧ t.Between := by
  have hend : s.step? '$' = s.add .place := h.step?_eq (by decide) (by decide)
  rw [run?, hend]
  exact h.add .place

end State

theorem isValid_of_run? {cs : List Char} {t : State} (h : ({} : State).run? cs = some t)
    (hdone : t.Between) : isValid (String.ofList cs) = true := by
  rw [isValid, String.toList_ofList, h]
  exact hdone.isComplete

theorem isValid_startPattern (text : String) : isValid (startPattern text) = true := by
  obtain ⟨start, hstart, hbetween⟩ : ∃ t, ({} : State).run? ['^'] = some t ∧ t.Between :=
    ⟨_, rfl, rfl, .inl rfl⟩
  obtain ⟨middle, hmiddle, hbetween⟩ := hbetween.run?_literalPattern text.toList
  obtain ⟨t, ht, hdone⟩ := hbetween.run?_anything
  have hrun : ({} : State).run? (['^'] ++ literalPattern text.toList ++ ['.', '*']) = some t := by
    rw [State.run?_append, State.run?_append, hstart, Option.bind_some, hmiddle]
    exact ht
  exact isValid_of_run? hrun hdone

theorem isValid_endPattern (text : String) : isValid (endPattern text) = true := by
  have hfirst : ({} : State).Between := ⟨rfl, .inl rfl⟩
  obtain ⟨start, hstart, hbetween⟩ := hfirst.run?_anything
  obtain ⟨middle, hmiddle, hbetween⟩ := hbetween.run?_literalPattern text.toList
  obtain ⟨t, ht, hdone⟩ := hbetween.run?_end
  have hrun : ({} : State).run? (['.', '*'] ++ literalPattern text.toList ++ ['$']) = some t := by
    rw [State.run?_append, State.run?_append, hstart, Option.bind_some, hmiddle]
    exact ht
  exact isValid_of_run? hrun hdone

end MessageSchema.Pattern

namespace MessageSchema.PatternSyntax

/-- The patterns that are written into schemas without a rule that states them are patterns: those
of literal texts, and the fixed ones. -/
structure TakesGenerated [PatternSyntax] : Prop where
  start : ∀ text, isPattern (startPattern text) = true
  ending : ∀ text, isPattern (endPattern text) = true
  fixed : ∀ text ∈ [Fragment.decimalPattern, WellKnown.durationPattern, WellKnown.pathsPattern],
    isPattern text = true

theorem takesGenerated : TakesGenerated where
  start := Pattern.isValid_startPattern
  ending := Pattern.isValid_endPattern
  fixed := by decide +kernel

end MessageSchema.PatternSyntax
