import MessageSchema.Proofs.RuleKeys

/-!
# What patterns match

A pattern is searched for in a text: its parts have to match one after the other from some place on.
Read here are the parts that have no parts of their own, that is characters, any character, a range
in brackets, all of them possibly repeated, and the two ends of the text; in front of a sign that
has a meaning of its own a backslash takes that meaning away. So the pattern of a literal text
matches that text and nothing else (`matchesAt_literals`). Main statement: the patterns that rules
for strings state are found in the texts with the given start or end (`Json.withRules_affixes`).
-/

namespace MessageSchema.Pattern

/-! ## Parts -/

inductive Charset where
  | only (c : Char)
  | range (first last : Char)
  /-- Any character but a newline. -/
  | any

def Charset.Has : Charset → Char → Prop
  | .only other, c => c = other
  | .range first last, c => first ≤ c ∧ c ≤ last
  | .any, c => c ≠ '\n'

instance : (set : Charset) → DecidablePred set.Has
  | .only other => fun c => inferInstanceAs (Decidable (c = other))
  | .range first last => fun c => inferInstanceAs (Decidable (first ≤ c ∧ c ≤ last))
  | .any => fun c => inferInstanceAs (Decidable (c ≠ '\n'))

/-- How many characters a part takes. -/
inductive Times where
  | once
  | atMostOnce
  | atLeastOnce
  | anyNumber

def Times.Allow : Times → Nat → Prop
  | .once, n => n = 1
  | .atMostOnce, n => n ≤ 1
  | .atLeastOnce, n => 1 ≤ n
  | .anyNumber, _ => True

instance : (times : Times) → DecidablePred times.Allow
  | .once => fun n => inferInstanceAs (Decidable (n = 1))
  | .atMostOnce => fun n => inferInstanceAs (Decidable (n ≤ 1))
  | .atLeastOnce => fun n => inferInstanceAs (Decidable (1 ≤ n))
  | .anyNumber => fun _ => inferInstanceAs (Decidable True)

inductive Part where
  | start
  | finish
  | run (set : Charset) (times : Times)

def Part.literal (c : Char) : Part := .run (.only c) .once

/-- The parts match from a place in a text on, which has some characters before and after it. -/
def MatchesAt : List Part → List Char → List Char → Prop
  | [], _, _ => True
  | .start :: rest, before, after => before = [] ∧ MatchesAt rest before after
  | .finish :: rest, before, after => after = [] ∧ MatchesAt rest before after
  | .run set times :: rest, before, after => ∃ taken left, taken ++ left = after ∧
      (times.Allow taken.length ∧ ∀ c ∈ taken, set.Has c) ∧ MatchesAt rest (before ++ taken) left

/-- The parts match from some place in a text on. -/
def FoundIn (parts : List Part) (text : List Char) : Prop :=
  ∃ before after, before ++ after = text ∧ MatchesAt parts before after

/-- There are as many ways to split a list as there are places in it. -/
theorem exists_split_iff {α : Type} {P : List α → List α → Prop} {xs : List α} :
    (∃ front back, front ++ back = xs ∧ P front back) ↔
      ∃ n < xs.length + 1, P (xs.take n) (xs.drop n) := by
  constructor
  · rintro ⟨front, back, rfl, h⟩
    refine ⟨front.length, ?_, ?_⟩
    · rw [List.length_append]
      omega
    · simpa using h
  · rintro ⟨n, -, h⟩
    exact ⟨_, _, List.take_append_drop n xs, h⟩

instance decidableMatchesAt : (parts : List Part) → (before after : List Char) →
    Decidable (MatchesAt parts before after)
  | [], _, _ => .isTrue trivial
  | .start :: rest, before, after =>
    have := decidableMatchesAt rest before after
    inferInstanceAs (Decidable (before = [] ∧ MatchesAt rest before after))
  | .finish :: rest, before, after =>
    have := decidableMatchesAt rest before after
    inferInstanceAs (Decidable (after = [] ∧ MatchesAt rest before after))
  | .run set _ :: rest, _, _ =>
    -- one by one, as there are too many characters to try them all
    have : ∀ taken : List Char, Decidable (∀ c ∈ taken, set.Has c) := List.decidableBAll set.Has
    have := decidableMatchesAt rest
    decidable_of_iff _ exists_split_iff.symm

instance (parts : List Part) (text : List Char) : Decidable (FoundIn parts text) :=
  decidable_of_iff _ exists_split_iff.symm

/-! ## Reading the parts -/

inductive Expects where
  | part
  /-- A sign after a backslash. -/
  | sign
  /-- The inside of brackets, as far as it has not been read. -/
  | first
  | dash (first : Char)
  | last (first : Char)
  | bracket (first last : Char)

/-- The parts that have been read, the last one first. -/
structure Reader where
  parts : List Part := []
  expects : Expects := .part

namespace Reader

def push (r : Reader) (part : Part) : Reader := { parts := part :: r.parts }

/-- The last part is repeated, unless it is an end of the text or repeated already. -/
def repeat? (r : Reader) (times : Times) : Option Reader :=
  match r.parts with
  | .run set .once :: rest => some { parts := .run set times :: rest }
  | _ => none

/-- Reads a character with which a part begins or by which the last one is repeated. Groups,
alternatives and counts are not read. -/
def part? (r : Reader) (c : Char) : Option Reader :=
  match c with
  | '^' => some (r.push .start)
  | '$' => some (r.push .finish)
  | '.' => some (r.push (.run .any .once))
  | '*' => r.repeat? .anyNumber
  | '+' => r.repeat? .atLeastOnce
  | '?' => r.repeat? .atMostOnce
  | '\\' => some { r with expects := .sign }
  | '[' => some { r with expects := .first }
  | '(' | ')' | '|' | ']' | '\x7b' | '\x7d' => none
  | _ => some (r.push (.literal c))

def step? (r : Reader) (c : Char) : Option Reader :=
  match r.expects with
  | .part => r.part? c
  | .sign => if isPatternSign c then some (r.push (.literal c)) else none
  | .first => if isPatternSign c then none else some { r with expects := .dash c }
  | .dash first => if c = '-' then some { r with expects := .last first } else none
  | .last first =>
    if isPatternSign c ∨ c < first then none else some { r with expects := .bracket first c }
  | .bracket first last => if c = ']' then some (r.push (.run (.range first last) .once)) else none

def done? (r : Reader) : Option (List Part) :=
  match r.expects with
  | .part => some r.parts.reverse
  | _ => none

end Reader

/-- The parts of a pattern, if all of it can be read. -/
def parts? (pattern : String) : Option (List Part) :=
  (pattern.toList.foldlM Reader.step? {}).bind Reader.done?

/-- A pattern is found in a text. -/
def Matches (pattern text : String) : Prop := ∃ parts ∈ parts? pattern, FoundIn parts text.toList

instance (pattern text : String) : Decidable (Matches pattern text) :=
  inferInstanceAs (Decidable (∃ parts ∈ parts? pattern, FoundIn parts text.toList))

theorem matches_iff {pattern text : String} {parts : List Part} (h : parts? pattern = some parts) :
    Matches pattern text ↔ FoundIn parts text.toList := by
  simp [Matches, h]

namespace Reader

variable {parts : List Part} {c : Char}

theorem step?_of_not_sign (h : isPatternSign c = false) :
    step? ⟨parts, .part⟩ c = some ⟨.literal c :: parts, .part⟩ := by
  show part? ⟨parts, .part⟩ c = _
  unfold part?
  split <;> first | rfl | exact absurd h (by decide)

theorem foldlM_sign (h : isPatternSign c = true) :
    ['\\', c].foldlM step? ⟨parts, .part⟩ = some ⟨.literal c :: parts, .part⟩ := by
  show (step? ⟨parts, .sign⟩ c).bind some = _
  simp [step?, h, push]

/-- The pattern of a text is read as its characters, one after the other. -/
theorem foldlM_literalPattern (cs : List Char) : ∀ parts,
    (literalPattern cs).foldlM step? ⟨parts, .part⟩ =
      some ⟨(cs.map .literal).reverse ++ parts, .part⟩ := by
  induction cs with
  | nil => intro parts; rfl
  | cons c rest ih =>
    intro parts
    have hfirst : (if isPatternSign c then ['\\', c] else [c]).foldlM step? ⟨parts, .part⟩ =
        some ⟨.literal c :: parts, .part⟩ := by
      cases hc : isPatternSign c with
      | true => exact foldlM_sign hc
      | false => simp [step?_of_not_sign hc]
    show ((if isPatternSign c then ['\\', c] else [c]) ++ literalPattern rest).foldlM step? _ = _
    rw [List.foldlM_append, hfirst]
    simpa using ih (.literal c :: parts)

end Reader

theorem parts?_startPattern (start : String) : parts? (startPattern start) =
    some (.start :: (start.toList.map .literal ++ [.run .any .anyNumber])) := by
  have hread : ('^' :: literalPattern start.toList ++ ['.', '*']).foldlM Reader.step? {} =
      some ⟨.run .any .anyNumber :: ((start.toList.map .literal).reverse ++ [.start]), .part⟩ := by
    rw [List.foldlM_append]
    show ((literalPattern start.toList).foldlM Reader.step? ⟨[.start], .part⟩).bind _ = _
    rw [Reader.foldlM_literalPattern]
    rfl
  rw [parts?, startPattern, String.toList_ofList, hread]
  simp [Reader.done?]

theorem parts?_endPattern (ending : String) : parts? (endPattern ending) =
    some (.run .any .anyNumber :: (ending.toList.map .literal ++ [.finish])) := by
  have hread : ('.' :: '*' :: literalPattern ending.toList ++ ['$']).foldlM Reader.step? {} =
      some ⟨.finish :: ((ending.toList.map .literal).reverse ++ [.run .any .anyNumber]),
        .part⟩ := by
    rw [List.foldlM_append]
    show ((literalPattern ending.toList).foldlM Reader.step? ⟨[.run .any .anyNumber], .part⟩).bind
      _ = _
    rw [Reader.foldlM_literalPattern]
    rfl
  rw [parts?, endPattern, String.toList_ofList, hread]
  simp [Reader.done?]

/-! ## Matching -/

/-- The characters of a text match that text, and the parts after them what follows it. -/
theorem matchesAt_literals (cs : List Char) (rest : List Part) : ∀ before after,
    MatchesAt (cs.map .literal ++ rest) before after ↔
      ∃ left, cs ++ left = after ∧ MatchesAt rest (before ++ cs) left := by
  induction cs with
  | nil => intro before after; simp
  | cons c cs ih =>
    intro before after
    rw [List.map_cons, List.cons_append, Part.literal, MatchesAt]
    constructor
    · rintro ⟨taken, left, rfl, ⟨hlength, honly⟩, hrest⟩
      obtain ⟨other, rfl⟩ := List.length_eq_one_iff.1 hlength
      obtain rfl : other = c := honly other List.mem_cons_self
      obtain ⟨last, rfl, hlast⟩ := (ih _ _).1 hrest
      exact ⟨last, rfl, by simpa using hlast⟩
    · rintro ⟨left, rfl, hrest⟩
      refine ⟨[c], cs ++ left, rfl, ⟨rfl, ?_⟩, (ih _ _).2 ⟨left, rfl, ?_⟩⟩
      · intro other hother
        exact List.mem_singleton.1 hother
      · simpa using hrest

theorem matches_startPattern_iff (start text : String) :
    Matches (startPattern start) text ↔ start.toList <+: text.toList := by
  rw [matches_iff (parts?_startPattern start)]
  constructor
  · rintro ⟨before, after, htext, rfl, hrest⟩
    obtain ⟨left, rfl, -⟩ := (matchesAt_literals _ _ _ _).1 hrest
    exact ⟨left, htext⟩
  · rintro ⟨left, htext⟩
    -- the part for anything that follows takes nothing
    refine ⟨[], _, htext, rfl, (matchesAt_literals _ _ _ _).2 ⟨left, rfl, [], left, rfl, ?_⟩⟩
    exact ⟨⟨trivial, by simp⟩, trivial⟩

theorem matches_endPattern_iff (ending text : String) :
    Matches (endPattern ending) text ↔ ending.toList <:+ text.toList := by
  rw [matches_iff (parts?_endPattern ending)]
  constructor
  · rintro ⟨before, after, htext, taken, left, rfl, -, hrest⟩
    obtain ⟨last, rfl, rfl, -⟩ := (matchesAt_literals _ _ _ _).1 hrest
    exact ⟨before ++ taken, by simpa using htext⟩
  · rintro ⟨front, htext⟩
    -- what goes before the end may hold newlines, so the match begins only after it
    refine ⟨front, _, htext, [], _, rfl, ⟨trivial, by simp⟩, ?_⟩
    exact (matchesAt_literals _ _ _ _).2 ⟨[], List.append_nil _, rfl, trivial⟩

example : Matches (endPattern ".\n") "a\nb.\n" ∧ ¬ Matches (endPattern ".\n") "a\nb\n" := by
  decide +kernel

end MessageSchema.Pattern

namespace MessageSchema

/-! ## The pattern that rules state -/

section Stated

variable {own : StringRules} (members : Members)

theorem StringRules.get?_pattern_of_endsWith {ending : String} (h : own.endsWith = some ending) :
    Members.get? "pattern" (members.putAll own.keywords) = some (.str (endPattern ending)) := by
  unfold keywords
  rw [h]
  exact Members.get?_putAll_last List.not_mem_nil

theorem StringRules.get?_pattern_of_startsWith {start : String} (h : own.startsWith = some start)
    (hend : own.endsWith = none) :
    Members.get? "pattern" (members.putAll own.keywords) = some (.str (startPattern start)) := by
  unfold keywords
  rw [h, hend]
  simp only [keyword, Option.map_none, Option.toList_none, List.append_nil]
  exact Members.get?_putAll_last List.not_mem_nil

end Stated

/-- **A rule for the start or the end of a text states a pattern that is found exactly in the texts
with that start or end.** The rule for the end counts beside one for the start and beside a pattern,
the rule for the start beside a pattern. -/
theorem Json.withRules_affixes {rules : FieldRules} {own : StringRules}
    (hown : rules.string = some own) (enum : Option EnumType) (members : Members) :
    (∀ ending, own.endsWith = some ending → ∃ pattern,
      ((Json.obj members).withRules rules .string enum).get? "pattern" = some (.str pattern) ∧
      ∀ text : String, Pattern.Matches pattern text ↔ ending.toList <:+ text.toList) ∧
    (∀ start, own.startsWith = some start → own.endsWith = none → ∃ pattern,
      ((Json.obj members).withRules rules .string enum).get? "pattern" = some (.str pattern) ∧
      ∀ text : String, Pattern.Matches pattern text ↔ start.toList <+: text.toList) := by
  have hruled : (Json.obj members).withRules rules .string enum =
      .obj (members.putAll own.keywords) := by
    rw [withRules, FieldRules.keywords, hown]
    rfl
  rw [hruled]
  constructor
  · intro ending hending
    exact ⟨_, own.get?_pattern_of_endsWith members hending,
      Pattern.matches_endPattern_iff ending⟩
  · intro start hstart hending
    exact ⟨_, own.get?_pattern_of_startsWith members hstart hending,
      Pattern.matches_startPattern_iff start⟩

/-- Names of archives, whatever else is asked of them. -/
def archiveRules : FieldRules where
  string := some { pattern := some "[a-z]+", startsWith := some "v", endsWith := some ".tar.gz" }

def releaseRules : FieldRules where
  string := some { startsWith := some "v1." }

/-- Dots are dots, and the end counts after a newline too. -/
theorem archive_affixes : ∃ ending start,
    ((Json.obj []).withRules archiveRules .string none).get? "pattern" = some (.str ending) ∧
    Pattern.Matches ending "a\nb.tar.gz" ∧ ¬ Pattern.Matches ending "v.tar-gz" ∧
    ((Json.obj []).withRules releaseRules .string none).get? "pattern" = some (.str start) ∧
    Pattern.Matches start "v1.\n" ∧ ¬ Pattern.Matches start "v10" := by
  have harchive : archiveRules.string = some _ := rfl
  have hrelease : releaseRules.string = some _ := rfl
  obtain ⟨hending, -⟩ := Json.withRules_affixes harchive none []
  obtain ⟨-, hstart⟩ := Json.withRules_affixes hrelease none []
  obtain ⟨ending, hpattern, hends⟩ := hending ".tar.gz" rfl
  obtain ⟨start, hother, hstarts⟩ := hstart "v1." rfl rfl
  exact ⟨ending, start, hpattern, (hends _).2 (by decide), mt (hends _).1 (by decide), hother,
    (hstarts _).2 (by decide), mt (hstarts _).1 (by decide)⟩

end MessageSchema
