import MessageSchema.Json.Reader
import MessageSchema.Proofs.Scanning

/-!
# Values put together from tokens

The tokens of a value, where one is expected, put that value into the innermost open container,
with its numbers as they read back (`Json.run?_tokens`); hence a value that is written in one line
reads back so (`Json.read?_compact`). The other way, whatever is read at all nests no deeper than
is allowed (`Written.fitsIn_of_read?`): a container that would is unreadable.
-/

namespace MessageSchema

namespace Json

variable [DecimalRounding]

mutual

/-- What is read where the value has been written. -/
def respelled : Json → Written
  | .null => .null
  | .bool value => .bool value
  | .num n => n.readBack?.elim .unreadable .num
  | .str s => .str s
  | .arr items => .arr (itemsRespelled items)
  | .obj members => .obj (membersRespelled members)

/-- What is read where items have been written. -/
def itemsRespelled : List Json → List Written
  | [] => []
  | item :: rest => item.respelled :: itemsRespelled rest

/-- What is read where members have been written. -/
def membersRespelled : List (String × Json) → List (Option String × Written)
  | [] => []
  | (key, value) :: rest => (some key, value.respelled) :: membersRespelled rest

end

theorem itemsRespelled_eq_map (items : List Json) : itemsRespelled items = items.map respelled := by
  induction items with
  | nil => rfl
  | cons item rest ih => rw [itemsRespelled, ih, List.map_cons]

theorem membersRespelled_eq_map (members : List (String × Json)) :
    membersRespelled members = members.map fun member => (some member.1, member.2.respelled) := by
  induction members with
  | nil => rfl
  | cons member rest ih =>
    obtain ⟨key, value⟩ := member
    rw [membersRespelled, ih, List.map_cons]

end Json

namespace Written

namespace Builder

/-! ## Tokens of values -/

theorem run?_cons {b next : Builder} {token : Token} (h : b.step? token = some next)
    (rest : List Token) : b.run? (token :: rest) = next.run? rest := by
  rw [run?, h, Option.bind_some]

theorem run?_singleton (b : Builder) (token : Token) : b.run? [token] = b.step? token :=
  Option.bind_fun_some _

theorem run?_append (b : Builder) (tokens rest : List Token) :
    b.run? (tokens ++ rest) = (b.run? tokens).bind (·.run? rest) := by
  induction tokens generalizing b with
  | nil => rfl
  | cons token tokens ih =>
    rw [List.cons_append, run?, run?]
    cases b.step? token with
    | none => rfl
    | some next => exact ih next

/-- A container is put where a value is expected, if there is room for it. -/
theorem placeContainer_eq {around : List Frame} (h : around.length < greatestDepth)
    (value : Written) : placeContainer value around = place value around := by
  rw [placeContainer, if_pos h]

variable [DecimalRounding]

/-- A first item is read as any other, for no value starts with a closing bracket. -/
theorem run?_firstItem (opened : List Frame) (v : Json) :
    run? ⟨.firstItem, opened⟩ v.tokens = run? ⟨.value, opened⟩ v.tokens := by
  cases v <;> rfl

theorem run?_firstItem_items (opened : List Frame) {items : List Json} (h : items ≠ []) :
    run? ⟨.firstItem, opened⟩ (Json.itemTokens items) =
      run? ⟨.value, opened⟩ (Json.itemTokens items) := by
  match items, h with
  | [item], _ => exact run?_firstItem opened item
  | item :: next :: rest, _ =>
    rw [Json.itemTokens, run?_append, run?_firstItem, ← run?_append]
    exact nofun

theorem run?_firstKey_members (opened : List Frame) {members : List (String × Json)}
    (h : members ≠ []) :
    run? ⟨.firstKey, opened⟩ (Json.memberTokens members) =
      run? ⟨.key, opened⟩ (Json.memberTokens members) := by
  match members, h with
  | [(key, value)], _ => rfl
  | (key, value) :: next :: rest, _ => rfl

end Builder

end Written

namespace Json

open Written Builder

variable [DecimalRounding]

mutual

/-- The tokens of a value put what it is respelled as where a value is expected. -/
theorem run?_tokens {room : Nat} (around : List Frame)
    (hroom : around.length + room ≤ greatestDepth) :
    (v : Json) → v.Readable room → run? ⟨.value, around⟩ v.tokens = place v.respelled around
  | .null, _ => run?_singleton _ _
  | .bool _, _ => run?_singleton _ _
  | .num _, _ => run?_singleton _ _
  | .str _, _ => run?_singleton _ _
  | .arr items, h => by
    have hdepth : around.length < greatestDepth := by have := h.1; omega
    have hopen : step? ⟨.value, around⟩ .openBracket = some ⟨.firstItem, .arr [] :: around⟩ := rfl
    rw [tokens, run?_cons hopen, respelled, ← placeContainer_eq hdepth]
    by_cases hitems : items = []
    · subst hitems
      exact run?_singleton _ _
    · rw [run?_append, run?_firstItem_items _ hitems,
        run?_itemTokens around [] (by have := h.1; omega) items hitems h.2, Option.bind_some,
        run?_singleton, List.append_nil]
      -- the items come out of their frame in the order of the text
      have hclose : step? ⟨.separator, .arr (itemsRespelled items).reverse :: around⟩
          .closeBracket = placeContainer (.arr (itemsRespelled items).reverse.reverse) around := rfl
      rw [hclose, List.reverse_reverse]
  | .obj members, h => by
    have hdepth : around.length < greatestDepth := by have := h.1; omega
    have hopen : step? ⟨.value, around⟩ .openBrace = some ⟨.firstKey, .obj [] :: around⟩ := rfl
    rw [tokens, run?_cons hopen, respelled, ← placeContainer_eq hdepth]
    by_cases hmembers : members = []
    · subst hmembers
      exact run?_singleton _ _
    · rw [run?_append, run?_firstKey_members _ hmembers,
        run?_memberTokens around [] (by have := h.1; omega) members hmembers h.2, Option.bind_some,
        run?_singleton, List.append_nil]
      have hclose : step? ⟨.separator, .obj (membersRespelled members).reverse :: around⟩
          .closeBrace = placeContainer (.obj (membersRespelled members).reverse.reverse) around :=
        rfl
      rw [hclose, List.reverse_reverse]

theorem run?_itemTokens {room : Nat} (around : List Frame) (before : List Written)
    (hroom : around.length + room < greatestDepth) :
    (items : List Json) → items ≠ [] → ItemsReadable room items →
      run? ⟨.value, .arr before :: around⟩ (itemTokens items) =
        some ⟨.separator, .arr ((itemsRespelled items).reverse ++ before) :: around⟩
  | [], hne, _ => absurd rfl hne
  | [item], _, h => run?_tokens (.arr before :: around) (by rw [List.length_cons]; omega) item h.1
  | item :: next :: rest, _, h => by
    have hcomma : step? ⟨.separator, .arr (item.respelled :: before) :: around⟩ .comma =
        some ⟨.value, .arr (item.respelled :: before) :: around⟩ := rfl
    have hfirst := run?_tokens (.arr before :: around) (by rw [List.length_cons]; omega) item h.1
    have hrest := run?_itemTokens around (item.respelled :: before) hroom (next :: rest) nofun h.2
    have htokens : itemTokens (item :: next :: rest) =
        item.tokens ++ .comma :: itemTokens (next :: rest) := rfl
    have hitems : (itemsRespelled (item :: next :: rest)).reverse ++ before =
        (itemsRespelled (next :: rest)).reverse ++ item.respelled :: before := by
      rw [itemsRespelled, List.reverse_cons, List.append_assoc, List.singleton_append]
    rw [htokens, hitems, run?_append, hfirst, place, Option.bind_some, run?_cons hcomma, hrest]

theorem run?_memberTokens {room : Nat} (around : List Frame)
    (before : List (Option String × Written)) (hroom : around.length + room < greatestDepth) :
    (members : List (String × Json)) → members ≠ [] → MembersReadable room members →
      run? ⟨.key, .obj before :: around⟩ (memberTokens members) =
        some ⟨.separator, .obj ((membersRespelled members).reverse ++ before) :: around⟩
  | [], hne, _ => absurd rfl hne
  | [(key, value)], _, h =>
    run?_tokens (.member before (some key) :: around) (by rw [List.length_cons]; omega) value h.1
  | (key, value) :: next :: rest, _, h => by
    have hcolon : run? ⟨.key, .obj before :: around⟩ [.string (some key), .colon] =
        some ⟨.value, .member before (some key) :: around⟩ := rfl
    have hfirst := run?_tokens (.member before (some key) :: around)
      (by rw [List.length_cons]; omega) value h.1
    have hcomma : step? ⟨.separator, .obj ((some key, value.respelled) :: before) :: around⟩
        .comma = some ⟨.key, .obj ((some key, value.respelled) :: before) :: around⟩ := rfl
    have hrest := run?_memberTokens around ((some key, value.respelled) :: before) hroom
      (next :: rest) nofun h.2
    have htokens : memberTokens ((key, value) :: next :: rest) =
        [.string (some key), .colon] ++ (value.tokens ++ .comma :: memberTokens (next :: rest)) :=
      rfl
    have hmembers : (membersRespelled ((key, value) :: next :: rest)).reverse ++ before =
        (membersRespelled (next :: rest)).reverse ++ (some key, value.respelled) :: before := by
      rw [membersRespelled, List.reverse_cons, List.append_assoc, List.singleton_append]
    rw [htokens, hmembers, run?_append, hcolon, Option.bind_some, run?_append, hfirst, place,
      Option.bind_some, run?_cons hcomma, hrest]

end

/-- A value that is written in one line reads back. -/
theorem read?_compact {v : Json} (h : v.Readable greatestDepth) :
    Written.read? v.compact = some v.respelled := by
  have hrun : run? ⟨.value, []⟩ v.tokens = some ⟨.nothing v.respelled, []⟩ :=
    run?_tokens [] (Nat.zero_add _ ▸ Nat.le_refl _) v h
  rw [Written.read?, scan?_compact h, Option.bind_some, ofTokens?, hrun]

end Json

namespace Written

/-! ## Depth -/

mutual

/-- There is room for all containers around each other. -/
def FitsIn (room : Nat) : Written → Prop
  | .arr items => 0 < room ∧ ItemsFitIn (room - 1) items
  | .obj entries => 0 < room ∧ EntriesFitIn (room - 1) entries
  | .null | .bool _ | .num _ | .str _ | .unreadable => True

/-- `FitsIn` of all items. -/
def ItemsFitIn (room : Nat) : List Written → Prop
  | [] => True
  | item :: rest => item.FitsIn room ∧ ItemsFitIn room rest

/-- `FitsIn` of the values of all entries. -/
def EntriesFitIn (room : Nat) : List (Option String × Written) → Prop
  | [] => True
  | (_, value) :: rest => value.FitsIn room ∧ EntriesFitIn room rest

end

theorem fitsIn_arr_iff {room : Nat} {items : List Written} :
    (arr items).FitsIn room ↔ 0 < room ∧ ∀ item ∈ items, item.FitsIn (room - 1) := by
  rw [FitsIn]
  refine and_congr_right fun _ => ?_
  induction items with
  | nil => exact ⟨nofun, fun _ => trivial⟩
  | cons item rest ih => rw [ItemsFitIn, ih, List.forall_mem_cons]

theorem fitsIn_obj_iff {room : Nat} {entries : List (Option String × Written)} :
    (obj entries).FitsIn room ↔ 0 < room ∧ ∀ entry ∈ entries, entry.2.FitsIn (room - 1) := by
  rw [FitsIn]
  refine and_congr_right fun _ => ?_
  induction entries with
  | nil => exact ⟨nofun, fun _ => trivial⟩
  | cons entry rest ih =>
    obtain ⟨key, value⟩ := entry
    rw [EntriesFitIn, ih, List.forall_mem_cons]

/-- What a container holds so far. -/
def Frame.values : Frame → List Written
  | .arr items => items
  | .obj entries | .member entries _ => entries.map Prod.snd

/-- How many containers there is room for inside those that are open. -/
def roomInside (opened : List Frame) : Nat := greatestDepth - opened.length

/-- There is room for whatever the open containers hold. -/
def FramesFit : List Frame → Prop
  | [] => True
  | frame :: around =>
    (∀ value ∈ frame.values, value.FitsIn (roomInside (frame :: around))) ∧ FramesFit around

namespace Builder

/-- There is room for whatever has been read. -/
structure Fits (b : Builder) : Prop where
  frames : FramesFit b.opened
  result : ∀ value, b.expecting = .nothing value → value.FitsIn greatestDepth

variable {b next : Builder} {token : Token} {value : Written} {around opened : List Frame}

theorem fits_place (hframes : FramesFit around) (hvalue : value.FitsIn (roomInside around))
    (h : place value around = some next) : next.Fits := by
  unfold place at h
  split at h
  · cases h
    exact ⟨trivial, fun _ heq => Expecting.nothing.inj heq ▸ hvalue⟩
  · cases h
    exact ⟨⟨List.forall_mem_cons.2 ⟨hvalue, hframes.1⟩, hframes.2⟩, nofun⟩
  · cases h
    exact ⟨⟨List.forall_mem_cons.2 ⟨hvalue, hframes.1⟩, hframes.2⟩, nofun⟩
  · cases h

/-- A container for which there is no room is given up. -/
theorem fits_placeContainer (hframes : FramesFit around)
    (hvalue : around.length < greatestDepth → value.FitsIn (roomInside around))
    (h : placeContainer value around = some next) : next.Fits := by
  refine fits_place hframes ?_ h
  split
  · next hroom => exact hvalue hroom
  · exact trivial

theorem fits_close (hframes : FramesFit opened) (h : close token opened = some next) :
    next.Fits := by
  have hinside : ∀ (frame : Frame) (rest : List Frame),
      roomInside (frame :: rest) = roomInside rest - 1 := fun _ _ => rfl
  have hpositive : ∀ rest : List Frame, rest.length < greatestDepth → 0 < roomInside rest :=
    fun _ => Nat.sub_pos_of_lt
  unfold close at h
  split at h
  · next items around =>
    split at h
    · refine fits_placeContainer hframes.2 (fun hroom => ?_) h
      refine fitsIn_arr_iff.2 ⟨hpositive _ hroom, fun item hitem => ?_⟩
      exact hframes.1 item (List.mem_reverse.1 hitem)
    · cases h
  · next entries around =>
    split at h
    · refine fits_placeContainer hframes.2 (fun hroom => ?_) h
      refine fitsIn_obj_iff.2 ⟨hpositive _ hroom, fun entry hentry => ?_⟩
      exact hframes.1 entry.2 (List.mem_map_of_mem (List.mem_reverse.1 hentry))
    · cases h
  · cases h

theorem fits_startValue (hframes : FramesFit opened) (h : startValue opened token = some next) :
    next.Fits := by
  unfold startValue at h
  split at h
  · cases h
    exact ⟨⟨nofun, hframes⟩, nofun⟩
  · cases h
    exact ⟨⟨nofun, hframes⟩, nofun⟩
  · refine fits_place hframes ?_ h
    trivial
  · refine fits_place hframes ?_ h
    trivial
  · next number =>
    refine fits_place hframes ?_ h
    cases number <;> trivial
  · next text =>
    refine fits_place hframes ?_ h
    cases text <;> trivial
  · cases h

theorem fits_step (hb : b.Fits) (h : b.step? token = some next) : next.Fits := by
  have hframes := hb.frames
  unfold step? at h
  split at h
  · exact fits_startValue hframes h
  · exact fits_close hframes h
  · exact fits_startValue hframes h
  · exact fits_close hframes h
  · cases h
    exact ⟨hframes, nofun⟩
  · cases h
    exact ⟨hframes, nofun⟩
  · split at h
    · next hopened =>
      cases h
      rw [hopened] at hframes
      exact ⟨hframes, nofun⟩
    · cases h
  · unfold continueWith at h
    split at h
    · next hopened =>
      cases h
      rw [hopened] at hframes
      exact ⟨hframes, nofun⟩
    · next hopened =>
      cases h
      rw [hopened] at hframes
      exact ⟨hframes, nofun⟩
    · cases h
  · exact fits_close hframes h
  · cases h

theorem fits_run (hb : b.Fits) {tokens : List Token} (h : b.run? tokens = some next) :
    next.Fits := by
  induction tokens generalizing b with
  | nil => exact Option.some.inj h ▸ hb
  | cons token rest ih =>
    obtain ⟨after, hstep, hrest⟩ := Option.bind_eq_some_iff.1 h
    exact ih (fits_step hb hstep) hrest

end Builder

/-- Whatever is read nests no deeper than is allowed. -/
theorem fitsIn_of_read? [DecimalRounding] {text : String} {w : Written}
    (h : read? text = some w) : w.FitsIn greatestDepth := by
  obtain ⟨tokens, -, htokens⟩ := Option.bind_eq_some_iff.1 h
  unfold ofTokens? at htokens
  split at htokens
  · next value hrun =>
    cases htokens
    have hfits := Builder.fits_run (b := ⟨.value, []⟩) ⟨trivial, nofun⟩ hrun
    exact hfits.result _ rfl
  · cases htokens

end Written

namespace Json

/-- A number that reads back at all is written as a literal. -/
theorem isLiteral_of_read? [DecimalRounding] {n : Number} {w : Written}
    (h : Written.read? (num n).compact = some w) : n.IsLiteral := by
  obtain ⟨tokens, hscan, -⟩ := Option.bind_eq_some_iff.1 h
  have hchars : (num n).compact.toList = n.write := String.toList_ofList
  rw [hchars, Token.scan?_numeral n.isNumeral_write, Token.ofNumber?, Option.map_map] at hscan
  rw [Number.IsLiteral, ← Option.isSome_map, hscan]
  rfl

end Json

end MessageSchema
