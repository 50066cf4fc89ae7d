import MessageSchema.Descriptor.Loading
import MessageSchema.Proofs.IndentedText
import MessageSchema.Proofs.Members
import MessageSchema.Proofs.Records

/-!
# Values that read back

A value that has been written reads back as itself, with all members in their places, if no object
in it has a key twice (`Json.DistinctKeys`), if no more containers stand around each other than a
reader takes (`Json.depth`) and if its numbers read back, as integers always do. It does not matter
whether the text is indented and whether a new line follows it (`Json.read?_line`).
-/

namespace MessageSchema

/-- Whether the number is a floating-point number. -/
def Number.isFloat : Number → Bool
  | .int _ => false
  | .double _ | .single _ => true

namespace Json

/-- Induction over the values in a value. -/
@[elab_as_elim]
theorem induction {P : Json → Prop} (null : P .null) (bool : ∀ value, P (.bool value))
    (num : ∀ n, P (.num n)) (str : ∀ s, P (.str s))
    (arr : ∀ items, (∀ item ∈ items, P item) → P (.arr items))
    (obj : ∀ members, (∀ member ∈ members, P member.2) → P (.obj members)) : ∀ v, P v
  | .null => null
  | .bool value => bool value
  | .num n => num n
  | .str s => str s
  | .arr items => arr items fun item _ => induction null bool num str arr obj item
  | .obj members => obj members fun member _ => induction null bool num str arr obj member.2
termination_by v => sizeOf v
decreasing_by
  · have := List.sizeOf_lt_of_mem ‹item ∈ items›
    simp only [Json.arr.sizeOf_spec]
    omega
  · have := List.sizeOf_lt_of_mem ‹member ∈ members›
    obtain ⟨key, value⟩ := member
    simp only [Prod.mk.sizeOf_spec, Json.obj.sizeOf_spec] at this ⊢
    omega

/-! ## What does not read back -/

mutual

/-- How many containers stand around each other. -/
def depth : Json → Nat
  | .arr items => itemsDepth items + 1
  | .obj members => membersDepth members + 1
  | .null | .bool _ | .num _ | .str _ => 0

/-- How many containers stand around each other in one of the items. -/
def itemsDepth : List Json → Nat
  | [] => 0
  | item :: rest => max item.depth (itemsDepth rest)

/-- How many containers stand around each other in one of the members. -/
def membersDepth : List (String × Json) → Nat
  | [] => 0
  | (_, value) :: rest => max value.depth (membersDepth rest)

end

mutual

/-- The numbers in the value. -/
def numbers : Json → List Number
  | .num n => [n]
  | .arr items => itemNumbers items
  | .obj members => memberNumbers members
  | .null | .bool _ | .str _ => []

/-- The numbers in the items. -/
def itemNumbers : List Json → List Number
  | [] => []
  | item :: rest => item.numbers ++ itemNumbers rest

/-- The numbers in the values of the members. -/
def memberNumbers : List (String × Json) → List Number
  | [] => []
  | (_, value) :: rest => value.numbers ++ memberNumbers rest

end

/-- No object in the value has a key twice. -/
inductive DistinctKeys : Json → Prop
  | null : DistinctKeys .null
  | bool (value : Bool) : DistinctKeys (.bool value)
  | num (n : Number) : DistinctKeys (.num n)
  | str (s : String) : DistinctKeys (.str s)
  | arr {items : List Json} (h : ∀ item ∈ items, DistinctKeys item) : DistinctKeys (.arr items)
  | obj {members : Members} (keys : (members.map Prod.fst).Nodup)
      (h : ∀ member ∈ members, DistinctKeys member.2) : DistinctKeys (.obj members)

attribute [simp] DistinctKeys.null DistinctKeys.bool DistinctKeys.num DistinctKeys.str

section Parts

variable {items : List Json} {members : Members} {n : Number} {room : Nat}

theorem depth_arr_le_iff :
    (arr items).depth ≤ room ↔ 0 < room ∧ ∀ item ∈ items, item.depth ≤ room - 1 := by
  have hitems : ∀ most, itemsDepth items ≤ most ↔ ∀ item ∈ items, item.depth ≤ most := by
    intro most
    induction items with
    | nil => simp [itemsDepth]
    | cons item rest ih => rw [itemsDepth, Nat.max_le, ih, List.forall_mem_cons]
  rw [depth, ← hitems]
  omega

theorem depth_obj_le_iff :
    (obj members).depth ≤ room ↔ 0 < room ∧ ∀ member ∈ members, member.2.depth ≤ room - 1 := by
  have hmembers : ∀ most, membersDepth members ≤ most ↔
      ∀ member ∈ members, member.2.depth ≤ most := by
    intro most
    induction members with
    | nil => simp [membersDepth]
    | cons member rest ih =>
      obtain ⟨key, value⟩ := member
      rw [membersDepth, Nat.max_le, ih, List.forall_mem_cons]
  rw [depth, ← hmembers]
  omega

theorem mem_numbers_arr : n ∈ (arr items).numbers ↔ ∃ item ∈ items, n ∈ item.numbers := by
  rw [numbers]
  induction items with
  | nil => simp [itemNumbers]
  | cons item rest ih => simp [itemNumbers, ih]

theorem mem_numbers_obj : n ∈ (obj members).numbers ↔ ∃ member ∈ members, n ∈ member.2.numbers := by
  rw [numbers]
  induction members with
  | nil => simp [memberNumbers]
  | cons member rest ih =>
    obtain ⟨key, value⟩ := member
    simp [memberNumbers, ih]

@[simp] theorem distinctKeys_arr_iff :
    (arr items).DistinctKeys ↔ ∀ item ∈ items, item.DistinctKeys :=
  ⟨fun | .arr h => h, .arr⟩

@[simp] theorem distinctKeys_obj_iff : (obj members).DistinctKeys ↔
    (members.map Prod.fst).Nodup ∧ ∀ member ∈ members, member.2.DistinctKeys :=
  ⟨fun | .obj keys h => ⟨keys, h⟩, fun ⟨keys, h⟩ => .obj keys h⟩

end Parts

/-! ## What is read -/

variable {v : Json}

theorem itemsToWritten_eq_map (items : List Json) : itemsToWritten items = items.map toWritten := by
  induction items with
  | nil => rfl
  | cons item rest ih => rw [itemsToWritten, ih, List.map_cons]

theorem membersToWritten_eq_map (members : Members) :
    membersToWritten members = members.map fun member => (some member.1, member.2.toWritten) := by
  induction members with
  | nil => rfl
  | cons member rest ih =>
    obtain ⟨key, value⟩ := member
    rw [membersToWritten, ih, List.map_cons]

theorem itemsToJson?_map {items : List Json}
    (h : ∀ item ∈ items, item.toWritten.toJson? = some item) :
    Written.itemsToJson? (items.map toWritten) = some items := by
  induction items with
  | nil => rfl
  | cons item rest ih =>
    obtain ⟨hitem, hrest⟩ := List.forall_mem_cons.1 h
    rw [List.map_cons, Written.itemsToJson?, hitem, ih hrest]
    rfl

theorem entriesToJson?_map {members : Members} (before : Members)
    (h : ∀ member ∈ members, member.2.toWritten.toJson? = some member.2) :
    Written.entriesToJson? before (members.map fun member => (some member.1, member.2.toWritten)) =
      some (Members.putAll before members) := by
  induction members generalizing before with
  | nil => rfl
  | cons member rest ih =>
    obtain ⟨key, value⟩ := member
    obtain ⟨hvalue, hrest⟩ := List.forall_mem_cons.1 h
    rw [List.map_cons, Written.entriesToJson?, hvalue, Option.bind_eq_bind, Option.bind_some,
      ih _ hrest]
    rfl

/-- Where no key is repeated, what is written spells the value. -/
theorem DistinctKeys.toJson?_toWritten (h : v.DistinctKeys) : v.toWritten.toJson? = some v := by
  induction h with
  | null | bool | num | str => rfl
  | @arr items _ ih =>
    rw [toWritten, itemsToWritten_eq_map, Written.toJson?, itemsToJson?_map ih]
    rfl
  | @obj members keys _ ih =>
    have hputs : Members.putAll [] members = members := Members.putAll_of_nodup keys
    rw [toWritten, membersToWritten_eq_map, Written.toJson?, entriesToJson?_map [] ih, hputs]
    rfl

variable [DecimalRounding]

/-- A value in which the numbers read back is read as it is. -/
theorem respelled_eq_toWritten (h : ∀ n ∈ v.numbers, n.readBack? = some n) :
    v.respelled = v.toWritten := by
  induction v using induction with
  | null | bool | str => rfl
  | num n =>
    rw [respelled, h n (.head _)]
    rfl
  | arr items ih =>
    rw [respelled, toWritten, itemsRespelled_eq_map, itemsToWritten_eq_map]
    refine congrArg Written.arr (List.map_congr_left fun item hin => ih item hin fun n hn => ?_)
    exact h n (mem_numbers_arr.2 ⟨item, hin, hn⟩)
  | obj members ih =>
    rw [respelled, toWritten, membersRespelled_eq_map, membersToWritten_eq_map]
    refine congrArg Written.obj (List.map_congr_left fun member hin => ?_)
    rw [ih member hin fun n hn => h n (mem_numbers_obj.2 ⟨member, hin, hn⟩)]

theorem isLiteral_of_readBack? {n read : Number} (h : n.readBack? = some read) : n.IsLiteral := by
  obtain ⟨l, hl, -⟩ := Option.bind_eq_some_iff.1 h
  exact Option.isSome_of_eq_some hl

theorem readable_of_depth_le {room : Nat} (hdepth : v.depth ≤ room)
    (h : ∀ n ∈ v.numbers, n.readBack? = some n) : v.Readable room := by
  induction v using induction generalizing room with
  | null | bool | str => trivial
  | num n => exact isLiteral_of_readBack? (h n (.head _))
  | arr items ih =>
    obtain ⟨hroom, hitems⟩ := depth_arr_le_iff.1 hdepth
    refine readable_arr_iff.2 ⟨hroom, fun item hin => ih item hin (hitems item hin) fun n hn => ?_⟩
    exact h n (mem_numbers_arr.2 ⟨item, hin, hn⟩)
  | obj members ih =>
    obtain ⟨hroom, hmembers⟩ := depth_obj_le_iff.1 hdepth
    refine readable_obj_iff.2 ⟨hroom, fun member hin => ?_⟩
    exact ih member hin (hmembers member hin) fun n hn => h n (mem_numbers_obj.2 ⟨member, hin, hn⟩)

/-! ## Texts -/

/-- The floating-point numbers in the value read back unchanged where they have been written. -/
def FloatsReadBack (v : Json) : Prop :=
  ∀ n ∈ v.numbers, n.isFloat = true → n.readBack? = some n

theorem FloatsReadBack.numbers (h : v.FloatsReadBack) : ∀ n ∈ v.numbers, n.readBack? = some n := by
  intro n hn
  cases n with
  | int n => exact Number.readBack?_int n
  | double | single => exact h _ hn rfl

/-- The text is JSON in which the value is written, each member in its place. -/
structure SpelledBy (v : Json) (text : String) : Prop where
  written : Written.read? text = some v.toWritten
  read : Json.read? text = some v

theorem spelledBy_of_spells (hkeys : v.DistinctKeys) (hdepth : v.depth ≤ Written.greatestDepth)
    (hfloats : v.FloatsReadBack) {text : String} (h : Token.Spells v.tokens text.toList) :
    v.SpelledBy text := by
  have hwritten : Written.read? text = some v.toWritten := by
    rw [← respelled_eq_toWritten hfloats.numbers]
    exact read?_of_spells (readable_of_depth_le hdepth hfloats.numbers) h
  refine ⟨hwritten, ?_⟩
  rw [Json.read?, hwritten, Option.bind_some, hkeys.toJson?_toWritten]

theorem spells_text {room : Nat} (h : v.Readable room) (pretty : Bool) :
    Token.Spells v.tokens (if pretty then v.pretty else v.compact).toList := by
  cases pretty with
  | true =>
    rw [if_pos rfl, Json.pretty, String.toList_ofList]
    exact v.spells_prettyChars 0 h
  | false =>
    rw [if_neg Bool.false_ne_true, compact, String.toList_ofList]
    exact v.spells_compactChars h

/-- A value reads back from its text, indented or not, and from its text as a line. -/
theorem spelledBy_text (hkeys : v.DistinctKeys) (hdepth : v.depth ≤ Written.greatestDepth)
    (hfloats : v.FloatsReadBack) (pretty : Bool) :
    v.SpelledBy (if pretty then v.pretty else v.compact) ∧
      v.SpelledBy ((if pretty then v.pretty else v.compact) ++ "\n") := by
  have htext := spells_text (readable_of_depth_le hdepth hfloats.numbers) pretty
  refine ⟨spelledBy_of_spells hkeys hdepth hfloats htext,
    spelledBy_of_spells hkeys hdepth hfloats ?_⟩
  rw [String.toList_append]
  exact htext.append_newLine

end Json

/-- A set that its value decodes to is read from the line that is written for it. -/
theorem DescriptorSet.read?_compact [DecimalRounding] {set : DescriptorSet}
    (hdepth : set.encode.depth ≤ Written.greatestDepth) (hfloats : set.encode.FloatsReadBack)
    (hdecodes : decode? set.encode.toWritten = some set) :
    read? set.encode.compact = some set := by
  rw [read?, Json.read?_compact (Json.readable_of_depth_le hdepth hfloats.numbers),
    Json.respelled_eq_toWritten hfloats.numbers]
  exact hdecodes

end MessageSchema
