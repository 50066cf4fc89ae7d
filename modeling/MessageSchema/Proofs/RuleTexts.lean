import MessageSchema.Proofs.Records

/-!
# Rules that are kept as text

Rules that have been read are kept by their encoding, kind by kind, and so are all rules of a field
with those for its items and values (`FieldRules.kept`). Integers, strings, booleans and bytes are
kept whatever they are. For a floating-point number it is a condition that it reads back where it
is written alone (`ReadsBack`), and then it does so among other values too (`kept_of_readsBack`).
-/

namespace MessageSchema

section Kept

variable [DecimalRounding] {room : Nat}

/-! ## Single values -/

theorem kept_str (s : String) : Kept .str Written.string? room s := ⟨trivial, rfl, nofun⟩

theorem kept_bool (b : Bool) : Kept .bool Written.bool? room b := ⟨trivial, rfl, nofun⟩

theorem kept_bytes (bytes : List UInt8) :
    Kept (fun bytes => .str (String.ofList (Base64.encode bytes))) Written.bytes? room bytes := by
  refine ⟨trivial, ?_, nofun⟩
  rw [Json.respelled, Written.bytes?, String.toList_ofList, Base64.decode?_encode]

theorem respelled_int (n : Integer) : (Json.int n).respelled = .num (.int n) := by
  rw [Json.int, Json.respelled, Number.readBack?_int, Option.elim_some]

/-- An integer is kept if it has the value of the integer that is written for it. -/
theorem kept_integer {least greatest : Int} {encode : Ranged least greatest → Json}
    (n : Ranged least greatest) (h : ∃ m : Integer, encode n = .int m ∧ m.val = n.val) :
    Kept encode Written.integer? room n := by
  obtain ⟨m, hencode, hval⟩ := h
  constructor
  case readable =>
    rw [hencode]
    exact Number.isLiteral_int m
  case decodes => rw [hencode, respelled_int, Written.integer?, hval, Ranged.ofInt?_val]
  case notNull =>
    rw [hencode, respelled_int]
    exact nofun

theorem kept_size (n : Unsigned64) : Kept .ofSize Written.integer? room n :=
  kept_integer n ⟨n.toInteger, rfl, rfl⟩

theorem kept_signed32 (n : Signed32) :
    Kept RuleEncoding.encode (Written.integer? : Written → Option Signed32) room n :=
  kept_integer n ⟨n.toInteger, rfl, rfl⟩

theorem kept_unsigned32 (n : Unsigned32) :
    Kept RuleEncoding.encode (Written.integer? : Written → Option Unsigned32) room n :=
  kept_integer n ⟨n.toInteger, rfl, rfl⟩

theorem kept_signed64 (n : Signed64) :
    Kept RuleEncoding.encode (Written.integer? : Written → Option Signed64) room n :=
  kept_integer n ⟨n.toInteger, rfl, rfl⟩

/-! ## Rules for strings -/

theorem StringRules.kept {w : Written} {rules : StringRules} (hw : w.FitsIn room)
    (h : decode? w = some rules) : Kept encode decode? room rules := by
  unfold decode? at h
  obtain ⟨r, hr, h⟩ := Option.bind_eq_some_iff.1 h
  obtain ⟨const, hconst, h⟩ := Option.bind_eq_some_iff.1 h
  obtain ⟨minLength, hminLength, h⟩ := Option.bind_eq_some_iff.1 h
  obtain ⟨maxLength, hmaxLength, h⟩ := Option.bind_eq_some_iff.1 h
  obtain ⟨pattern, hpattern, h⟩ := Option.bind_eq_some_iff.1 h
  obtain ⟨startsWith, hstartsWith, h⟩ := Option.bind_eq_some_iff.1 h
  obtain ⟨endsWith, hendsWith, h⟩ := Option.bind_eq_some_iff.1 h
  obtain ⟨contains, hcontains, h⟩ := Option.bind_eq_some_iff.1 h
  obtain ⟨among, hamong, h⟩ := Option.bind_eq_some_iff.1 h
  obtain ⟨notAmong, hnotAmong, h⟩ := Option.bind_eq_some_iff.1 h
  obtain ⟨email, hemail, h⟩ := Option.bind_eq_some_iff.1 h
  obtain ⟨hostname, hhostname, h⟩ := Option.bind_eq_some_iff.1 h
  obtain ⟨uri, huri, h⟩ := Option.bind_eq_some_iff.1 h
  obtain rfl := Option.some.inj h
  have hfits := (Written.fitsIn_of_record? hr hw).2
  refine Kept.record hr hw rfl rfl (by decide) rfl ?_
  refine (keptField_optional hconst hfits fun s _ _ => kept_str s).andThen ?_
  refine (keptField_optional hminLength hfits fun n _ _ => kept_size n).andThen ?_
  refine (keptField_optional hmaxLength hfits fun n _ _ => kept_size n).andThen ?_
  refine (keptField_optional hpattern hfits fun s _ _ => kept_str s).andThen ?_
  refine (keptField_optional hstartsWith hfits fun s _ _ => kept_str s).andThen ?_
  refine (keptField_optional hendsWith hfits fun s _ _ => kept_str s).andThen ?_
  refine (keptField_optional hcontains hfits fun s _ _ => kept_str s).andThen ?_
  refine (keptField_listed hamong hfits fun s _ _ => kept_str s).andThen ?_
  refine (keptField_listed hnotAmong hfits fun s _ _ => kept_str s).andThen ?_
  refine ((kept_bool email).withDefault false).andThen ?_
  refine ((kept_bool hostname).withDefault false).andThen ?_
  refine ((kept_bool uri).withDefault false).andThen ?_
  exact .done _

/-! ## Rules for bytes, booleans and enum values -/

theorem BytesRules.kept {w : Written} {rules : BytesRules} (hw : w.FitsIn room)
    (h : decode? w = some rules) : Kept encode decode? room rules := by
  unfold decode? at h
  obtain ⟨r, hr, h⟩ := Option.bind_eq_some_iff.1 h
  obtain ⟨const, hconst, h⟩ := Option.bind_eq_some_iff.1 h
  obtain ⟨minLength, hminLength, h⟩ := Option.bind_eq_some_iff.1 h
  obtain ⟨maxLength, hmaxLength, h⟩ := Option.bind_eq_some_iff.1 h
  obtain ⟨pattern, hpattern, h⟩ := Option.bind_eq_some_iff.1 h
  obtain rfl := Option.some.inj h
  have hfits := (Written.fitsIn_of_record? hr hw).2
  refine Kept.record hr hw rfl rfl (by decide) rfl ?_
  refine (keptField_optional hconst hfits fun bytes _ _ => kept_bytes bytes).andThen ?_
  refine (keptField_optional hminLength hfits fun n _ _ => kept_size n).andThen ?_
  refine (keptField_optional hmaxLength hfits fun n _ _ => kept_size n).andThen ?_
  refine (keptField_optional hpattern hfits fun s _ _ => kept_str s).andThen ?_
  exact .done _

theorem BoolRules.kept {w : Written} {rules : BoolRules} (hw : w.FitsIn room)
    (h : decode? w = some rules) : Kept encode decode? room rules := by
  unfold decode? at h
  obtain ⟨r, hr, h⟩ := Option.bind_eq_some_iff.1 h
  obtain ⟨const, hconst, h⟩ := Option.bind_eq_some_iff.1 h
  obtain rfl := Option.some.inj h
  have hfits := (Written.fitsIn_of_record? hr hw).2
  refine Kept.record hr hw rfl rfl (by decide) rfl ?_
  refine (keptField_optional hconst hfits fun b _ _ => kept_bool b).andThen ?_
  exact .done _

theorem EnumRules.kept {w : Written} {rules : EnumRules} (hw : w.FitsIn room)
    (h : decode? w = some rules) : Kept encode decode? room rules := by
  unfold decode? at h
  obtain ⟨r, hr, h⟩ := Option.bind_eq_some_iff.1 h
  obtain ⟨const, hconst, h⟩ := Option.bind_eq_some_iff.1 h
  obtain ⟨definedOnly, hdefinedOnly, h⟩ := Option.bind_eq_some_iff.1 h
  obtain ⟨among, hamong, h⟩ := Option.bind_eq_some_iff.1 h
  obtain ⟨notAmong, hnotAmong, h⟩ := Option.bind_eq_some_iff.1 h
  obtain rfl := Option.some.inj h
  have hfits := (Written.fitsIn_of_record? hr hw).2
  refine Kept.record hr hw rfl rfl (by decide) rfl ?_
  refine (keptField_optional hconst hfits fun n _ _ => kept_signed32 n).andThen ?_
  refine ((kept_bool definedOnly).withDefault false).andThen ?_
  refine (keptField_listed hamong hfits fun n _ _ => kept_signed32 n).andThen ?_
  refine (keptField_listed hnotAmong hfits fun n _ _ => kept_signed32 n).andThen ?_
  exact .done _

/-! ## Rules for numbers -/

/-- The numbers of rules. -/
def NumericRules.values {α : Type} (rules : NumericRules α) : List α :=
  rules.const.toList ++ rules.greater.toList ++ rules.atLeast.toList ++ rules.less.toList ++
    rules.atMost.toList ++ rules.among ++ rules.notAmong

theorem NumericRules.kept {α : Type} [RuleEncoding α] [RuleDecoding α] {w : Written}
    {rules : NumericRules α} (hw : w.FitsIn room) (h : decode? w = some rules)
    (hvalues : ∀ v ∈ rules.values, ∀ room, Kept RuleEncoding.encode RuleDecoding.decode? room v) :
    Kept encode decode? room rules := by
  unfold decode? at h
  obtain ⟨r, hr, h⟩ := Option.bind_eq_some_iff.1 h
  obtain ⟨const, hconst, h⟩ := Option.bind_eq_some_iff.1 h
  obtain ⟨greater, hgreater, h⟩ := Option.bind_eq_some_iff.1 h
  obtain ⟨atLeast, hatLeast, h⟩ := Option.bind_eq_some_iff.1 h
  obtain ⟨less, hless, h⟩ := Option.bind_eq_some_iff.1 h
  obtain ⟨atMost, hatMost, h⟩ := Option.bind_eq_some_iff.1 h
  obtain ⟨among, hamong, h⟩ := Option.bind_eq_some_iff.1 h
  obtain ⟨notAmong, hnotAmong, h⟩ := Option.bind_eq_some_iff.1 h
  obtain rfl := Option.some.inj h
  have hfits := (Written.fitsIn_of_record? hr hw).2
  simp only [values, List.mem_append, Option.mem_toList, or_imp, forall_and] at hvalues
  obtain ⟨⟨⟨⟨⟨⟨hconst', hgreater'⟩, hatLeast'⟩, hless'⟩, hatMost'⟩, hamong'⟩, hnotAmong'⟩ := hvalues
  refine Kept.record hr hw rfl rfl (by decide) rfl ?_
  refine (keptField_optional hconst hfits fun v hv _ => hconst' v hv _).andThen ?_
  refine (keptField_optional hgreater hfits fun v hv _ => hgreater' v hv _).andThen ?_
  refine (keptField_optional hatLeast hfits fun v hv _ => hatLeast' v hv _).andThen ?_
  refine (keptField_optional hless hfits fun v hv _ => hless' v hv _).andThen ?_
  refine (keptField_optional hatMost hfits fun v hv _ => hatMost' v hv _).andThen ?_
  refine (keptField_listed hamong hfits fun v hv _ => hamong' v hv _).andThen ?_
  refine (keptField_listed hnotAmong hfits fun v hv _ => hnotAmong' v hv _).andThen ?_
  exact .done _

theorem keptField_numeric {α : Type} [RuleEncoding α] [RuleDecoding α] {size target : Nat}
    {key : String} {r : Record size} {o : Option (NumericRules α)}
    (h : r.optional? key NumericRules.decode? = some o)
    (hfits : ∀ field ∈ r.fields, field.2.FitsIn room)
    (hvalues : ∀ rules ∈ o, ∀ v ∈ rules.values, ∀ room,
      Kept RuleEncoding.encode RuleDecoding.decode? room v) :
    KeptField room key (fun r : Record target => r.optional? key NumericRules.decode?) o
      (o.map (·.encode)) :=
  keptField_optional h hfits fun rules hrules ⟨_, _, hpart, hdecodes⟩ =>
    NumericRules.kept hpart hdecodes (hvalues rules hrules)

/-- A number of rules is read back unchanged from the text it is written as. -/
def ReadsBack {α : Type} [RuleEncoding α] [RuleDecoding α] (v : α) : Prop :=
  (Written.read? (RuleEncoding.encode v).compact).bind RuleDecoding.decode? = some v

theorem kept_of_readsBack {α : Type} [RuleEncoding α] [RuleDecoding α] {v : α}
    (hencode : RuleEncoding.encode v = .null ∨ ∃ n, RuleEncoding.encode v = .num n)
    (hnull : (RuleDecoding.decode? .null : Option α) = none) (h : ReadsBack v) :
    Kept RuleEncoding.encode RuleDecoding.decode? room v := by
  obtain ⟨w, hw, hdecodes⟩ := Option.bind_eq_some_iff.1 h
  rcases hencode with hencode | ⟨n, hencode⟩
  · -- null reads back as null, which no number is read from
    rw [hencode, Json.read?_compact (v := .null) trivial] at hw
    obtain rfl := Option.some.inj hw
    rw [Json.respelled, hnull] at hdecodes
    cases hdecodes
  · rw [hencode] at hw
    have hliteral := Json.isLiteral_of_read? hw
    rw [Json.read?_compact (v := .num n) hliteral] at hw
    obtain rfl := Option.some.inj hw
    constructor
    case readable =>
      rw [hencode]
      exact hliteral
    case decodes =>
      rw [hencode]
      exact hdecodes
    case notNull =>
      rw [hencode]
      intro hrespelled
      rw [hrespelled, hnull] at hdecodes
      cases hdecodes

theorem kept_double {v : Double} (h : ReadsBack v) :
    Kept RuleEncoding.encode RuleDecoding.decode? room v := by
  refine kept_of_readsBack ?_ rfl h
  cases v with
  | finite value => exact .inr ⟨.double value, rfl⟩
  | infinite | nan => exact .inl rfl

theorem kept_single {v : Single} (h : ReadsBack v) :
    Kept RuleEncoding.encode RuleDecoding.decode? room v := by
  refine kept_of_readsBack ?_ rfl h
  cases v with
  | finite value => exact .inr ⟨.single value, rfl⟩
  | infinite | nan => exact .inl rfl

/-! ## Rules for lists and maps -/

section Collections

variable {ρ : Type} {encodeInner : ρ → Json} {decodeInner? : Written → Option ρ}

/-- Rules for lists as they are written, given how rules for items are. -/
def RepeatedRules.encodeWith (encodeInner : ρ → Json) (rules : RepeatedRules ρ) : Json :=
  .ofOptional [
    ("min_items", rules.minItems.map .ofSize),
    ("max_items", rules.maxItems.map .ofSize),
    ("unique", some (.bool rules.unique)),
    ("items", rules.items.map encodeInner)]

/-- Rules for maps as they are written, given how rules for values are. -/
def MapRules.encodeWith (encodeInner : ρ → Json) (rules : MapRules ρ) : Json :=
  .ofOptional [
    ("min_pairs", rules.minPairs.map .ofSize),
    ("max_pairs", rules.maxPairs.map .ofSize),
    ("values", rules.values.map encodeInner)]

theorem RepeatedRules.kept {w : Written} {rules : RepeatedRules ρ} (hw : w.FitsIn room)
    (h : decode? w (fun part _ => decodeInner? part) = some rules)
    (hitems : ∀ x ∈ rules.items, (∃ part : Written, sizeOf part < sizeOf w ∧
      part.FitsIn (room - 1) ∧ decodeInner? part = some x) →
        Kept encodeInner decodeInner? (room - 1) x) :
    Kept (encodeWith encodeInner) (fun w => decode? w fun part _ => decodeInner? part) room
      rules := by
  unfold decode? at h
  obtain ⟨r, hr, h⟩ := Option.bind_eq_some_iff.1 h
  obtain ⟨minItems, hminItems, h⟩ := Option.bind_eq_some_iff.1 h
  obtain ⟨maxItems, hmaxItems, h⟩ := Option.bind_eq_some_iff.1 h
  obtain ⟨unique, hunique, h⟩ := Option.bind_eq_some_iff.1 h
  obtain ⟨items, hitem, h⟩ := Option.bind_eq_some_iff.1 h
  obtain rfl := Option.some.inj h
  have hfits := (Written.fitsIn_of_record? hr hw).2
  refine Kept.record hr hw rfl rfl (by decide) rfl ?_
  refine (keptField_optional hminItems hfits fun n _ _ => kept_size n).andThen ?_
  refine (keptField_optional hmaxItems hfits fun n _ _ => kept_size n).andThen ?_
  refine ((kept_bool unique).withDefault false).andThen ?_
  refine (keptField_optional hitem hfits hitems).andThen ?_
  exact .done _

theorem MapRules.kept {w : Written} {rules : MapRules ρ} (hw : w.FitsIn room)
    (h : decode? w (fun part _ => decodeInner? part) = some rules)
    (hvalues : ∀ x ∈ rules.values, (∃ part : Written, sizeOf part < sizeOf w ∧
      part.FitsIn (room - 1) ∧ decodeInner? part = some x) →
        Kept encodeInner decodeInner? (room - 1) x) :
    Kept (encodeWith encodeInner) (fun w => decode? w fun part _ => decodeInner? part) room
      rules := by
  unfold decode? at h
  obtain ⟨r, hr, h⟩ := Option.bind_eq_some_iff.1 h
  obtain ⟨minPairs, hminPairs, h⟩ := Option.bind_eq_some_iff.1 h
  obtain ⟨maxPairs, hmaxPairs, h⟩ := Option.bind_eq_some_iff.1 h
  obtain ⟨values, hvalue, h⟩ := Option.bind_eq_some_iff.1 h
  obtain rfl := Option.some.inj h
  have hfits := (Written.fitsIn_of_record? hr hw).2
  refine Kept.record hr hw rfl rfl (by decide) rfl ?_
  refine (keptField_optional hminPairs hfits fun n _ _ => kept_size n).andThen ?_
  refine (keptField_optional hmaxPairs hfits fun n _ _ => kept_size n).andThen ?_
  refine (keptField_optional hvalue hfits hvalues).andThen ?_
  exact .done _

end Collections

end Kept

/-! ## All rules of a field -/

namespace FieldRules

theorem encodeInner_eq_map (rules : Option FieldRules) : encodeInner rules = rules.map encode := by
  cases rules with
  | none => rfl
  | some rules => rw [encodeInner, Option.map_some]

theorem encodeRepeated_eq_map (rules : Option (RepeatedRules FieldRules)) :
    encodeRepeated rules = rules.map (·.encodeWith encode) := by
  cases rules with
  | none => rfl
  | some rules =>
    obtain ⟨minItems, maxItems, unique, items⟩ := rules
    rw [encodeRepeated, encodeInner_eq_map, Option.map_some]
    rfl

theorem encodeMap_eq_map (rules : Option (MapRules FieldRules)) :
    encodeMap rules = rules.map (·.encodeWith encode) := by
  cases rules with
  | none => rfl
  | some rules =>
    obtain ⟨minPairs, maxPairs, values⟩ := rules
    rw [encodeMap, encodeInner_eq_map, Option.map_some]
    rfl

mutual

/-- The rules themselves, and all rules for items and values inside them. -/
def allRules : FieldRules → List FieldRules
  | { required, string, bytes, bool, enum, int32, sint32, sfixed32, int64, sint64, sfixed64, uint32,
      fixed32, uint64, fixed64, float, double, repeated, map } =>
    { required, string, bytes, bool, enum, int32, sint32, sfixed32, int64, sint64, sfixed64, uint32,
      fixed32, uint64, fixed64, float, double, repeated, map } ::
        (rulesOfRepeated repeated ++ rulesOfMap map)

/-- All rules inside rules for lists. -/
def rulesOfRepeated : Option (RepeatedRules FieldRules) → List FieldRules
  | none => []
  | some { items, .. } => rulesOfInner items

/-- All rules inside rules for maps. -/
def rulesOfMap : Option (MapRules FieldRules) → List FieldRules
  | none => []
  | some { values, .. } => rulesOfInner values

/-- All rules of items or values. -/
def rulesOfInner : Option FieldRules → List FieldRules
  | none => []
  | some rules => rules.allRules

end

/-- Every number of rules for floating-point fields is read back unchanged. -/
def FloatsReadBack [DecimalRounding] (rules : FieldRules) : Prop :=
  (∀ r ∈ rules.float, ∀ v ∈ r.values, ReadsBack v) ∧
    ∀ r ∈ rules.double, ∀ v ∈ r.values, ReadsBack v

theorem mem_allRules_self (rules : FieldRules) : rules ∈ rules.allRules := by
  obtain ⟨⟩ := rules
  exact List.mem_cons_self

theorem mem_allRules_of_repeated {rules inner other : FieldRules}
    {repeated : RepeatedRules FieldRules} (h : rules.repeated = some repeated)
    (hinner : repeated.items = some inner) (hother : other ∈ inner.allRules) :
    other ∈ rules.allRules := by
  obtain ⟨⟩ := rules
  obtain ⟨⟩ := repeated
  cases h
  cases hinner
  exact .tail _ (List.mem_append_left _ hother)

theorem mem_allRules_of_map {rules inner other : FieldRules} {map : MapRules FieldRules}
    (h : rules.map = some map) (hinner : map.values = some inner)
    (hother : other ∈ inner.allRules) : other ∈ rules.allRules := by
  obtain ⟨⟩ := rules
  obtain ⟨⟩ := map
  cases h
  cases hinner
  exact .tail _ (List.mem_append_right _ hother)

theorem kept [DecimalRounding] {room : Nat} {w : Written} {rules : FieldRules}
    (hw : w.FitsIn room) (h : decode? w = some rules)
    (hfloats : ∀ r ∈ rules.allRules, r.FloatsReadBack) :
    Kept encode decode? room rules := by
  rw [decode?] at h
  obtain ⟨r, hr, h⟩ := Option.bind_eq_some_iff.1 h
  obtain ⟨required, hrequired, h⟩ := Option.bind_eq_some_iff.1 h
  obtain ⟨string, hstring, h⟩ := Option.bind_eq_some_iff.1 h
  obtain ⟨bytes, hbytes, h⟩ := Option.bind_eq_some_iff.1 h
  obtain ⟨bool, hbool, h⟩ := Option.bind_eq_some_iff.1 h
  obtain ⟨enum, henum, h⟩ := Option.bind_eq_some_iff.1 h
  obtain ⟨int32, hint32, h⟩ := Option.bind_eq_some_iff.1 h
  obtain ⟨sint32, hsint32, h⟩ := Option.bind_eq_some_iff.1 h
  obtain ⟨sfixed32, hsfixed32, h⟩ := Option.bind_eq_some_iff.1 h
  obtain ⟨int64, hint64, h⟩ := Option.bind_eq_some_iff.1 h
  obtain ⟨sint64, hsint64, h⟩ := Option.bind_eq_some_iff.1 h
  obtain ⟨sfixed64, hsfixed64, h⟩ := Option.bind_eq_some_iff.1 h
  obtain ⟨uint32, huint32, h⟩ := Option.bind_eq_some_iff.1 h
  obtain ⟨fixed32, hfixed32, h⟩ := Option.bind_eq_some_iff.1 h
  obtain ⟨uint64, huint64, h⟩ := Option.bind_eq_some_iff.1 h
  obtain ⟨fixed64, hfixed64, h⟩ := Option.bind_eq_some_iff.1 h
  obtain ⟨float, hfloat, h⟩ := Option.bind_eq_some_iff.1 h
  obtain ⟨double, hdouble, h⟩ := Option.bind_eq_some_iff.1 h
  obtain ⟨repeated, hrepeated, h⟩ := Option.bind_eq_some_iff.1 h
  obtain ⟨map, hmap, h⟩ := Option.bind_eq_some_iff.1 h
  have hrules := Option.some.inj h
  have hfits := (Written.fitsIn_of_record? hr hw).2
  have hown := hfloats rules rules.mem_allRules_self
  have hitems : ∀ {target : Nat}, KeptField (room - 1) "repeated" (fun r : Record target =>
      r.optional? "repeated" fun w => RepeatedRules.decode? w fun part _ => decode? part)
      repeated (encodeRepeated repeated) := by
    intro target
    rw [encodeRepeated_eq_map]
    refine keptField_optional hrepeated hfits fun own hown ⟨part, hsize, hpart, hdecodes⟩ => ?_
    refine RepeatedRules.kept hpart hdecodes fun inner hinner ⟨_, hsize', hpart', hdecodes'⟩ => ?_
    exact kept hpart' hdecodes' fun other hother =>
      hfloats other (mem_allRules_of_repeated (hrules ▸ hown) hinner hother)
  have hvalues : ∀ {target : Nat}, KeptField (room - 1) "map" (fun r : Record target =>
      r.optional? "map" fun w => MapRules.decode? w fun part _ => decode? part)
      map (encodeMap map) := by
    intro target
    rw [encodeMap_eq_map]
    refine keptField_optional hmap hfits fun own hown ⟨part, hsize, hpart, hdecodes⟩ => ?_
    refine MapRules.kept hpart hdecodes fun inner hinner ⟨_, hsize', hpart', hdecodes'⟩ => ?_
    exact kept hpart' hdecodes' fun other hother =>
      hfloats other (mem_allRules_of_map (hrules ▸ hown) hinner hother)
  subst hrules
  refine Kept.record hr hw rfl rfl (by decide) (decode?.eq_1 _) ?_
  refine ((kept_bool required).withDefault false).andThen ?_
  refine (keptField_optional hstring hfits fun _ _ ⟨_, _, hpart, hdecodes⟩ =>
    StringRules.kept hpart hdecodes).andThen ?_
  refine (keptField_optional hbytes hfits fun _ _ ⟨_, _, hpart, hdecodes⟩ =>
    BytesRules.kept hpart hdecodes).andThen ?_
  refine (keptField_optional hbool hfits fun _ _ ⟨_, _, hpart, hdecodes⟩ =>
    BoolRules.kept hpart hdecodes).andThen ?_
  refine (keptField_optional henum hfits fun _ _ ⟨_, _, hpart, hdecodes⟩ =>
    EnumRules.kept hpart hdecodes).andThen ?_
  refine (keptField_numeric hint32 hfits fun _ _ n _ _ => kept_signed32 n).andThen ?_
  refine (keptField_numeric hsint32 hfits fun _ _ n _ _ => kept_signed32 n).andThen ?_
  refine (keptField_numeric hsfixed32 hfits fun _ _ n _ _ => kept_signed32 n).andThen ?_
  refine (keptField_numeric hint64 hfits fun _ _ n _ _ => kept_signed64 n).andThen ?_
  refine (keptField_numeric hsint64 hfits fun _ _ n _ _ => kept_signed64 n).andThen ?_
  refine (keptField_numeric hsfixed64 hfits fun _ _ n _ _ => kept_signed64 n).andThen ?_
  refine (keptField_numeric huint32 hfits fun _ _ n _ _ => kept_unsigned32 n).andThen ?_
  refine (keptField_numeric hfixed32 hfits fun _ _ n _ _ => kept_unsigned32 n).andThen ?_
  refine (keptField_numeric huint64 hfits fun _ _ n _ _ => kept_size n).andThen ?_
  refine (keptField_numeric hfixed64 hfits fun _ _ n _ _ => kept_size n).andThen ?_
  refine (keptField_numeric hfloat hfits fun rules hrules v hv _ =>
    kept_single (hown.1 rules hrules v hv)).andThen ?_
  refine (keptField_numeric hdouble hfits fun rules hrules v hv _ =>
    kept_double (hown.2 rules hrules v hv)).andThen ?_
  exact hitems.andThen (hvalues.andThen (.done _))
termination_by sizeOf w
decreasing_by all_goals omega

end FieldRules

end MessageSchema
