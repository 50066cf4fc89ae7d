import MessageSchema.Proofs.Flaws
import MessageSchema.Proofs.Objects
import MessageSchema.Proofs.Occurrence
import MessageSchema.Proofs.Position

/-!
# Where schemas of messages stand

A value that names the dialect is a *shell*, and no value in a document names it but the schemas of
messages. `Json.shells` are the ways through lists and objects that lead to shells. What a field
adds to the schema of its values opens no new ways (`shells_put_subset` and what follows from it);
lists and maps lengthen each by the keys of the field (`of_mem_shells_assemble`). So a shell in the
document of a message is the message itself or stands at the end of a route
(`Pool.exists_writtenAt`), and it is the message that the route leads to.
-/

namespace MessageSchema

namespace Json

/-! ## Ways into a document -/

/-- A turn on the way into a value: to an item of a list, or to what an object has under a key. -/
inductive Turn where
  | item (index : Nat)
  | key (name : String)

/-- The item of a list. -/
def item? (index : Nat) : Json → Option Json
  | arr items => items[index]?
  | _ => none

/-- The value that one comes to by a turn. -/
def next? (value : Json) : Turn → Option Json
  | .item index => value.item? index
  | .key name => value.get? name

/-- The value that one comes to from turn to turn. -/
def follow? : Json → List Turn → Option Json
  | value, [] => some value
  | value, turn :: rest => (value.next? turn).bind (·.follow? rest)

theorem follow?_keys (value : Json) (keys : List String) :
    value.follow? (keys.map .key) = value.at? keys := by
  induction keys generalizing value with
  | nil => rfl
  | cons key rest ih =>
    show (value.get? key).bind _ = (value.get? key).bind _
    exact congrArg _ (funext ih)

/-! ## Shells -/

/-- The value names the dialect, as the schema of a message does. -/
def IsShell (value : Json) : Prop := value.get? "$schema" = some (.str dialect)

/-- The ways that lead to shells. -/
def shells (value : Json) : Set (List Turn) :=
  {way | ∃ shell, value.follow? way = some shell ∧ shell.IsShell}

variable {value inner added : Json} {members : Members} {items : List Json} {key : String}
  {turn : Turn} {way rest : List Turn}

theorem nil_mem_shells : [] ∈ value.shells ↔ value.IsShell := by
  constructor
  · rintro ⟨shell, hfollow, hshell⟩
    cases hfollow
    exact hshell
  · exact fun h => ⟨value, rfl, h⟩

theorem cons_mem_shells :
    turn :: rest ∈ value.shells ↔ ∃ inner, value.next? turn = some inner ∧ rest ∈ inner.shells := by
  constructor
  · rintro ⟨shell, hfollow, hshell⟩
    obtain ⟨inner, hnext, hrest⟩ := Option.bind_eq_some_iff.1 hfollow
    exact ⟨inner, hnext, shell, hrest, hshell⟩
  · rintro ⟨inner, hnext, shell, hrest, hshell⟩
    exact ⟨shell, Option.bind_eq_some_iff.2 ⟨inner, hnext, hrest⟩, hshell⟩

theorem mentions_of_next? (hnext : value.next? turn = some inner) (h : inner.mentions key = true) :
    value.mentions key = true := by
  cases turn with
  | key name => exact mentions_of_get? hnext h
  | item index =>
    cases value with
    | arr items =>
      have hin : inner ∈ items := List.mem_of_getElem? hnext
      exact mentions_of_child (mem_children_arr.2 ⟨rfl, hin⟩) h
    | _ => cases hnext

theorem IsShell.mentions (h : value.IsShell) : value.mentions "$schema" = true := by
  cases value with
  | obj members =>
    exact mentions_of_key_mem (List.mem_map.2 ⟨_, Members.mem_of_get? h, rfl⟩)
  | _ => cases h

/-- A value that does not mention the key of the dialect has no shells. -/
theorem not_mem_shells (h : value.mentions "$schema" = false) : way ∉ value.shells := by
  intro hway
  have hmentions : value.mentions "$schema" = true := by
    clear h
    induction way generalizing value with
    | nil => exact (nil_mem_shells.1 hway).mentions
    | cons turn rest ih =>
      obtain ⟨inner, hnext, hrest⟩ := cons_mem_shells.1 hway
      exact mentions_of_next? hnext (ih hrest)
  rw [h] at hmentions
  cases hmentions

/-! ## What opens no new ways -/

/-- A value put under a key opens no new ways if its own ways were there before. -/
theorem shells_put_subset (hkey : key ≠ "$schema")
    (hadded : ∀ rest ∈ added.shells, .key key :: rest ∈ value.shells) :
    (value.put key added).shells ⊆ value.shells := by
  intro way hway
  cases value with
  | obj members =>
    cases way with
    | nil =>
      have hshell : ((obj members).put key added).get? "$schema" = some (.str dialect) :=
        nil_mem_shells.1 hway
      rw [get?_put_of_ne hkey] at hshell
      exact nil_mem_shells.2 hshell
    | cons turn rest =>
      obtain ⟨inner, hnext, hrest⟩ := cons_mem_shells.1 hway
      cases turn with
      | item index => cases hnext
      | key name =>
        by_cases hname : key = name
        · subst hname
          have hinner : some added = some inner := Members.get?_put_self.symm.trans hnext
          cases hinner
          exact hadded rest hrest
        · have hold : ((obj members).put key added).get? name = some inner := hnext
          rw [get?_put_of_ne hname] at hold
          exact cons_mem_shells.2 ⟨inner, hold, hrest⟩
  | _ => exact hway

theorem shells_putAll_subset {added : Members} (h : membersMention "$schema" added = false) :
    (value.putAll added).shells ⊆ value.shells := by
  induction added generalizing value with
  | nil => rw [putAll_nil]
  | cons entry rest ih =>
    obtain ⟨key, first⟩ := entry
    have hcons : value.putAll ((key, first) :: rest) = (value.put key first).putAll rest := by
      cases value <;> rfl
    rw [membersMention, Bool.or_eq_false_iff, Bool.or_eq_false_iff] at h
    obtain ⟨⟨hkey, hfirst⟩, hrest⟩ := h
    rw [hcons]
    refine (ih hrest).trans (shells_put_subset (by simpa using hkey) fun way hway => ?_)
    exact absurd hway (not_mem_shells hfirst)

theorem shells_change_subset {f : Json → Json} (hkey : key ≠ "$schema")
    (hf : ∀ old : Json, (f old).shells ⊆ old.shells) :
    (value.change key f).shells ⊆ value.shells := by
  unfold change
  split
  · next old hold =>
    exact shells_put_subset hkey fun rest hrest => cons_mem_shells.2 ⟨old, hold, hf old hrest⟩
  · exact subset_rfl

theorem shells_concat_subset {last : Json} (hlast : last.mentions "$schema" = false) :
    (arr (items ++ [last])).shells ⊆ (arr items).shells := by
  intro way hway
  cases way with
  | nil => cases nil_mem_shells.1 hway
  | cons turn rest =>
    obtain ⟨inner, hnext, hrest⟩ := cons_mem_shells.1 hway
    cases turn with
    | key name => cases hnext
    | item index =>
      refine cons_mem_shells.2 ⟨inner, ?_, hrest⟩
      have hitem : (items ++ [last])[index]? = some inner := hnext
      rcases Nat.lt_or_ge index items.length with hlt | hge
      · rwa [List.getElem?_append_left hlt] at hitem
      · rw [List.getElem?_append_right hge] at hitem
        obtain rfl := List.mem_singleton.1 (List.mem_of_getElem? hitem)
        exact absurd hrest (not_mem_shells hlast)

theorem shells_orNull_subset : value.orNull.shells ⊆ value.shells := by
  have htype : ∀ old : Json, (typeOrNull old).shells ⊆ old.shells := by
    intro old
    unfold typeOrNull
    split
    · exact fun way hway => absurd hway (not_mem_shells rfl)
    · split
      · exact subset_rfl
      · exact shells_concat_subset rfl
    · exact subset_rfl
  have hbranches : ∀ old : Json, (branchesOrNull old).shells ⊆ old.shells := by
    intro old
    unfold branchesOrNull
    split
    · split
      · exact subset_rfl
      · exact shells_concat_subset rfl
    · exact subset_rfl
  exact (shells_change_subset (by decide) hbranches).trans
    (shells_change_subset (by decide) htype)

theorem shells_withDescription_subset {description : Option String} :
    (value.withDescription description).shells ⊆ value.shells := by
  unfold withDescription
  split
  · split
    · exact subset_rfl
    · exact shells_put_subset (by decide) fun rest hrest => absurd hrest (not_mem_shells rfl)
  · exact subset_rfl

end Json

/-! ## The keywords of rules -/

/-- The values of the members are no objects and hold none. -/
def Members.Flat (members : Members) : Prop :=
  ∀ entry ∈ members, ∀ key, entry.2.mentions key = false

namespace Members.Flat

variable {members first second : Members} {key : String}

theorem append (hf : Flat first) (hs : Flat second) : Flat (first ++ second) := by
  intro entry hin
  rcases List.mem_append.1 hin with hin | hin
  · exact hf entry hin
  · exact hs entry hin

theorem keyword {α : Type} {toJson : α → Json} {rule : Option α}
    (h : ∀ value key, (toJson value).mentions key = false) : Flat (keyword key toJson rule) := by
  intro entry hin
  obtain ⟨value, -, rfl⟩ := mem_keyword hin
  exact h value

theorem flag {isSet : Bool} {value : Json} (h : ∀ key, value.mentions key = false) :
    Flat (flag key value isSet) := by
  intro entry hin
  cases isSet with
  | false => cases hin
  | true =>
    obtain rfl := List.mem_singleton.1 hin
    exact h

theorem listed {values : List Json} (h : ∀ value ∈ values, ∀ key, value.mentions key = false) :
    Flat (listed key values) := by
  intro entry hin name
  obtain ⟨-, rfl⟩ := mem_listed hin
  exact Json.itemsMention_eq_false fun value hvalue => h value hvalue name

theorem strings {names : List String} : Flat (MessageSchema.listed key (names.map .str)) := by
  refine listed fun value hin _ => ?_
  obtain ⟨name, -, rfl⟩ := List.mem_map.1 hin
  rfl

theorem elim {ρ : Type} {rules : Option ρ} {keywords : ρ → Members}
    (h : ∀ own, Flat (keywords own)) : Flat (rules.elim [] keywords) := by
  cases rules with
  | none => exact fun entry hin => absurd hin List.not_mem_nil
  | some own => exact h own

/-- Flat members mention nothing but their keys. -/
theorem not_mentioned (h : Flat members) {keys : List String} (hkeys : members.map Prod.fst ⊆ keys)
    (hkey : key ∉ keys) : Json.membersMention key members = false := by
  rw [← Bool.not_eq_true, Json.membersMention_iff]
  rintro ⟨entry, hin, hname | hvalue⟩
  · exact hkey (hname ▸ hkeys (List.mem_map_of_mem hin))
  · rw [h entry hin key] at hvalue
    cases hvalue

end Members.Flat

theorem StringRules.flat_keywords (rules : StringRules) : rules.keywords.Flat := by
  unfold StringRules.keywords
  repeat' apply Members.Flat.append
  all_goals first
    | exact .keyword fun _ _ => rfl
    | exact .flag fun _ => rfl
    | exact .strings

theorem BytesRules.flat_keywords (rules : BytesRules) : rules.keywords.Flat :=
  .append (.append (.keyword fun _ _ => rfl) (.keyword fun _ _ => rfl)) (.keyword fun _ _ => rfl)

theorem EnumRules.flat_keywords (rules : EnumRules) (enum : EnumType) :
    (rules.keywords enum).Flat :=
  .append (.keyword fun _ _ => rfl) .strings

theorem NumericRules.flat_keywords {α : Type} [RuleNumber α] (rules : NumericRules α)
    (h : ∀ (value : α) key, (RuleNumber.toJson value).mentions key = false) :
    rules.keywords.Flat := by
  unfold NumericRules.keywords
  repeat' apply Members.Flat.append
  case hs =>
    refine .listed fun value hin => ?_
    obtain ⟨number, -, rfl⟩ := List.mem_map.1 hin
    exact h number
  all_goals exact .keyword h

theorem FieldRules.flat_keywords (rules : FieldRules) (kind : Kind) (enum : Option EnumType) :
    (rules.keywords kind enum).Flat := by
  have hnumbers : ∀ own : NumericRules kind.NumberType, own.keywords.Flat := by
    refine fun own => own.flat_keywords fun value key => ?_
    rcases Kind.toJson_cases value with ⟨n, hn⟩ | hn <;>
    · rw [hn]
      rfl
  cases kind with
  | string => exact .elim fun own => own.flat_keywords
  | bytes => exact .elim fun own => own.flat_keywords
  | bool => exact .elim fun own => .keyword fun _ _ => rfl
  | enum => exact .elim fun own => .elim own.flat_keywords
  | message | group => exact fun entry hin => absurd hin List.not_mem_nil
  | _ => exact .elim hnumbers

theorem RepeatedRules.flat_keywords {ρ : Type} (rules : RepeatedRules ρ) : rules.keywords.Flat :=
  .append (.append (.keyword fun _ _ => rfl) (.keyword fun _ _ => rfl)) (.flag fun _ => rfl)

theorem MapRules.flat_keywords {ρ : Type} (rules : MapRules ρ) : rules.keywords.Flat :=
  .append (.keyword fun _ _ => rfl) (.keyword fun _ _ => rfl)

namespace Json

variable {value : Json} {way : List Turn}

theorem shells_withRules_subset {rules : FieldRules} {kind : Kind} {enum : Option EnumType} :
    (value.withRules rules kind enum).shells ⊆ value.shells :=
  shells_putAll_subset <| (rules.flat_keywords kind enum).not_mentioned
    (rules.keys_subset kind enum) (by cases kind <;> decide)

theorem shells_withRepeatedRules_subset {ρ : Type} {rules : Option (RepeatedRules ρ)} :
    (value.withRepeatedRules rules).shells ⊆ value.shells :=
  shells_putAll_subset <| (Members.Flat.elim fun own => own.flat_keywords).not_mentioned
    (keys_elim_subset fun own => own.keys_subset) (by decide)

theorem shells_withMapRules_subset {ρ : Type} {rules : Option (MapRules ρ)} :
    (value.withMapRules rules).shells ⊆ value.shells :=
  shells_putAll_subset <| (Members.Flat.elim fun own => own.flat_keywords).not_mentioned
    (keys_elim_subset fun own => own.keys_subset) (by decide)

/-- The ways into an object with a type and one more value lead through that value. -/
theorem of_mem_shells_typed {type : Json} {key : String} (htype : type.mentions "$schema" = false)
    (hkey : key ≠ "$schema") (h : way ∈ (Json.obj [("type", type), (key, value)]).shells) :
    ∃ rest ∈ value.shells, way = .key key :: rest := by
  cases way with
  | nil =>
    have hshell := Members.mem_of_get? (nil_mem_shells.1 h)
    simp only [List.mem_cons, Prod.mk.injEq, List.not_mem_nil, or_false] at hshell
    rcases hshell with ⟨hname, -⟩ | ⟨hname, -⟩
    · exact absurd hname (by decide)
    · exact absurd hname.symm hkey
  | cons turn rest =>
    obtain ⟨inner, hnext, hrest⟩ := cons_mem_shells.1 h
    cases turn with
    | item index => cases hnext
    | key name =>
      have hmember := Members.mem_of_get? hnext
      simp only [List.mem_cons, Prod.mk.injEq, List.not_mem_nil, or_false] at hmember
      rcases hmember with ⟨-, rfl⟩ | ⟨rfl, rfl⟩
      · exact absurd hrest (not_mem_shells htype)
      · exact ⟨rest, hrest, rfl⟩

end Json

/-! ## Fields -/

namespace Field

open Json

variable {set : DescriptorSet} {f : Field} {value : Json} {way : List Turn}

theorem shells_singleSchema_subset : (f.singleSchema set value).shells ⊆ value.shells := by
  have hruled : (f.rules.elim (value.withDescription f.description) fun rules =>
      (value.withDescription f.description).withRules rules f.kind (set.enumOf? f)).shells ⊆
      value.shells := by
    cases f.rules with
    | none => exact shells_withDescription_subset
    | some rules => exact shells_withRules_subset.trans shells_withDescription_subset
  unfold singleSchema
  simp only
  split
  · exact shells_orNull_subset.trans hruled
  · exact hruled

theorem of_mem_shells_listSchema (h : way ∈ (f.listSchema set value).shells) :
    ∃ rest ∈ value.shells, way = .key "items" :: rest := by
  unfold listSchema at h
  obtain ⟨rest, hrest, rfl⟩ := of_mem_shells_typed rfl (by decide)
    (shells_withDescription_subset (shells_withRepeatedRules_subset h))
  refine ⟨rest, ?_, rfl⟩
  split at hrest
  · exact shells_withRules_subset hrest
  · exact hrest

theorem of_mem_shells_mapSchema {inner : Field} (h : way ∈ (f.mapSchema set inner value).shells) :
    ∃ rest ∈ value.shells, way = .key "additionalProperties" :: rest := by
  unfold mapSchema at h
  obtain ⟨rest, hrest, rfl⟩ := of_mem_shells_typed rfl (by decide)
    (shells_withDescription_subset (shells_withMapRules_subset h))
  refine ⟨rest, ?_, rfl⟩
  split at hrest
  · exact shells_withRules_subset hrest
  · exact hrest

/-- Through the schema of a field all ways lead into that of its values. -/
theorem of_mem_shells_assemble (hf : set.WellFormed f) (h : way ∈ (f.assemble set value).shells) :
    ∃ rest ∈ value.shells, way = f.valueKeys.map .key ++ rest := by
  induction hf generalizing way with
  | @map f inner _ layer values _ ih =>
    rw [assemble_of_map layer values] at h
    obtain ⟨below, hbelow, rfl⟩ := of_mem_shells_mapSchema h
    obtain ⟨rest, hrest, rfl⟩ := ih hbelow
    exact ⟨rest, hrest, by rw [valueKeys_of_map layer values]; rfl⟩
  | @leaf f _ single _ =>
    rw [assemble_of_not_map single, dress] at h
    rw [valueKeys_of_not_map single]
    split at h
    · next hl =>
      rw [if_pos hl]
      exact of_mem_shells_listSchema h
    · next hl =>
      rw [if_neg hl]
      split at h
      · exact ⟨way, h, rfl⟩
      · exact ⟨way, shells_singleSchema_subset h, rfl⟩

end Field

/-! ## Messages -/

open Json

theorem WellKnown.not_mem_shells_schema (type : WellKnown) {way : List Turn} :
    way ∉ type.schema.shells :=
  not_mem_shells (by cases type <;> rfl)

theorem not_mem_shells_fragment {kind : Kind} {enum : Option EnumType} {schema : Json}
    (h : kind.fragment enum = .ok schema) {way : List Turn} : way ∉ schema.shells := by
  cases kind with
  | message | group => cases h
  | enum =>
    cases h
    unfold Fragment.enumeration
    split
    · exact not_mem_shells rfl
    · exact not_mem_shells rfl
    · refine not_mem_shells ?_
      simp [Fragment.typed, mentions, membersMention, mentions_strings]
  | _ =>
    cases h
    exact not_mem_shells rfl

namespace DescriptorSet

variable {set : DescriptorSet}

/-- The message to which a way into the document of another leads: that message itself, or the one
at the end of a route. -/
inductive WrittenAt (set : DescriptorSet) (m : MessageType) : List Turn → MessageType → Prop
  | root : WrittenAt set m [] m
  | route {passed : List MessageType} {fields : List Field} {n : MessageType}
      (route : set.Route m passed fields n) :
      WrittenAt set m ((fields.flatMap (·.position)).map .key) n

/-- The value is the schema of the message, written out inside others, up to what a leaf adds. -/
def WrittenOut (set : DescriptorSet) (n : MessageType) (value : Json) : Prop :=
  ∃ (hn : n ∈ set.messages) (around : List String) (schema : Json), n.fullName ∉ around ∧
    set.expandMessage around ⟨n, hn⟩ = .ok schema ∧
    ∀ key ∉ ["description", "type", "oneOf"], value.get? key = schema.get? key

theorem WrittenOut.worn {n : MessageType} {value : Json} (h : set.WrittenOut n value)
    (f : Field) : set.WrittenOut n (f.worn value) := by
  obtain ⟨hn, around, schema, fresh, hschema, hget⟩ := h
  refine ⟨hn, around, schema, fresh, hschema, fun key hkey => ?_⟩
  rw [f.get?_worn value hkey, hget key hkey]

theorem WrittenOut.isShellOf {n : MessageType} {value : Json} (h : set.WrittenOut n value) :
    value.IsShellOf n := by
  obtain ⟨hn, around, schema, fresh, hschema, hget⟩ := h
  obtain ⟨schemas, hschemas, rfl⟩ := (expandMessage_eq_ok_iff fresh).1 hschema
  have hother : ∀ key ∈ shellKeys, key ∉ ["description", "type", "oneOf"] := by decide
  exact (n.isShellOf_shell hschemas.length_eq).of_get? fun key hkey => hget key (hother key hkey)

end DescriptorSet

namespace Pool

open DescriptorSet

variable (pool : Pool) {inside : List String}

theorem exists_obj_of_expandField {f : Field} (hf : pool.set.WellFormed f) {schema : Json}
    (h : pool.set.expandField inside f = .ok schema) : ∃ members, schema = .obj members := by
  have hhas : schema.HasOnly fun _ => True := by
    refine hasOnly_expandField PatternSyntax.takesGenerated hf (fun n refers value hn => ?_)
      (fun kind rules _ enum =>
        rules.hasOnly_keywords PatternSyntax.takesGenerated kind enum fun _ _ => trivial) h
    obtain ⟨hvalue, htyped⟩ := pool.hasOnly_expandMessage PatternSyntax.takesGenerated n inside
      ⟨n, refers.mem⟩ .refl hn
    exact ⟨hvalue.mono fun _ _ => trivial, htyped⟩
  obtain ⟨members, hobj, -⟩ := hhas
  exact ⟨members, hobj⟩

section Messages

variable {m : MessageType} {schemas : List Json} {way : List Turn}
  (hm : m ∈ pool.set.messages) (hschemas : List.Forall₂
    (fun f schema => pool.set.expandField inside f = .ok schema) m.fields schemas)
include hm hschemas

/-- Through the properties of a message all ways lead into the schemas of its fields. -/
theorem of_mem_shells_properties (h : way ∈ (Json.obj (m.properties schemas)).shells) :
    ∃ f schema, m.LastNamed f ∧ pool.set.expandField inside f = .ok schema ∧
      ∃ rest ∈ schema.shells, way = .key f.jsonName :: rest := by
  cases way with
  | nil =>
    -- a property may have the name of the keyword for the dialect, but its schema is no text
    have hdialect := Members.mem_of_get? (nil_mem_shells.1 h)
    obtain ⟨f, named, -, hf⟩ := (mem_properties_iff hschemas).1 hdialect
    obtain ⟨members, hobj⟩ := pool.exists_obj_of_expandField (pool.wellFormed hm named.mem) hf
    cases hobj
  | cons turn rest =>
    obtain ⟨schema, hnext, hrest⟩ := cons_mem_shells.1 h
    cases turn with
    | item index => cases hnext
    | key name =>
      have hmember := Members.mem_of_get? hnext
      obtain ⟨f, named, rfl, hf⟩ := (mem_properties_iff hschemas).1 hmember
      exact ⟨f, schema, named, hf, rest, hrest, rfl⟩

/-- Below a message itself all ways lead through its properties. -/
theorem of_mem_shells_shell (h : way ∈ (m.shell schemas).shells) :
    way = [] ∨ ∃ f schema, m.LastNamed f ∧ pool.set.expandField inside f = .ok schema ∧
      ∃ rest ∈ schema.shells, way = .key "properties" :: .key f.jsonName :: rest := by
  cases way with
  | nil => exact .inl rfl
  | cons turn rest =>
    rw [m.shell_eq] at h
    obtain ⟨inner, hnext, hrest⟩ := cons_mem_shells.1 h
    cases turn with
    | item index => cases hnext
    | key name =>
      have hproperties : name = "properties" ∧ inner = .obj (m.properties schemas) := by
        -- what stands under the other keywords are texts and a flag
        by_contra hother
        refine not_mem_shells ?_ hrest
        have hmember := Members.mem_of_get? hnext
        simp only [List.mem_append, List.mem_cons, Prod.mk.injEq, List.not_mem_nil, or_false]
          at hmember
        rcases hmember with (⟨-, rfl⟩ | ⟨-, rfl⟩ | ⟨-, rfl⟩ | hboth | ⟨-, rfl⟩) | hrequired
        · rfl
        · rfl
        · rfl
        · exact absurd hboth hother
        · rfl
        · split at hrequired
          · cases hrequired
          · obtain ⟨-, rfl⟩ := Prod.mk.inj (List.mem_singleton.1 hrequired)
            exact mentions_strings _
      obtain ⟨rfl, rfl⟩ := hproperties
      obtain ⟨f, schema, named, hf, below, hbelow, rfl⟩ :=
        pool.of_mem_shells_properties hm hschemas hrest
      exact .inr ⟨f, schema, named, hf, below, hbelow, rfl⟩

end Messages

/-- **Every shell in the expansion of a message is a message written out**: that message itself, or
the one at the end of a route. -/
theorem exists_writtenAt (inside : List String) (m : pool.set.Message) :
    ∀ {document : Json} {way : List Turn}, pool.set.expandMessage inside m = .ok document →
      way ∈ document.shells → ∃ n value, pool.set.WrittenAt m.val way n ∧
        document.follow? way = some value ∧ pool.set.WrittenOut n value := by
  induction inside, m using expansion_induction with
  | step inside m ih =>
    intro document way hdocument hway
    by_cases hm : m.val.fullName ∈ inside
    · rw [expandMessage_of_mem hm] at hdocument
      cases hdocument
      exact absurd hway (not_mem_shells rfl)
    obtain ⟨schemas, hschemas, rfl⟩ := (expandMessage_eq_ok_iff hm).1 hdocument
    obtain rfl | ⟨f, schema, named, hf, rest, hrest, rfl⟩ :=
      pool.of_mem_shells_shell m.property hschemas hway
    · exact ⟨m.val, _, .root, rfl, m.property, inside, _, hm, hdocument, fun _ _ => rfl⟩
    have hwf := pool.wellFormed m.property named.mem
    obtain ⟨value, rfl, ⟨type, -, rfl⟩ | ⟨n, refers, hn⟩ | hfragment⟩ :=
      exists_value_of_expandField hwf hf
    · obtain ⟨below, hbelow, -⟩ := Field.of_mem_shells_assemble hwf hrest
      exact absurd hbelow type.not_mem_shells_schema
    · -- the message that the field refers to is met one name further inside
      obtain ⟨below, hbelow, rfl⟩ := Field.of_mem_shells_assemble hwf hrest
      obtain ⟨k, found, hat, hfollow, hwritten⟩ := ih hm ⟨n, refers.mem⟩ hn hbelow
      obtain ⟨other, hother, hposition⟩ := pool.expandMessage_at_field hm hdocument named refers
      obtain rfl : other = value := Except.ok.inj (hother.symm.trans hn)
      cases hat with
      | root =>
        cases hfollow
        have hway : Turn.key "properties" :: .key f.jsonName :: (f.valueKeys.map .key ++ []) =
            ([f].flatMap (·.position)).map .key := by
          rw [List.flatMap_singleton, List.append_nil]
          rfl
        rw [hway]
        refine ⟨n, _, .route (.last named refers), ?_, hwritten.worn f.leaf⟩
        rwa [follow?_keys, List.flatMap_singleton]
      | @route passed fields _ route =>
        have hway : Turn.key "properties" :: .key f.jsonName :: (f.valueKeys.map .key ++
            (fields.flatMap (·.position)).map .key) =
            ((f :: fields).flatMap (·.position)).map .key := by
          rw [List.flatMap_cons, List.map_append]
          rfl
        rw [hway]
        refine ⟨k, found, .route (.cons named refers route), ?_, hwritten⟩
        rw [follow?_keys] at hfollow ⊢
        rw [List.flatMap_cons, Json.at?_append, hposition, Option.bind_some, route.at?_worn,
          hfollow]
    · obtain ⟨below, hbelow, -⟩ := Field.of_mem_shells_assemble hwf hrest
      exact absurd hbelow (not_mem_shells_fragment hfragment)

end Pool

end MessageSchema
