import MessageSchema.Proofs.RuleEffects
import Mathlib.Data.List.Induction

/-!
# Rules put again, and in another order

Members that have been put are all there, so that putting them once more changes nothing
(`Members.putAll_putAll`), however often one key is put among them. Members under different keys can
be put one list before the other: every key has the same entries then (`Members.filter_putAll_eq`),
and the two objects differ in the order of their keys if each of the lists has a new one
(`Members.putAll_comm_iff`). Main statement: `Json.rules_idempotent_and_commuting`.
-/

namespace MessageSchema

namespace Members

variable {key : String} {value : Json} {members added first second : Members}

/-! ## Once more -/

/-- A value that is put last need not have been put before the others. -/
theorem put_putAll_put (h : added.map Prod.fst ⊆ members.map Prod.fst) :
    put key value (putAll (put key value members) added) =
      put key value (putAll members added) := by
  induction added generalizing members with
  | nil => exact put_put key value value members
  | cons entry rest ih =>
    obtain ⟨name, other⟩ := entry
    obtain ⟨hname, hrest⟩ := List.cons_subset.1 h
    have hkept : rest.map Prod.fst ⊆ (put name other members).map Prod.fst := fun _ hin =>
      mem_keys_put.2 (.inr (hrest hin))
    rw [putAll_cons, putAll_cons]
    by_cases hsame : name = key
    · rw [hsame, put_put]
    · rw [put_comm_of_mem hname hsame, ih hkept]

/-- **Putting members a second time changes nothing.** -/
theorem putAll_putAll (members added : Members) :
    putAll (putAll members added) added = putAll members added := by
  induction added using List.reverseRecOn with
  | nil => rfl
  | append_singleton before entry ih =>
    obtain ⟨key, value⟩ := entry
    have hlast : ∀ sofar, putAll sofar (before ++ [(key, value)]) =
        put key value (putAll sofar before) := fun sofar => putAll_append sofar before _
    have hthere : before.map Prod.fst ⊆ (putAll members before).map Prod.fst := fun _ hin =>
      mem_keys_putAll.2 (.inr hin)
    rw [hlast, hlast, put_putAll_put hthere, ih]

/-! ## In another order -/

section Filter

variable {p : String → Bool}

theorem filter_put_of_pos (h : p key = true) :
    (put key value members).filter (fun entry => p entry.1) =
      put key value (members.filter fun entry => p entry.1) := by
  induction members with
  | nil => simp [put, h]
  | cons entry rest ih =>
    obtain ⟨name, old⟩ := entry
    by_cases hname : name = key
    · subst hname
      simp [put, h]
    · cases hp : p name <;> simp [put, hname, hp, ih]

/-- Some of the members are as if only some had been put. -/
theorem filter_putAll_eq (p : String → Bool) (members added : Members) :
    (putAll members added).filter (fun entry => p entry.1) =
      putAll (members.filter fun entry => p entry.1) (added.filter fun entry => p entry.1) := by
  induction added generalizing members with
  | nil => rfl
  | cons entry rest ih =>
    obtain ⟨key, value⟩ := entry
    rw [putAll_cons, ih]
    cases hp : p key with
    | false => rw [filter_put hp, List.filter_cons_of_neg (by simp [hp])]
    | true => rw [filter_put_of_pos hp, List.filter_cons_of_pos (by simp [hp]), putAll_cons]

theorem get?_filter (h : p key = true) :
    get? key (members.filter fun entry => p entry.1) = get? key members := by
  induction members with
  | nil => rfl
  | cons entry rest ih =>
    obtain ⟨name, old⟩ := entry
    by_cases hname : name = key
    · subst hname
      simp [get?, h]
    · cases hp : p name <;> simp [get?, hname, hp, ih]

end Filter

/-- The same members in whatever order, so that the same is found under every key. -/
structure SameMembers (first second : Members) : Prop where
  perm : first.Perm second
  value : ∀ key, get? key first = get? key second

/-- Members are the same if those of each key are. -/
theorem SameMembers.of_filter
    (h : ∀ key, first.filter (·.1 == key) = second.filter (·.1 == key)) :
    first.SameMembers second := by
  constructor
  case perm =>
    refine List.perm_iff_count.2 fun entry => ?_
    have hcount : ∀ members : Members,
        (members.filter (·.1 == entry.1)).count entry = members.count entry := fun _ =>
      List.count_filter (beq_self_eq_true entry.1)
    rw [← hcount first, h, hcount]
  case value =>
    intro key
    rw [← get?_filter (p := (· == key)) (beq_self_eq_true key), h,
      get?_filter (p := (· == key)) (beq_self_eq_true key)]

/-- Lists of members without a common key can be put in either order. -/
theorem sameMembers_putAll (h : (first.map Prod.fst).Disjoint (second.map Prod.fst))
    (members : Members) :
    SameMembers (putAll (putAll members first) second) (putAll (putAll members second) first) := by
  refine .of_filter fun key => ?_
  have hnone : first.filter (·.1 == key) = [] ∨ second.filter (·.1 == key) = [] := by
    rw [or_iff_not_imp_left]
    intro hfirst
    obtain ⟨entry, hentry⟩ := List.exists_mem_of_ne_nil _ hfirst
    obtain ⟨hin, hkey⟩ := List.mem_filter.1 hentry
    refine List.filter_eq_nil_iff.2 fun other hother hsame => ?_
    refine h (List.mem_map_of_mem hin) ?_
    rw [eq_of_beq hkey, ← eq_of_beq hsame]
    exact List.mem_map_of_mem hother
  simp only [filter_putAll_eq (· == key)]
  rcases hnone with hnone | hnone <;> rw [hnone] <;> rfl

/-- One of the members has a key that is not there yet. -/
def Adds (added members : Members) : Prop := ∃ key ∈ added.map Prod.fst, key ∉ members.map Prod.fst

theorem putAll_comm_of_not_adds (h : (first.map Prod.fst).Disjoint (second.map Prod.fst))
    (hnone : ¬ first.Adds members) :
    putAll (putAll members first) second = putAll (putAll members second) first := by
  induction first generalizing members with
  | nil => rfl
  | cons entry rest ih =>
    obtain ⟨key, value⟩ := entry
    obtain ⟨hkey, hrest⟩ := List.disjoint_cons_left.1 h
    have hthere : key ∈ members.map Prod.fst := by
      by_contra hnew
      exact hnone ⟨key, List.mem_cons_self, hnew⟩
    have hothers : ¬ Adds rest (put key value members) := by
      rintro ⟨name, hname, hnew⟩
      exact hnone ⟨name, .tail _ hname, fun hin => hnew (mem_keys_put.2 (.inr hin))⟩
    rw [putAll_cons, putAll_cons, ih hrest hothers, put_putAll hthere hkey]

/-- New keys stand behind those that are there, and the first of them is one that was put first. -/
theorem exists_new_key_of_adds (hadds : first.Adds members) (second : Members) :
    ∃ key ∈ first.map Prod.fst, ∃ new,
      (putAll (putAll members first) second).map Prod.fst = members.map Prod.fst ++ key :: new := by
  obtain ⟨name, hname, hnew⟩ := hadds
  have hmem : name ∈ (first.map Prod.fst).filter (· ∉ members.map Prod.fst) :=
    List.mem_filter.2 ⟨hname, decide_eq_true hnew⟩
  obtain ⟨key, rest, hkeys⟩ := List.exists_cons_of_ne_nil (List.ne_nil_of_mem hmem)
  have hfirst : (putAll members first).map Prod.fst =
      members.map Prod.fst ++ key :: (rest.filter fun other => !other == key).eraseDups := by
    rw [keys_putAll, hkeys, List.eraseDups_cons]
  refine ⟨key, (List.mem_filter.1 (hkeys ▸ List.mem_cons_self)).1, ?_⟩
  rw [keys_putAll, hfirst, List.append_assoc, List.cons_append]
  exact ⟨_, rfl⟩

/-- The order in which they are put shows exactly if each list adds a key. -/
theorem putAll_comm_iff (h : (first.map Prod.fst).Disjoint (second.map Prod.fst)) :
    putAll (putAll members first) second = putAll (putAll members second) first ↔
      ¬ (first.Adds members ∧ second.Adds members) := by
  constructor
  · rintro heq ⟨hfirst, hsecond⟩
    obtain ⟨key, hkey, _, hkeys⟩ := exists_new_key_of_adds hfirst second
    obtain ⟨other, hother, _, hothers⟩ := exists_new_key_of_adds hsecond first
    rw [heq, hothers] at hkeys
    obtain ⟨rfl, -⟩ := List.cons.inj (List.append_cancel_left hkeys)
    exact h hkey hother
  · intro hnone
    by_cases hfirst : first.Adds members
    · exact (putAll_comm_of_not_adds (List.disjoint_symm h) fun hsecond =>
        hnone ⟨hfirst, hsecond⟩).symm
    · exact putAll_comm_of_not_adds h hfirst

end Members

namespace Json

/-- Objects with the same members in whatever order; other values have to be equal. -/
def SameMembers : Json → Json → Prop
  | obj first, obj second => Members.SameMembers first second
  | first, second => first = second

/-- From one object to the other nothing changes but values under some keys; other values have to be
equal. -/
def ChangedOnly (keys : List String) : Json → Json → Prop
  | obj before, obj after => Members.ChangedOnly keys before after
  | before, after => before = after

/-- An object in which one of the members has a key that is not there yet. -/
def Gains (added : Members) : Json → Prop
  | obj members => Members.Adds added members
  | _ => False

theorem putAll_putAll (schema : Json) (added : Members) :
    (schema.putAll added).putAll added = schema.putAll added := by
  cases schema with
  | obj members => exact congrArg obj (Members.putAll_putAll members added)
  | _ => rfl

section Order

variable {first second : Members} {keys : List String}

theorem sameMembers_putAll (h : (first.map Prod.fst).Disjoint (second.map Prod.fst))
    (schema : Json) :
    ((schema.putAll first).putAll second).SameMembers ((schema.putAll second).putAll first) := by
  cases schema with
  | obj members => exact Members.sameMembers_putAll h members
  | _ => rfl

theorem putAll_comm_iff (h : (first.map Prod.fst).Disjoint (second.map Prod.fst))
    (schema : Json) :
    (schema.putAll first).putAll second = (schema.putAll second).putAll first ↔
      ¬ (schema.Gains first ∧ schema.Gains second) := by
  cases schema with
  | obj members => exact Iff.trans (iff_of_eq (obj.injEq _ _)) (Members.putAll_comm_iff h)
  | _ => exact ⟨fun _ hgains => hgains.1, fun _ => rfl⟩

theorem changedOnly_putAll_putAll (hfirst : first.map Prod.fst ⊆ keys)
    (hsecond : second.map Prod.fst ⊆ keys) (schema : Json) :
    schema.ChangedOnly keys ((schema.putAll first).putAll second) := by
  have hboth : (first ++ second).map Prod.fst ⊆ keys := by
    rw [List.map_append]
    exact List.append_subset.2 ⟨hfirst, hsecond⟩
  cases schema with
  | obj members =>
    have hchanged := Members.changedOnly_putAll hboth members
    rwa [Members.putAll_append] at hchanged
  | _ => rfl

end Order

/-- The keywords that rules for lists and maps can put into a schema. -/
def collectionKeys : List String :=
  ["minItems", "maxItems", "uniqueItems", "minProperties", "maxProperties"]

/-- **A schema that is under rules does not change if it is put under them again**, be they rules
for values of a kind, for lists or for maps. Rules for lists and rules for maps can be taken in
either order: the two schemas have the same members, and both have everything else from the schema
before. They are equal unless both rules add a key, which shows in the order of the keys. -/
theorem rules_idempotent_and_commuting :
    (∀ (rules : FieldRules) (kind : Kind) (enum : Option EnumType) (schema : Json),
      (schema.withRules rules kind enum).withRules rules kind enum =
        schema.withRules rules kind enum) ∧
    (∀ (rules : Option (RepeatedRules FieldRules)) (schema : Json),
      (schema.withRepeatedRules rules).withRepeatedRules rules = schema.withRepeatedRules rules) ∧
    (∀ (rules : Option (MapRules FieldRules)) (schema : Json),
      (schema.withMapRules rules).withMapRules rules = schema.withMapRules rules) ∧
    ∀ (lists : Option (RepeatedRules FieldRules)) (maps : Option (MapRules FieldRules))
      (schema : Json),
      ((schema.withRepeatedRules lists).withMapRules maps).SameMembers
        ((schema.withMapRules maps).withRepeatedRules lists) ∧
      schema.ChangedOnly collectionKeys ((schema.withRepeatedRules lists).withMapRules maps) ∧
      schema.ChangedOnly collectionKeys ((schema.withMapRules maps).withRepeatedRules lists) ∧
      ((schema.withRepeatedRules lists).withMapRules maps =
          (schema.withMapRules maps).withRepeatedRules lists ↔
        ¬ (schema.Gains (lists.elim [] (·.keywords)) ∧
          schema.Gains (maps.elim [] (·.keywords)))) := by
  refine ⟨fun rules kind enum schema => schema.putAll_putAll _,
    fun rules schema => schema.putAll_putAll _, fun rules schema => schema.putAll_putAll _,
    fun lists maps schema => ?_⟩
  have hlists : (lists.elim [] (·.keywords)).map Prod.fst ⊆
      ["minItems", "maxItems", "uniqueItems"] := keys_elim_subset fun own => own.keys_subset
  have hmaps : (maps.elim [] (·.keywords)).map Prod.fst ⊆ ["minProperties", "maxProperties"] :=
    keys_elim_subset fun own => own.keys_subset
  have hdisjoint : ((lists.elim [] (·.keywords)).map Prod.fst).Disjoint
      ((maps.elim [] (·.keywords)).map Prod.fst) := by
    intro key hlist hmap
    have hkeys : ∀ key ∈ ["minItems", "maxItems", "uniqueItems"],
        key ∉ ["minProperties", "maxProperties"] := by decide
    exact hkeys key (hlists hlist) (hmaps hmap)
  have hlists' : (lists.elim [] (·.keywords)).map Prod.fst ⊆ collectionKeys :=
    List.Subset.trans hlists (by decide)
  have hmaps' : (maps.elim [] (·.keywords)).map Prod.fst ⊆ collectionKeys :=
    List.Subset.trans hmaps (by decide)
  exact ⟨sameMembers_putAll hdisjoint schema, changedOnly_putAll_putAll hlists' hmaps' schema,
    changedOnly_putAll_putAll hmaps' hlists' schema, putAll_comm_iff hdisjoint schema⟩

end Json

end MessageSchema
