import MessageSchema.Descriptor.Decoding
import MessageSchema.Descriptor.Encoding
import MessageSchema.Proofs.Building
import Mathlib.Data.List.Nodup

/-!
# Structures that are kept as text

A value is kept by its encoding if the encoding can be read and decodes to the value again (`Kept`).
For a structure this is a matter of its fields (`KeptField`): each is encoded under its own key, or
left out where the default stands for it, and is looked up there again (`Kept.record`). The fields
are taken in the order in which they are read (`KeptField.andThen`).
-/

namespace MessageSchema

namespace Json

variable {room : Nat}

theorem readable_arr_iff {items : List Json} :
    (arr items).Readable room ↔ 0 < room ∧ ∀ item ∈ items, item.Readable (room - 1) := by
  rw [Readable]
  refine and_congr_right fun _ => ?_
  induction items with
  | nil => exact ⟨nofun, fun _ => trivial⟩
  | cons item rest ih => rw [ItemsReadable, ih, List.forall_mem_cons]

theorem readable_obj_iff {members : List (String × Json)} :
    (obj members).Readable room ↔ 0 < room ∧ ∀ member ∈ members, member.2.Readable (room - 1) := by
  rw [Readable]
  refine and_congr_right fun _ => ?_
  induction members with
  | nil => exact ⟨nofun, fun _ => trivial⟩
  | cons member rest ih =>
    obtain ⟨key, value⟩ := member
    rw [MembersReadable, ih, List.forall_mem_cons]

theorem readable_ofOptional {members : List (String × Option Json)} (hroom : 0 < room)
    (h : ∀ member ∈ members, ∀ value ∈ member.2, value.Readable (room - 1)) :
    (ofOptional members).Readable room := by
  refine readable_obj_iff.2 ⟨hroom, fun member hmember => ?_⟩
  obtain ⟨⟨key, value⟩, hin, heq⟩ := List.mem_filterMap.1 hmember
  obtain ⟨written, rfl, rfl⟩ := Option.map_eq_some_iff.1 heq
  exact h _ hin written rfl

variable [DecimalRounding]

/-- The fields that are read where the members of a structure have been written. -/
def writtenFields (members : List (String × Option Json)) : List (String × Written) :=
  members.filterMap fun member => member.2.map fun value => (member.1, value.respelled)

theorem respelled_ofOptional (members : List (String × Option Json)) :
    (ofOptional members).respelled =
      .obj ((writtenFields members).map fun field => (some field.1, field.2)) := by
  rw [ofOptional, respelled, membersRespelled_eq_map, writtenFields, List.map_filterMap,
    List.map_filterMap]
  refine congrArg Written.obj (List.filterMap_congr fun member _ => ?_)
  rw [Option.map_map, Option.map_map]
  rfl

theorem keys_writtenFields (members : List (String × Option Json)) :
    ((writtenFields members).map Prod.fst).Sublist (members.map Prod.fst) := by
  induction members with
  | nil => exact .refl _
  | cons member rest ih =>
    obtain ⟨key, _ | value⟩ := member
    · exact ih.cons key
    · exact ih.cons_cons key

/-- Under the key of a member its value is found. -/
theorem find?_writtenFields {members : List (String × Option Json)} {key : String}
    {value : Option Json} (hkeys : (members.map Prod.fst).Nodup) (h : (key, value) ∈ members) :
    ((writtenFields members).find? (·.1 == key)).map Prod.snd = value.map respelled := by
  induction members with
  | nil => cases h
  | cons member rest ih =>
    obtain ⟨other, written⟩ := member
    rw [List.map_cons, List.nodup_cons] at hkeys
    rcases List.mem_cons.1 h with heq | hin
    · cases heq
      cases value with
      | none =>
        -- the key is left out, and no other member has it
        have hmissing : (writtenFields rest).find? (·.1 == key) = none := by
          refine List.find?_eq_none.2 fun field hfield heq => hkeys.1 ?_
          exact eq_of_beq heq ▸ (keys_writtenFields rest).subset (List.mem_map_of_mem hfield)
        rw [show writtenFields ((key, none) :: rest) = writtenFields rest from rfl, hmissing]
        rfl
      | some value =>
        have hfields : writtenFields ((key, some value) :: rest) =
            (key, value.respelled) :: writtenFields rest := rfl
        rw [hfields, List.find?_cons, beq_self_eq_true]
        rfl
    · have hother : other ≠ key := by
        rintro rfl
        exact hkeys.1 (List.mem_map.2 ⟨(other, value), hin, rfl⟩)
      cases written with
      | none => exact ih hkeys.2 hin
      | some written =>
        have hfields : writtenFields ((other, some written) :: rest) =
            (other, written.respelled) :: writtenFields rest := rfl
        rw [hfields, List.find?_cons_of_neg (by simpa using hother)]
        exact ih hkeys.2 hin

end Json

namespace Written

theorem known?_entries {keys : List String} {fields : List (String × Written)}
    (h : ∀ field ∈ fields, field.1 ∈ keys) :
    known? keys (fields.map fun field => (some field.1, field.2)) = some fields := by
  induction fields with
  | nil => rfl
  | cons field rest ih =>
    obtain ⟨hfield, hrest⟩ := List.forall_mem_cons.1 h
    rw [List.map_cons, known?, ih hrest, Option.map_some, if_pos hfield]

theorem mem_of_known? {keys : List String} {entries : List (Option String × Written)}
    {fields : List (String × Written)} (h : known? keys entries = some fields) :
    ∀ field ∈ fields, (some field.1, field.2) ∈ entries := by
  induction entries generalizing fields with
  | nil =>
    cases h
    exact nofun
  | cons entry rest ih =>
    obtain ⟨_ | key, value⟩ := entry
    · cases h
    · obtain ⟨others, hothers, rfl⟩ := Option.map_eq_some_iff.1 h
      intro field hfield
      split at hfield
      · rcases List.mem_cons.1 hfield with rfl | hin
        · exact List.mem_cons_self
        · exact .tail _ (ih hothers field hin)
      · exact .tail _ (ih hothers field hfield)

/-- There is room for the fields of a structure inside it. -/
theorem fitsIn_of_record? {room : Nat} {keys : List String} {w : Written}
    {r : Record (sizeOf w)} (h : w.record? keys = some r) (hw : w.FitsIn room) :
    0 < room ∧ ∀ field ∈ r.fields, field.2.FitsIn (room - 1) := by
  cases w with
  | obj entries =>
    obtain ⟨hroom, hentries⟩ := fitsIn_obj_iff.1 hw
    rw [record?] at h
    split at h
    · cases h
    · next fields hknown =>
      split at h
      · cases h
        exact ⟨hroom, fun field hfield => hentries _ (mem_of_known? hknown field hfield)⟩
      · cases h
  | arr items =>
    obtain ⟨hroom, hitems⟩ := fitsIn_arr_iff.1 hw
    rw [record?] at h
    split at h
    · cases h
      exact ⟨hroom, fun field hfield => hitems _ (List.of_mem_zip hfield).2⟩
    · cases h
  | null | bool _ | num _ | str _ | unreadable => cases h

/-- A structure that has been written is read with the keys of its members. -/
theorem record?_ofOptional [DecimalRounding] {members : List (String × Option Json)}
    {keys : List String}
    (hkeys : members.map Prod.fst = keys) (hnodup : keys.Nodup) :
    ∃ r, (Json.ofOptional members).respelled.record? keys = some r ∧
      r.fields = Json.writtenFields members := by
  have hsublist := hkeys ▸ Json.keys_writtenFields members
  have hknown :
      known? keys ((Json.writtenFields members).map fun field => (some field.1, field.2)) =
        some (Json.writtenFields members) :=
    known?_entries fun field hfield => hsublist.subset (List.mem_map_of_mem hfield)
  rw [Json.respelled_ofOptional]
  rw [record?]
  split
  · next hnone => rw [hknown] at hnone; cases hnone
  · next fields hsome =>
    obtain rfl := Option.some.inj (hknown.symm.trans hsome)
    rw [if_pos (hsublist.nodup hnodup)]
    exact ⟨_, rfl, rfl⟩

end Written

namespace Record

variable {size : Nat} {key : String}

theorem find?_map_val (r : Record size) (key : String) :
    (r.find? key).map Subtype.val = (r.fields.find? (·.1 == key)).map Prod.snd := by
  unfold find?
  split
  · next hnone => exact (congrArg (Option.map Prod.snd) hnone).symm
  · next field hsome => exact (congrArg (Option.map Prod.snd) hsome).symm

theorem mem_of_find? {r : Record size} {part : { value : Written // sizeOf value < size }}
    (h : r.find? key = some part) : ∃ field ∈ r.fields, field.2 = part.val := by
  have hfound := r.find?_map_val key
  rw [h] at hfound
  obtain ⟨field, hfield, heq⟩ := Option.map_eq_some_iff.1 hfound.symm
  exact ⟨field, List.mem_of_find?_eq_some hfield, heq⟩

theorem exists_find?_of_map_val {r : Record size} {w : Written}
    (h : (r.find? key).map Subtype.val = some w) :
    ∃ hw : sizeOf w < size, r.find? key = some ⟨w, hw⟩ := by
  obtain ⟨⟨value, hvalue⟩, hfound, rfl⟩ := Option.map_eq_some_iff.1 h
  exact ⟨hvalue, hfound⟩

variable {α : Type} {decode? : Written → Option α}

theorem optional?_of_find? {r : Record size} {w : Written}
    (h : (r.find? key).map Subtype.val = some w) (hw : w ≠ .null) :
    r.optional? key decode? = (decode? w).map some := by
  obtain ⟨hsize, hfound⟩ := exists_find?_of_map_val h
  unfold optional? nested?
  rw [hfound]
  cases w with
  | null => exact absurd rfl hw
  | bool _ | num _ | str _ | unreadable | arr _ | obj _ => rfl

theorem optional?_of_missing {r : Record size} (h : (r.find? key).map Subtype.val = none) :
    r.optional? key decode? = some none := by
  unfold optional? nested?
  rw [Option.map_eq_none_iff.1 h]

theorem withDefault?_of_find? {r : Record size} {w : Written} (default : α)
    (h : (r.find? key).map Subtype.val = some w) :
    r.withDefault? key default decode? = decode? w := by
  obtain ⟨hsize, hfound⟩ := exists_find?_of_map_val h
  rw [withDefault?, hfound]

theorem withDefault?_of_missing {r : Record size} (default : α)
    (h : (r.find? key).map Subtype.val = none) :
    r.withDefault? key default decode? = some default := by
  rw [withDefault?, Option.map_eq_none_iff.1 h]

theorem required?_of_find? {r : Record size} {w : Written}
    (h : (r.find? key).map Subtype.val = some w) : r.required? key decode? = decode? w := by
  obtain ⟨hsize, hfound⟩ := exists_find?_of_map_val h
  rw [required?, hfound, Option.bind_some]

/-- What is decoded from a field that may be missing is decoded from a part of the structure. -/
theorem exists_part_of_optional? {r : Record size} {x : α}
    (h : r.optional? key decode? = some (some x)) :
    ∃ field ∈ r.fields, sizeOf field.2 < size ∧ decode? field.2 = some x := by
  unfold optional? nested? at h
  split at h
  · cases h
  · cases h
  · next value hvalue _ hfound =>
    obtain ⟨field, hfield, rfl⟩ := mem_of_find? hfound
    obtain ⟨y, hy, hyx⟩ := Option.map_eq_some_iff.1 h
    exact ⟨field, hfield, hvalue, hyx ▸ hy⟩

/-- What is decoded from a field with a default is that or decoded from a part of the structure. -/
theorem default_or_part_of_withDefault? {r : Record size} {default x : α}
    (h : r.withDefault? key default decode? = some x) :
    x = default ∨ ∃ field ∈ r.fields, decode? field.2 = some x := by
  unfold withDefault? at h
  split at h
  · exact .inl (Option.some.inj h).symm
  · next part hfound =>
    obtain ⟨field, hfield, heq⟩ := mem_of_find? hfound
    exact .inr ⟨field, hfield, heq ▸ h⟩

end Record

section Items

variable {α : Type} {decode? : Written → Option α} {room : Nat}

theorem mapM_cons_eq_some_iff {item : Written} {items : List Written} {values : List α} :
    (item :: items).mapM decode? = some values ↔
      ∃ x rest, decode? item = some x ∧ items.mapM decode? = some rest ∧ x :: rest = values := by
  simp only [List.mapM_cons, Option.bind_eq_bind, Option.bind_eq_some_iff, Option.pure_def,
    Option.some.injEq]
  exact ⟨fun ⟨x, hx, rest, hrest, heq⟩ => ⟨x, rest, hx, hrest, heq⟩,
    fun ⟨x, rest, hx, hrest, heq⟩ => ⟨x, hx, rest, hrest, heq⟩⟩

theorem exists_item_of_mapM {items : List Written} {values : List α}
    (h : items.mapM decode? = some values) :
    ∀ x ∈ values, ∃ item ∈ items, decode? item = some x := by
  induction items generalizing values with
  | nil =>
    cases h
    exact nofun
  | cons item rest ih =>
    obtain ⟨first, others, hfirst, hothers, rfl⟩ := mapM_cons_eq_some_iff.1 h
    refine List.forall_mem_cons.2 ⟨⟨item, List.mem_cons_self, hfirst⟩, fun x hx => ?_⟩
    obtain ⟨found, hfound, hdecodes⟩ := ih hothers x hx
    exact ⟨found, .tail _ hfound, hdecodes⟩

theorem exists_of_list? {w : Written} {values : List α}
    (h : Written.list? decode? w = some values) : ∀ x ∈ values, ∃ item, decode? item = some x := by
  cases w with
  | arr items =>
    intro x hx
    obtain ⟨item, -, hdecodes⟩ := exists_item_of_mapM h x hx
    exact ⟨item, hdecodes⟩
  | null | bool _ | num _ | str _ | unreadable | obj _ => cases h

/-- The items of a list are decoded from parts for which there is room inside it. -/
theorem exists_item_of_list? {w : Written} {values : List α}
    (h : Written.list? decode? w = some values) (hw : w.FitsIn room) :
    0 < room ∧ ∀ x ∈ values, ∃ item : Written, item.FitsIn (room - 1) ∧ decode? item = some x := by
  cases w with
  | arr items =>
    obtain ⟨hroom, hitems⟩ := Written.fitsIn_arr_iff.1 hw
    refine ⟨hroom, fun x hx => ?_⟩
    obtain ⟨item, hitem, hdecodes⟩ := exists_item_of_mapM h x hx
    exact ⟨item, hitems item hitem, hdecodes⟩
  | null | bool _ | num _ | str _ | unreadable | obj _ => cases h

end Items

/-! ## Values that are kept -/

variable [DecimalRounding]

/-- The encoding of a value can be read where there is `room`, and decodes to the value again. -/
structure Kept {α : Type} (encode : α → Json) (decode? : Written → Option α) (room : Nat) (x : α) :
    Prop where
  readable : (encode x).Readable room
  decodes : decode? (encode x).respelled = some x
  notNull : (encode x).respelled ≠ .null

/-- A field of a structure can be read as it is written, or left out, under its key. -/
structure KeptField {α : Type} {size : Nat} (room : Nat) (key : String)
    (read? : Record size → Option α) (x : α) (written : Option Json) : Prop where
  readable : ∀ value ∈ written, value.Readable room
  reads : ∀ r, (r.find? key).map Subtype.val = written.map Json.respelled → read? r = some x

/-- All fields of a structure can be read as they are written. -/
structure KeptFields {α : Type} {size : Nat} (room : Nat) (members : List (String × Option Json))
    (read? : Record size → Option α) (x : α) : Prop where
  readable : ∀ member ∈ members, ∀ value ∈ member.2, value.Readable room
  reads : ∀ r, (∀ member ∈ members,
    (r.find? member.1).map Subtype.val = member.2.map Json.respelled) → read? r = some x

theorem KeptFields.done {α : Type} {size room : Nat} (x : α) :
    KeptFields room [] (fun _ : Record size => pure x) x := ⟨nofun, fun _ _ => rfl⟩

/-- One field is read before the others. -/
theorem KeptField.andThen {α β : Type} {size room : Nat} {key : String}
    {read? : Record size → Option β} {value : β} {written : Option Json}
    {members : List (String × Option Json)} {others? : Record size → β → Option α} {x : α}
    (h : KeptField room key read? value written)
    (hothers : KeptFields room members (others? · value) x) :
    KeptFields room ((key, written) :: members) (fun r => read? r >>= others? r) x := by
  constructor
  case readable => exact List.forall_mem_cons.2 ⟨h.readable, hothers.readable⟩
  case reads =>
    intro r hfind
    obtain ⟨hfirst, hrest⟩ := List.forall_mem_cons.1 hfind
    rw [h.reads r hfirst, Option.bind_eq_bind, Option.bind_some]
    exact hothers.reads r hrest

section Fields

variable {α : Type} {encode : α → Json} {decode? : Written → Option α} {room size target : Nat}
  {key : String} {x : α}

theorem Kept.required (h : Kept encode decode? room x) :
    KeptField room key (fun r : Record target => r.required? key decode?) x (some (encode x)) :=
  ⟨fun _ hvalue => Option.some.inj hvalue ▸ h.readable,
    fun _ hfound => (Record.required?_of_find? hfound).trans h.decodes⟩

theorem Kept.withDefault (h : Kept encode decode? room x) (default : α) :
    KeptField room key (fun r : Record target => r.withDefault? key default decode?) x
      (some (encode x)) :=
  ⟨fun _ hvalue => Option.some.inj hvalue ▸ h.readable,
    fun _ hfound => (Record.withDefault?_of_find? default hfound).trans h.decodes⟩

/-- A field that may be missing is kept if its value is, which is decoded from a smaller part. -/
theorem keptField_optional {r : Record size} {o : Option α}
    (h : r.optional? key decode? = some o) (hfits : ∀ field ∈ r.fields, field.2.FitsIn room)
    (hkept : ∀ x ∈ o, (∃ part : Written, sizeOf part < size ∧ part.FitsIn room ∧
      decode? part = some x) → Kept encode decode? room x) :
    KeptField room key (fun r : Record target => r.optional? key decode?) o (o.map encode) := by
  cases o with
  | none => exact ⟨nofun, fun _ hfound => Record.optional?_of_missing hfound⟩
  | some x =>
    obtain ⟨field, hfield, hsize, hpart⟩ := Record.exists_part_of_optional? h
    have hx := hkept x rfl ⟨field.2, hsize, hfits field hfield, hpart⟩
    refine ⟨fun _ hvalue => Option.some.inj hvalue ▸ hx.readable, fun _ hfound => ?_⟩
    rw [Record.optional?_of_find? hfound hx.notNull, hx.decodes]
    rfl

/-- A list is kept if its items are. -/
theorem kept_list {values : List α} (hroom : 0 < room)
    (h : ∀ x ∈ values, Kept encode decode? (room - 1) x) :
    Kept (fun values => .arr (values.map encode)) (Written.list? decode?) room values := by
  constructor
  case readable =>
    refine Json.readable_arr_iff.2 ⟨hroom, fun item hitem => ?_⟩
    obtain ⟨x, hx, rfl⟩ := List.mem_map.1 hitem
    exact (h x hx).readable
  case decodes =>
    rw [Json.respelled, Json.itemsRespelled_eq_map, Written.list?, List.map_map]
    clear hroom
    induction values with
    | nil => rfl
    | cons x rest ih =>
      obtain ⟨hx, hrest⟩ := List.forall_mem_cons.1 h
      exact mapM_cons_eq_some_iff.2 ⟨x, rest, hx.decodes, ih hrest, rfl⟩
  case notNull => exact nofun

/-- A list is kept that is written also where it is empty, if there is room for it. -/
theorem keptField_list {r : Record size} {values : List α} (hroom : 0 < room)
    (h : r.withDefault? key [] (Written.list? decode?) = some values)
    (hfits : ∀ field ∈ r.fields, field.2.FitsIn room)
    (hkept : ∀ x ∈ values, (∃ item : Written, item.FitsIn (room - 1) ∧ decode? item = some x) →
      Kept encode decode? (room - 1) x) :
    KeptField room key (fun r : Record target => r.withDefault? key [] (Written.list? decode?))
      values (some (.arr (values.map encode))) := by
  refine (kept_list hroom fun x hx => ?_).withDefault []
  rcases Record.default_or_part_of_withDefault? h with rfl | ⟨field, hfield, hpart⟩
  · cases hx
  · exact hkept x hx ((exists_item_of_list? hpart (hfits field hfield)).2 x hx)

/-- A list is kept that is left out where it is empty. -/
theorem keptField_listed {r : Record size} {values : List α}
    (h : r.withDefault? key [] (Written.list? decode?) = some values)
    (hfits : ∀ field ∈ r.fields, field.2.FitsIn room)
    (hkept : ∀ x ∈ values, (∃ item : Written, item.FitsIn (room - 1) ∧ decode? item = some x) →
      Kept encode decode? (room - 1) x) :
    KeptField room key (fun r : Record target => r.withDefault? key [] (Written.list? decode?))
      values (encodeListed encode values) := by
  rcases Record.default_or_part_of_withDefault? h with rfl | ⟨field, hfield, hpart⟩
  · exact ⟨nofun, fun _ hfound => Record.withDefault?_of_missing [] hfound⟩
  · obtain ⟨hroom, hitems⟩ := exists_item_of_list? hpart (hfits field hfield)
    unfold encodeListed
    split
    · next hempty =>
      obtain rfl := List.isEmpty_iff.1 hempty
      exact ⟨nofun, fun _ hfound => Record.withDefault?_of_missing [] hfound⟩
    · exact (kept_list hroom fun x hx => hkept x hx (hitems x hx)).withDefault []

/-- A structure is kept if its fields are. -/
theorem Kept.record {w : Written} {keys : List String} {r : Record (sizeOf w)}
    (hr : w.record? keys = some r) (hw : w.FitsIn room) {members : List (String × Option Json)}
    {read? : Record (sizeOf (Json.ofOptional members).respelled) → Option α}
    (hencode : encode x = .ofOptional members) (hkeys : members.map Prod.fst = keys)
    (hnodup : keys.Nodup)
    (hdecode : decode? (Json.ofOptional members).respelled =
      (Json.ofOptional members).respelled.record? keys >>= read?)
    (h : KeptFields (room - 1) members read? x) : Kept encode decode? room x := by
  constructor
  case readable =>
    rw [hencode]
    exact Json.readable_ofOptional (Written.fitsIn_of_record? hr hw).1 h.readable
  case decodes =>
    obtain ⟨read, hread, hfields⟩ := Written.record?_ofOptional hkeys hnodup
    rw [hencode, hdecode, hread, Option.bind_eq_bind, Option.bind_some]
    refine h.reads read fun member hmember => ?_
    rw [read.find?_map_val, hfields]
    exact Json.find?_writtenFields (hkeys ▸ hnodup) hmember
  case notNull =>
    rw [hencode, Json.respelled_ofOptional]
    exact nofun

end Fields

end MessageSchema
