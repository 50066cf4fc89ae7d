import MessageSchema.Json.Written

/-!
# Structures in JSON

A structure with named fields is written as an object, or as an array of its fields in order whose
end may be left out. Keys that name no field are passed over; a field may be given once. Each field
is smaller than the structure it belongs to (`Record.smaller`), so structures can be decoded by
recursion.
-/

namespace MessageSchema

/-- The fields that something written of the given size gives to a structure. -/
structure Record (size : Nat) where
  fields : List (String × Written)
  smaller : ∀ field ∈ fields, sizeOf field.2 < size

namespace Written

/-- The entries of an object under the given keys; none if one of its keys spells no text. -/
def known? (keys : List String) :
    List (Option String × Written) → Option (List (String × Written))
  | [] => some []
  | (none, _) :: _ => none
  | (some key, value) :: rest =>
    (known? keys rest).map fun fields => if key ∈ keys then (key, value) :: fields else fields

theorem smaller_of_known? {keys : List String} {entries : List (Option String × Written)}
    {fields : List (String × Written)} (h : known? keys entries = some fields) :
    ∀ field ∈ fields, sizeOf field.2 < sizeOf entries := by
  induction entries generalizing fields with
  | nil => simp [known?] at h; simp [h]
  | cons entry rest ih =>
    obtain ⟨_ | key, value⟩ := entry
    · simp [known?] at h
    · simp only [known?, Option.map_eq_some_iff] at h
      obtain ⟨others, hothers, rfl⟩ := h
      intro field hfield
      have hrest : field ∈ others → sizeOf field.2 < 1 + sizeOf (some key, value) + sizeOf rest :=
        fun hin => by have := ih hothers field hin; omega
      split at hfield
      · rcases List.mem_cons.1 hfield with rfl | hin
        · simp only [List.cons.sizeOf_spec, Prod.mk.sizeOf_spec]; omega
        · simpa using hrest hin
      · simpa using hrest hfield

theorem smaller_of_zip {keys : List String} {items : List Written} :
    ∀ field ∈ keys.zip items, sizeOf field.2 < sizeOf items := by
  intro field hfield
  exact List.sizeOf_lt_of_mem (List.of_mem_zip hfield).2

/-- The fields that are given to a structure with the given keys. -/
def record? (keys : List String) : (w : Written) → Option (Record (sizeOf w))
  | .obj entries =>
    match h : known? keys entries with
    | none => none
    | some fields =>
      if (fields.map Prod.fst).Nodup then
        some ⟨fields, fun field hfield => by
          have := smaller_of_known? h field hfield
          simp only [obj.sizeOf_spec]; omega⟩
      else none
  | .arr items =>
    if items.length ≤ keys.length then
      some ⟨keys.zip items, fun field hfield => by
        have := smaller_of_zip field hfield
        simp only [arr.sizeOf_spec]; omega⟩
    else none
  | _ => none

end Written

namespace Record

variable {α : Type} {size : Nat}

/-- What is given to a field. -/
def find? (key : String) (r : Record size) : Option { value : Written // sizeOf value < size } :=
  match h : r.fields.find? (·.1 == key) with
  | none => none
  | some field => some ⟨field.2, r.smaller field (List.mem_of_find?_eq_some h)⟩

/-- A field that must be given. -/
def required? (r : Record size) (key : String) (decode? : Written → Option α) : Option α :=
  (r.find? key).bind fun value => decode? value.val

/-- A field that need not be given, and stands for `default` then. -/
def withDefault? (r : Record size) (key : String) (default : α) (decode? : Written → Option α) :
    Option α :=
  match r.find? key with
  | none => some default
  | some value => decode? value.val

/-- A field that may be null or missing, decoded with the knowledge that it is smaller. -/
def nested? (r : Record size) (key : String)
    (decode? : (value : Written) → sizeOf value < size → Option α) : Option (Option α) :=
  match r.find? key with
  | none => some none
  | some ⟨.null, _⟩ => some none
  | some ⟨value, h⟩ => (decode? value h).map some

/-- A field that may be null or missing. -/
def optional? (r : Record size) (key : String) (decode? : Written → Option α) :
    Option (Option α) :=
  r.nested? key fun value _ => decode? value

end Record

end MessageSchema
