import MessageSchema.Number.Integer
import MessageSchema.Number.Binary

/-!
# JSON values

A JSON value with its numbers as they are written: integers, and finite floating-point numbers of
both widths. An object is the list of its members in order. Putting a member under a key that is
there keeps its place, under a new key adds it at the end (`Json.put`); `Json.putAll` does so for a
list of members and leaves any value that is not an object alone.
-/

namespace MessageSchema

/-- A number of a JSON value. -/
inductive Number where
  | int (value : Integer)
  | double (value : Binary .double)
  | single (value : Binary .single)
  deriving DecidableEq

/-- A JSON value; objects keep the order of their members. -/
inductive Json where
  | null
  | bool (value : Bool)
  | num (value : Number)
  | str (value : String)
  | arr (items : List Json)
  | obj (members : List (String × Json))

/-- The members of a JSON object, in order. -/
abbrev Members := List (String × Json)

/-- The value under a key. -/
def Members.get? (key : String) : Members → Option Json
  | [] => none
  | (name, value) :: rest => if name = key then some value else Members.get? key rest

/-- The members with `value` under `key`: in the place of the first member of that key, or at the
end. -/
def Members.put (key : String) (value : Json) : Members → Members
  | [] => [(key, value)]
  | (name, old) :: rest =>
    if name = key then (name, value) :: rest else (name, old) :: Members.put key value rest

/-- Puts members one after the other. -/
def Members.putAll (members added : Members) : Members :=
  added.foldl (fun sofar (key, value) => Members.put key value sofar) members

namespace Json

instance : Inhabited Json := ⟨null⟩

/-- An integer. -/
def int (n : Integer) : Json := num (.int n)

/-- A size given by a descriptor. -/
def ofSize (n : Unsigned64) : Json := int n.toInteger

/-- A count. -/
def count (n : Nat) : Json := int (.ofNat n)

/-- A list of strings. -/
def strings (ss : List String) : Json := arr (ss.map str)

/-- An object of those members that have a value. -/
def ofOptional (members : List (String × Option Json)) : Json :=
  obj (members.filterMap fun (key, value) => value.map (key, ·))

/-- The value under a key of an object. -/
def get? (key : String) : Json → Option Json
  | obj members => Members.get? key members
  | _ => none

/-- Puts a member into an object; any other value stays as it is. -/
def put (into : Json) (key : String) (value : Json) : Json :=
  match into with
  | obj members => obj (Members.put key value members)
  | other => other

/-- Puts members into an object, one after the other; any other value stays as it is. -/
def putAll (added : Members) : Json → Json
  | obj members => obj (Members.putAll members added)
  | other => other

mutual

/-- Equality of JSON values, member order included, is decidable. -/
def decEq : (a b : Json) → Decidable (a = b)
  | .null, .null => isTrue rfl
  | .bool a, .bool b => decidable_of_iff (a = b) (by simp)
  | .num a, .num b => decidable_of_iff (a = b) (by simp)
  | .str a, .str b => decidable_of_iff (a = b) (by simp)
  | .arr a, .arr b => @decidable_of_iff _ (a = b) (by simp) (decEqItems a b)
  | .obj a, .obj b => @decidable_of_iff _ (a = b) (by simp) (decEqMembers a b)
  | .null, .bool _ | .null, .num _ | .null, .str _ | .null, .arr _ | .null, .obj _
  | .bool _, .null | .bool _, .num _ | .bool _, .str _ | .bool _, .arr _ | .bool _, .obj _
  | .num _, .null | .num _, .bool _ | .num _, .str _ | .num _, .arr _ | .num _, .obj _
  | .str _, .null | .str _, .bool _ | .str _, .num _ | .str _, .arr _ | .str _, .obj _
  | .arr _, .null | .arr _, .bool _ | .arr _, .num _ | .arr _, .str _ | .arr _, .obj _
  | .obj _, .null | .obj _, .bool _ | .obj _, .num _ | .obj _, .str _ | .obj _, .arr _ =>
    isFalse (by simp)

/-- Equality of lists of values is decidable. -/
def decEqItems : (a b : List Json) → Decidable (a = b)
  | [], [] => isTrue rfl
  | [], _ :: _ | _ :: _, [] => isFalse (by simp)
  | a :: as, b :: bs =>
    have := decEq a b
    have := decEqItems as bs
    decidable_of_iff (a = b ∧ as = bs) (by simp)

/-- Equality of lists of members is decidable. -/
def decEqMembers : (a b : List (String × Json)) → Decidable (a = b)
  | [], [] => isTrue rfl
  | [], _ :: _ | _ :: _, [] => isFalse (by simp)
  | (k, a) :: as, (l, b) :: bs =>
    have := decEq a b
    have := decEqMembers as bs
    decidable_of_iff (k = l ∧ a = b ∧ as = bs) (by simp [and_assoc])

end

instance : DecidableEq Json := decEq

end Json

namespace Members

variable {key other : String} {value : Json} {members : Members}

@[simp] theorem get?_put_self : get? key (put key value members) = some value := by
  induction members with
  | nil => simp [put, get?]
  | cons m rest ih =>
    obtain ⟨name, old⟩ := m
    by_cases h : name = key <;> simp [put, get?, h, ih]

@[simp] theorem get?_put_of_ne (h : key ≠ other) :
    get? other (put key value members) = get? other members := by
  induction members with
  | nil => simp [put, get?, h]
  | cons m rest ih =>
    obtain ⟨name, old⟩ := m
    by_cases hn : name = key
    · simp [put, get?, hn, h]
    · by_cases ho : name = other
      · subst ho; simp [put, get?, hn]
      · simp [put, get?, hn, ho, ih]

/-- Putting under a key that is there keeps the keys. -/
theorem keys_put_of_mem (h : key ∈ members.map Prod.fst) :
    (put key value members).map Prod.fst = members.map Prod.fst := by
  induction members with
  | nil => simp at h
  | cons m rest ih =>
    obtain ⟨name, old⟩ := m
    by_cases hn : name = key
    · simp [put, hn]
    · simp only [put, hn, if_false, List.map_cons, List.cons.injEq, true_and]
      exact ih (by simpa [Ne.symm hn] using h)

/-- Putting under a new key adds it at the end. -/
theorem put_of_not_mem (h : key ∉ members.map Prod.fst) :
    put key value members = members ++ [(key, value)] := by
  induction members with
  | nil => rfl
  | cons m rest ih =>
    obtain ⟨name, old⟩ := m
    simp only [List.map_cons, List.mem_cons, not_or] at h
    simp [put, Ne.symm h.1, ih h.2]

end Members

end MessageSchema
