import MessageSchema.Proofs.Validity

/-!
# What stands where in a document

`Json.Stands document place value`: the value stands in the document, as all of it, as an item of a
list, or under a key of an object. What stands in a document is all of it, or stands in one of its
children (`Stands.cases_children`), and a document mentions the keys of all objects that stand in it
(`Stands.key_not_mem`).
-/

namespace MessageSchema

namespace Json

/-- How a value stands in a document: as all of it, in a list, or in an object under a key. -/
inductive Place where
  | root
  | item
  | member (parent : Json) (key : String)

/-- The items of a list and the values of an object, each with its place. -/
def children : Json → List (Place × Json)
  | arr items => items.map (.item, ·)
  | obj members => members.map fun entry => (.member (obj members) entry.1, entry.2)
  | _ => []

/-- The values in a document, each at its place. -/
inductive Stands (document : Json) : Place → Json → Prop
  | root : Stands document .root document
  | child {above place : Place} {value inner : Json} (outer : Stands document above value)
      (hin : (place, inner) ∈ value.children) : Stands document place inner

variable {document value inner : Json} {place above : Place} {members : Members}
  {items : List Json} {key : String}

theorem mem_children_arr :
    (place, inner) ∈ (arr items).children ↔ place = .item ∧ inner ∈ items := by
  rw [children, List.mem_map]
  constructor
  · rintro ⟨item, hin, heq⟩
    cases heq
    exact ⟨rfl, hin⟩
  · rintro ⟨rfl, hin⟩
    exact ⟨inner, hin, rfl⟩

theorem mem_children_obj : (place, inner) ∈ (obj members).children ↔
    ∃ key, place = .member (obj members) key ∧ (key, inner) ∈ members := by
  rw [children, List.mem_map]
  constructor
  · rintro ⟨⟨key, value⟩, hin, heq⟩
    cases heq
    exact ⟨key, rfl, hin⟩
  · rintro ⟨key, rfl, hin⟩
    exact ⟨(key, inner), hin, rfl⟩

theorem ne_root_of_mem_children (h : (place, inner) ∈ value.children) : place ≠ .root := by
  cases value with
  | arr items =>
    obtain ⟨rfl, -⟩ := mem_children_arr.1 h
    rintro ⟨⟩
  | obj members =>
    obtain ⟨key, rfl, -⟩ := mem_children_obj.1 h
    rintro ⟨⟩
  | _ => cases h

theorem Stands.eq_of_root (h : document.Stands .root value) : value = document := by
  cases h with
  | root => rfl
  | child _ hin => exact absurd rfl (ne_root_of_mem_children hin)

/-- What stands in a child stands in the document, but for the child itself at the same place. -/
theorem Stands.of_child (hin : (above, inner) ∈ document.children) (h : inner.Stands place value)
    (hplace : place ≠ .root) : document.Stands place value := by
  have hstands : place = .root ∧ value = inner ∨ document.Stands place value := by
    clear hplace
    induction h with
    | root => exact .inl ⟨rfl, rfl⟩
    | child _ hbelow ih =>
      rcases ih with ⟨-, rfl⟩ | houter
      · exact .inr (.child (.child .root hin) hbelow)
      · exact .inr (.child houter hbelow)
  exact hstands.resolve_left fun ⟨hroot, _⟩ => hplace hroot

theorem Stands.cases_children (h : document.Stands place value) :
    (place = .root ∧ value = document) ∨ (place, value) ∈ document.children ∨
      ∃ child ∈ document.children, place ≠ .root ∧ child.2.Stands place value := by
  induction h with
  | root => exact .inl ⟨rfl, rfl⟩
  | @child above place value inner _ hin ih =>
    have hplace := ne_root_of_mem_children hin
    rcases ih with ⟨-, rfl⟩ | hchild | ⟨child, hchild, -, hbelow⟩
    · exact .inr (.inl hin)
    · exact .inr (.inr ⟨_, hchild, hplace, .child .root hin⟩)
    · exact .inr (.inr ⟨child, hchild, hplace, .child hbelow hin⟩)

/-! ## Keys that are mentioned -/

theorem itemsMention_iff :
    itemsMention key items = true ↔ ∃ item ∈ items, item.mentions key = true := by
  induction items with
  | nil =>
    constructor
    · intro h; cases h
    · rintro ⟨_, h, -⟩; cases h
  | cons item rest ih =>
    rw [itemsMention, Bool.or_eq_true, ih]
    simp only [List.mem_cons, exists_eq_or_imp]

/-- A value in which a child mentions a key mentions it too. -/
theorem mentions_of_child (hin : (place, inner) ∈ value.children) (h : inner.mentions key = true) :
    value.mentions key = true := by
  cases value with
  | arr items =>
    obtain ⟨-, hin⟩ := mem_children_arr.1 hin
    rw [mentions]
    exact itemsMention_iff.2 ⟨inner, hin, h⟩
  | obj members =>
    obtain ⟨name, -, hin⟩ := mem_children_obj.1 hin
    rw [mentions]
    exact membersMention_iff.2 ⟨_, hin, .inr h⟩
  | _ => cases hin

theorem mentions_of_stands (hstands : document.Stands place value) (h : value.mentions key = true) :
    document.mentions key = true := by
  induction hstands with
  | root => exact h
  | child _ hin ih => exact ih (mentions_of_child hin h)

theorem mentions_of_key_mem (h : key ∈ members.map Prod.fst) :
    (obj members).mentions key = true := by
  obtain ⟨entry, hentry, hkey⟩ := List.mem_map.1 h
  rw [mentions]
  exact membersMention_iff.2 ⟨entry, hentry, .inl hkey⟩

/-- In a document that does not mention a key no object has it. -/
theorem Stands.key_not_mem (hstands : document.Stands place (obj members))
    (h : document.mentions key = false) : key ∉ members.map Prod.fst := by
  intro hin
  rw [mentions_of_stands hstands (mentions_of_key_mem hin)] at h
  cases h

theorem mentions_of_get? {name : String} (hget : value.get? name = some inner)
    (h : inner.mentions key = true) : value.mentions key = true := by
  cases value with
  | obj members =>
    exact mentions_of_child (mem_children_obj.2 ⟨name, rfl, Members.mem_of_get? hget⟩) h
  | _ => cases hget

end Json

end MessageSchema
