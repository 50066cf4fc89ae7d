import MessageSchema.Schema.Assembly
import Mathlib.Data.List.Nodup

/-!
# Looking up what was put into a schema

Keys and values of objects after members were put into them, one or many, and after what a field
adds to the schema of its value. A key that nothing was put under keeps its value; of members put
under one key the last counts.
-/

namespace MessageSchema

namespace Members

variable {key : String} {value : Json} {members added : Members} {entry : String × Json}

theorem putAll_cons (members : Members) (key : String) (value : Json) (added : Members) :
    putAll members ((key, value) :: added) = putAll (put key value members) added := rfl

theorem putAll_append (members first second : Members) :
    putAll members (first ++ second) = putAll (putAll members first) second := by
  unfold putAll
  exact List.foldl_append

theorem get?_putAll_of_not_mem (h : key ∉ added.map Prod.fst) :
    get? key (putAll members added) = get? key members := by
  induction added generalizing members with
  | nil => rfl
  | cons entry rest ih =>
    obtain ⟨name, value⟩ := entry
    simp only [List.map_cons, List.mem_cons, not_or] at h
    rw [putAll_cons, ih h.2, get?_put_of_ne (Ne.symm h.1)]

theorem get?_eq_none_iff : get? key members = none ↔ key ∉ members.map Prod.fst := by
  induction members with
  | nil => simp [get?]
  | cons first rest ih =>
    obtain ⟨name, old⟩ := first
    by_cases h : name = key
    · simp [get?, h]
    · simp [get?, h, ih, Ne.symm h]

theorem get?_append (first second : Members) :
    get? key (first ++ second) = (get? key first).or (get? key second) := by
  induction first with
  | nil => simp [get?]
  | cons entry rest ih =>
    obtain ⟨name, value⟩ := entry
    by_cases h : name = key <;> simp [get?, h, ih]

/-- Where no key is put twice, what is found was put or was there before. -/
theorem get?_putAll_of_nodup (h : (added.map Prod.fst).Nodup) :
    get? key (putAll members added) = (get? key added).or (get? key members) := by
  induction added generalizing members with
  | nil => rfl
  | cons entry rest ih =>
    obtain ⟨name, value⟩ := entry
    obtain ⟨hnew, hrest⟩ := List.nodup_cons.1 h
    rw [putAll_cons, ih hrest]
    by_cases hn : name = key
    · subst hn
      simp [get?, get?_eq_none_iff.2 hnew]
    · simp [get?, hn]

/-- Of members put under one key the last counts. -/
theorem get?_putAll_last {before after : Members} (h : key ∉ after.map Prod.fst) :
    get? key (putAll members (before ++ (key, value) :: after)) = some value := by
  rw [putAll_append, putAll_cons, get?_putAll_of_not_mem h, get?_put_self]

/-- What is found after putting was found before, or is one of the values put. -/
theorem get?_putAll_cases (key : String) (members added : Members) :
    get? key (putAll members added) = get? key members ∨
      ∃ value, (key, value) ∈ added ∧ get? key (putAll members added) = some value := by
  induction added generalizing members with
  | nil => exact .inl rfl
  | cons entry rest ih =>
    obtain ⟨name, value⟩ := entry
    rw [putAll_cons]
    rcases ih (put name value members) with hkept | ⟨other, hin, hfound⟩
    · by_cases hn : name = key
      · subst hn
        exact .inr ⟨value, List.mem_cons_self, hkept.trans get?_put_self⟩
      · exact .inl (hkept.trans (get?_put_of_ne hn))
    · exact .inr ⟨other, List.mem_cons_of_mem _ hin, hfound⟩

theorem mem_keys_put {name : String} :
    name ∈ (put key value members).map Prod.fst ↔ name = key ∨ name ∈ members.map Prod.fst := by
  by_cases h : key ∈ members.map Prod.fst
  · rw [keys_put_of_mem h]
    constructor
    · exact .inr
    · rintro (rfl | hn)
      · exact h
      · exact hn
  · rw [put_of_not_mem h, List.map_append, List.mem_append, List.map_singleton,
      List.mem_singleton, or_comm]

theorem mem_keys_putAll {name : String} :
    name ∈ (putAll members added).map Prod.fst ↔
      name ∈ members.map Prod.fst ∨ name ∈ added.map Prod.fst := by
  induction added generalizing members with
  | nil => exact ⟨.inl, fun h => h.resolve_right List.not_mem_nil⟩
  | cons entry rest ih =>
    obtain ⟨key, value⟩ := entry
    rw [putAll_cons, ih, mem_keys_put, List.map_cons, List.mem_cons]
    exact ⟨fun h => by tauto, fun h => by tauto⟩

theorem put_put (key : String) (first second : Json) (members : Members) :
    put key second (put key first members) = put key second members := by
  induction members with
  | nil => simp [put]
  | cons entry rest ih =>
    obtain ⟨name, old⟩ := entry
    by_cases h : name = key <;> simp [put, h, ih]

/-- A value under a key that is there can be put before or after another one. -/
theorem put_comm_of_mem {other : String} {added : Json} (h : key ∈ members.map Prod.fst)
    (hne : key ≠ other) :
    put key value (put other added members) = put other added (put key value members) := by
  induction members with
  | nil => cases h
  | cons entry rest ih =>
    obtain ⟨name, old⟩ := entry
    by_cases hkey : name = key
    · subst hkey
      simp [put, hne]
    · have hrest : key ∈ rest.map Prod.fst := by simpa [Ne.symm hkey] using h
      by_cases hother : name = other <;> simp [put, hkey, hother, Ne.symm hne, ih hrest]

theorem put_putAll (h : key ∈ members.map Prod.fst) (hadded : key ∉ added.map Prod.fst) :
    put key value (putAll members added) = putAll (put key value members) added := by
  induction added generalizing members with
  | nil => rfl
  | cons entry rest ih =>
    obtain ⟨name, old⟩ := entry
    simp only [List.map_cons, List.mem_cons, not_or] at hadded
    rw [putAll_cons, putAll_cons, ih (mem_keys_put.2 (.inr h)) hadded.2,
      put_comm_of_mem h hadded.1]

theorem nodup_keys_put (h : (members.map Prod.fst).Nodup) :
    ((put key value members).map Prod.fst).Nodup := by
  by_cases hk : key ∈ members.map Prod.fst
  · rwa [keys_put_of_mem hk]
  · rw [put_of_not_mem hk, List.map_append]
    refine h.append (List.nodup_singleton _) fun name hname hkey => ?_
    obtain rfl := List.mem_singleton.1 hkey
    exact hk hname

theorem nodup_keys_putAll (h : (members.map Prod.fst).Nodup) :
    ((putAll members added).map Prod.fst).Nodup := by
  induction added generalizing members with
  | nil => exact h
  | cons entry rest ih => exact ih (nodup_keys_put h)

theorem mem_put (h : entry ∈ put key value members) : entry ∈ members ∨ entry = (key, value) := by
  induction members with
  | nil => exact .inr (List.mem_singleton.1 h)
  | cons first rest ih =>
    obtain ⟨name, old⟩ := first
    rw [put] at h
    split at h
    · next hname =>
      rcases List.mem_cons.1 h with rfl | hrest
      · exact .inr (by rw [hname])
      · exact .inl (List.mem_cons_of_mem _ hrest)
    · rcases List.mem_cons.1 h with rfl | hrest
      · exact .inl List.mem_cons_self
      · exact (ih hrest).imp_left (List.mem_cons_of_mem _)

theorem mem_putAll (h : entry ∈ putAll members added) : entry ∈ members ∨ entry ∈ added := by
  induction added generalizing members with
  | nil => exact .inl h
  | cons first rest ih =>
    obtain ⟨key, value⟩ := first
    rw [putAll_cons] at h
    rcases ih h with hput | hrest
    · rcases mem_put hput with hold | rfl
      · exact .inl hold
      · exact .inr List.mem_cons_self
    · exact .inr (List.mem_cons_of_mem _ hrest)

theorem mem_of_get? (h : get? key members = some value) : (key, value) ∈ members := by
  induction members with
  | nil => cases h
  | cons first rest ih =>
    obtain ⟨name, other⟩ := first
    rw [get?] at h
    split at h
    · next hname =>
      cases h
      exact hname ▸ List.mem_cons_self
    · exact List.mem_cons_of_mem _ (ih h)

/-- Putting members under new keys adds them at the end. -/
theorem putAll_of_nodup (h : ((members ++ added).map Prod.fst).Nodup) :
    putAll members added = members ++ added := by
  induction added generalizing members with
  | nil => rw [List.append_nil]; rfl
  | cons entry rest ih =>
    obtain ⟨key, value⟩ := entry
    have hmove : members ++ (key, value) :: rest = (members ++ [(key, value)]) ++ rest := by
      rw [List.append_assoc, List.singleton_append]
    have hnew : key ∉ members.map Prod.fst := by
      rw [List.map_append, List.nodup_append] at h
      intro hin
      exact h.2.2 key hin key List.mem_cons_self rfl
    rw [putAll_cons, put_of_not_mem hnew, hmove]
    exact ih (hmove ▸ h)

/-- Keys that are there keep their order; new ones follow in the order in which they are first
put. -/
theorem keys_putAll (members added : Members) : (putAll members added).map Prod.fst =
    members.map Prod.fst ++
      ((added.map Prod.fst).filter (· ∉ members.map Prod.fst)).eraseDups := by
  induction added generalizing members with
  | nil => simp [putAll]
  | cons entry rest ih =>
    obtain ⟨key, value⟩ := entry
    rw [putAll_cons, ih]
    by_cases h : key ∈ members.map Prod.fst
    · rw [keys_put_of_mem h, List.map_cons, List.filter_cons_of_neg (by simpa using h)]
    · have hkeys : (put key value members).map Prod.fst = members.map Prod.fst ++ [key] := by
        rw [put_of_not_mem h, List.map_append]
        rfl
      rw [hkeys, List.map_cons, List.filter_cons_of_pos (by simpa using h), List.eraseDups_cons,
        List.filter_filter, List.append_assoc, List.singleton_append]
      congr 4
      funext other
      rw [Bool.eq_iff_iff]
      simp [and_comm, not_or]

theorem filter_put {p : String → Bool} (h : p key = false) :
    (put key value members).filter (fun entry => p entry.1) =
      members.filter fun entry => p entry.1 := by
  induction members with
  | nil => simp [put, h]
  | cons first rest ih =>
    obtain ⟨name, old⟩ := first
    by_cases hn : name = key
    · subst hn
      simp [put, h]
    · simp [put, hn, List.filter_cons, ih]

/-- Members that are not put under a key stay where they are. -/
theorem filter_putAll {p : String → Bool} (h : ∀ key ∈ added.map Prod.fst, p key = false) :
    (putAll members added).filter (fun entry => p entry.1) =
      members.filter fun entry => p entry.1 := by
  induction added generalizing members with
  | nil => rfl
  | cons entry rest ih =>
    obtain ⟨key, value⟩ := entry
    rw [putAll_cons, ih fun other hin => h other (List.mem_cons_of_mem _ hin),
      filter_put (h key List.mem_cons_self)]

end Members

namespace Json

variable {schema : Json} {key other : String}

theorem get?_put_of_ne {value : Json} (h : key ≠ other) :
    (schema.put key value).get? other = schema.get? other := by
  cases schema with
  | obj members => exact Members.get?_put_of_ne h
  | _ => rfl

theorem get?_putAll_of_not_mem {added : Members} (h : key ∉ added.map Prod.fst) :
    (schema.putAll added).get? key = schema.get? key := by
  cases schema with
  | obj members => exact Members.get?_putAll_of_not_mem h
  | _ => rfl

@[simp] theorem putAll_nil (schema : Json) : schema.putAll [] = schema := by
  cases schema <;> rfl

theorem get?_change_of_ne {f : Json → Json} (h : key ≠ other) :
    (schema.change key f).get? other = schema.get? other := by
  unfold change
  split
  · exact get?_put_of_ne h
  · rfl

theorem get?_change_self {f : Json → Json} :
    (schema.change key f).get? key = (schema.get? key).map f := by
  unfold change
  cases h : schema.get? key with
  | none => exact h
  | some old =>
    cases schema with
    | obj members => exact Members.get?_put_self
    | _ => cases h

theorem get?_orNull (ht : "type" ≠ key) (ho : "oneOf" ≠ key) :
    schema.orNull.get? key = schema.get? key := by
  rw [orNull, get?_change_of_ne ho, get?_change_of_ne ht]

theorem get?_type_orNull : schema.orNull.get? "type" = (schema.get? "type").map typeOrNull := by
  rw [orNull, get?_change_of_ne (by decide), get?_change_self]

theorem get?_oneOf_orNull :
    schema.orNull.get? "oneOf" = (schema.get? "oneOf").map branchesOrNull := by
  rw [orNull, get?_change_self, get?_change_of_ne (by decide)]

theorem get?_withDescription {description : Option String} (h : "description" ≠ key) :
    (schema.withDescription description).get? key = schema.get? key := by
  unfold withDescription
  split
  · split
    · rfl
    · exact get?_put_of_ne h
  · rfl

end Json

end MessageSchema
