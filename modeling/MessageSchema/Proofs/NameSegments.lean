import MessageSchema.Text.JsonName

/-!
# JSON names by segments

A name is cut at its underscores. Its JSON name is the first segment, followed by the others with
their first characters in upper case (`JsonName.chars_eq`). Nothing but an underscore has one in its
upper case (`Uppercase.underscore_not_mem`), so no JSON name has one, and a name is its own JSON
name exactly if it has none. Main statement: `JsonName.ofName_by_segments`.
-/

namespace MessageSchema

namespace Uppercase

/-- What is no code point gives the character of code zero. -/
theorem toNat_ofNat_cases (n : Nat) : (Char.ofNat n).toNat = n ∨ (Char.ofNat n).toNat = 0 := by
  unfold Char.ofNat
  by_cases h : n.isValidChar
  · rw [dif_pos h]
    exact .inl rfl
  · rw [dif_neg h]
    exact .inr rfl

/-- Nothing but an underscore has an underscore in its upper case. -/
theorem underscore_not_mem {c : Char} (h : c ≠ '_') : '_' ∉ ofChar c := by
  have hexpansions :
      expansions.all (fun entry => !(entry.2.map Char.ofNat).contains '_') = true := by decide
  -- of each run, the character that it would take to an underscore is not in it
  have hruns : runs.all (fun run => !run.contains (95 - run.distance).toNat) = true := by decide
  unfold ofChar
  split
  · next codes hcodes =>
    obtain ⟨before, after, hlist, -⟩ := List.lookup_eq_some_iff.1 hcodes
    have hentry := List.all_eq_true.1 hexpansions (c.toNat, codes)
      (hlist ▸ List.mem_append_right _ List.mem_cons_self)
    simpa using hentry
  split
  · next run hrun =>
    have hout := List.all_eq_true.1 hruns run (List.mem_of_find?_eq_some hrun)
    have hin : run.contains c.toNat = true :=
      List.find?_some (p := fun other : Run => other.contains c.toNat) hrun
    rw [List.mem_singleton]
    intro heq
    have hcode : (Char.ofNat (c.toNat + run.distance).toNat).toNat = 95 := heq ▸ rfl
    have hback : (95 - run.distance).toNat = c.toNat := by
      rcases toNat_ofNat_cases (c.toNat + run.distance).toNat with h | h <;> omega
    rw [hback, hin] at hout
    cases hout
  · rw [List.mem_singleton]
    exact h.symm

end Uppercase

namespace JsonName

/-- A segment with its first character in upper case. -/
def capitalized : List Char → List Char
  | [] => []
  | c :: rest => Uppercase.ofChar c ++ rest

/-- The first segment as it is, and the others with their first characters in upper case. -/
def ofSegments : List (List Char) → List Char
  | [] => []
  | first :: others => first ++ others.flatMap capitalized

theorem ofSegments_append {before : List (List Char)} (h : before ≠ [])
    (after : List (List Char)) :
    ofSegments (before ++ after) = ofSegments before ++ after.flatMap capitalized := by
  obtain ⟨first, others, rfl⟩ := List.exists_cons_of_ne_nil h
  rw [List.cons_append, ofSegments, ofSegments, List.flatMap_append, List.append_assoc]

/-- The two states of the pass over a name: in its first segment, or in one of the others. -/
theorem chars_eq (cs : List Char) :
    chars false cs = ofSegments (cs.splitOn '_') ∧
      chars true cs = (cs.splitOn '_').flatMap capitalized := by
  induction cs with
  | nil => exact ⟨rfl, rfl⟩
  | cons c rest ih =>
    obtain ⟨hfirst, hother⟩ := ih
    by_cases hc : c = '_'
    · have hsplit : (c :: rest).splitOn '_' = [] :: rest.splitOn '_' := by
        rw [List.splitOn_cons_eq_if_modifyHead, if_pos (beq_iff_eq.2 hc)]
      rw [hsplit, chars, chars, if_pos hc, if_pos hc, hother]
      exact ⟨rfl, rfl⟩
    · obtain ⟨segment, others, hrest⟩ := List.exists_cons_of_ne_nil (List.splitOn_ne_nil '_' rest)
      have hsplit : (c :: rest).splitOn '_' = (c :: segment) :: others := by
        rw [List.splitOn_cons_eq_if_modifyHead, if_neg (fun h => hc (beq_iff_eq.1 h)), hrest]
        rfl
      rw [hrest] at hfirst
      rw [hsplit, chars, chars, if_neg hc, if_neg hc, hfirst]
      refine ⟨rfl, ?_⟩
      rw [if_pos rfl, List.flatMap_cons, capitalized, List.append_assoc]
      rfl

theorem underscore_not_mem_chars (raised : Bool) (cs : List Char) : '_' ∉ chars raised cs := by
  induction cs generalizing raised with
  | nil => exact List.not_mem_nil
  | cons c rest ih =>
    rw [chars]
    split
    · exact ih true
    next hc =>
    split
    · rw [List.mem_append, not_or]
      exact ⟨Uppercase.underscore_not_mem hc, ih false⟩
    · exact List.not_mem_cons_of_ne_of_not_mem (Ne.symm hc) (ih false)

theorem toList_ofName (name : String) : (ofName name).toList = chars false name.toList :=
  String.toList_ofList

theorem underscore_not_mem_ofName (name : String) : '_' ∉ (ofName name).toList := by
  rw [toList_ofName]
  exact underscore_not_mem_chars false name.toList

theorem ofName_eq_self_iff {name : String} : ofName name = name ↔ '_' ∉ name.toList := by
  constructor
  · intro h
    rw [← h]
    exact underscore_not_mem_ofName name
  · intro h
    have hsplit : name.toList.splitOn '_' = [name.toList] := List.splitOn_eq_singleton h
    rw [ofName, (chars_eq name.toList).1, hsplit, ofSegments, List.flatMap_nil, List.append_nil,
      String.ofList_toList]

/-- A name can be cut before an underscore. -/
theorem ofName_append (before after : String) :
    ofName (before ++ "_" ++ after) = ofName before ++ ofName ("_" ++ after) := by
  have hjoined : (before ++ "_" ++ after).toList = before.toList ++ '_' :: after.toList := by
    rw [String.toList_append, String.toList_append, List.append_assoc]
    rfl
  have hafter : ("_" ++ after).toList = '_' :: after.toList := String.toList_append
  have hsplit : ('_' :: after.toList).splitOn '_' = [] :: after.toList.splitOn '_' :=
    List.splitOn_append_cons_self [] after.toList
  apply String.toList_inj.1
  rw [String.toList_append, toList_ofName, toList_ofName, toList_ofName, hjoined, hafter,
    (chars_eq _).1, (chars_eq before.toList).1, (chars_eq (_ :: _)).1, hsplit,
    List.splitOn_append_cons_self, ofSegments_append (List.splitOn_ne_nil '_' before.toList)]
  rfl

/-- **The JSON name of a name is its first segment followed by the others with their first
characters in upper case**, where segments are what stands between underscores; an empty one adds
nothing. So JSON names have no underscores, names without underscores and no others are their own
JSON names, taking the JSON name twice changes nothing, and a name can be cut before any
underscore. -/
theorem ofName_by_segments (name : String) :
    ofName name = String.ofList (ofSegments (name.toList.splitOn '_')) ∧
    '_' ∉ (ofName name).toList ∧
    (ofName name = name ↔ '_' ∉ name.toList) ∧
    ofName (ofName name) = ofName name ∧
    ∀ before after : String,
      ofName (before ++ "_" ++ after) = ofName before ++ ofName ("_" ++ after) := by
  have hnone := underscore_not_mem_ofName name
  exact ⟨congrArg String.ofList (chars_eq name.toList).1, hnone, ofName_eq_self_iff,
    ofName_eq_self_iff.2 hnone, ofName_append⟩

/-- Empty segments add nothing, and a character can have two in its upper case. -/
example : ofName "_old__straße_ßx_2_" = "OldStraßeSSx2" := by decide

end JsonName

end MessageSchema
