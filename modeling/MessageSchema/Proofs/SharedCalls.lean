import MessageSchema.Proofs.CacheRuns
import MessageSchema.Schema.SharedCache

/-!
# Callers who share a cache

Two callers may miss the same message, and then the later one stores its schema over that of the
other. It is the same schema: whatever is stored or about to be stored is the schema of a message of
the pool, and a name has one message (`SharedCache.Sound`). A step of one caller keeps this, and
with it so does every schedule (`SharedCache.sound_after`). Hence calls are answered with the schema
of their message, and what is stored in the end does not depend on the schedule
(`SharedCache.calls_in_any_order`).
-/

namespace MessageSchema

namespace SchemaCache

theorem lookup_putEntry (name other : String) (entry : StoredSchema)
    (entries : List (String × StoredSchema)) :
    (putEntry name entry entries).lookup other =
      if other = name then some entry else entries.lookup other := by
  induction entries with
  | nil =>
    rw [putEntry, List.lookup_cons]
    by_cases h : other = name
    · rw [if_pos h, beq_iff_eq.2 h]
    · rw [if_neg h, beq_eq_false_iff_ne.2 h]
  | cons first rest ih =>
    obtain ⟨key, old⟩ := first
    rw [putEntry]
    by_cases h : other = name
    · subst h
      rw [if_pos rfl] at ih ⊢
      by_cases hkey : key = other
      · rw [if_pos hkey, List.lookup_cons_self]
      · rw [if_neg hkey, List.lookup_cons, beq_eq_false_iff_ne.2 (Ne.symm hkey)]
        exact ih
    · rw [if_neg h] at ih ⊢
      by_cases hkey : key = name
      · rw [if_pos hkey, hkey, List.lookup_cons, List.lookup_cons, beq_eq_false_iff_ne.2 h]
      · rw [if_neg hkey, List.lookup_cons, List.lookup_cons, ih]

theorem keys_putEntry (name : String) (entry : StoredSchema)
    (entries : List (String × StoredSchema)) :
    (putEntry name entry entries).map Prod.fst =
      if name ∈ entries.map Prod.fst then entries.map Prod.fst
      else entries.map Prod.fst ++ [name] := by
  by_cases h : name ∈ entries.map Prod.fst
  · rw [if_pos h]
    induction entries with
    | nil => cases h
    | cons first rest ih =>
      obtain ⟨key, old⟩ := first
      rw [putEntry]
      by_cases hkey : key = name
      · rw [if_pos hkey, ← hkey]
        rfl
      · rw [if_neg hkey, List.map_cons, List.map_cons,
          ih ((List.mem_cons.1 h).resolve_left (Ne.symm hkey))]
  · rw [if_neg h, putEntry_of_not_mem h, List.map_append]
    rfl

theorem find?_store (cache : SchemaCache) (name other : String) (schema : Json) :
    (cache.store name schema).2.find? other =
      if other = name then some ⟨cache.stored, schema⟩ else cache.find? other :=
  lookup_putEntry name other _ _

theorem nodup_keys_store {cache : SchemaCache} (name : String) (schema : Json)
    (h : (cache.entries.map Prod.fst).Nodup) :
    ((cache.store name schema).2.entries.map Prod.fst).Nodup := by
  have hkeys := keys_putEntry name ⟨cache.stored, schema⟩ cache.entries
  change ((putEntry name ⟨cache.stored, schema⟩ cache.entries).map Prod.fst).Nodup
  rw [hkeys]
  split
  · exact h
  · next hnew => exact List.nodup_append.2 ⟨h, List.nodup_singleton _, fun key hkey other hother =>
      ne_of_mem_of_not_mem hkey (List.mem_singleton.1 hother ▸ hnew)⟩

theorem find?_of_mem_entries {cache : SchemaCache} {name : String} {entry : StoredSchema}
    (hnodup : (cache.entries.map Prod.fst).Nodup) (h : (name, entry) ∈ cache.entries) :
    cache.find? name = some entry := by
  obtain ⟨before, after, heq⟩ := List.append_of_mem h
  rw [heq, List.map_append, List.map_cons, List.nodup_append] at hnodup
  refine List.lookup_eq_some_iff.2 ⟨before, after, heq, fun other hother => bne_iff_ne.2 ?_⟩
  exact (hnodup.2.2 other.1 (List.mem_map_of_mem hother) name List.mem_cons_self).symm

/-- The stored documents under their names. -/
def documents (cache : SchemaCache) : List (String × Json) :=
  cache.entries.map fun entry => (entry.1, entry.2.schema)

theorem keys_documents (cache : SchemaCache) :
    cache.documents.map Prod.fst = cache.entries.map Prod.fst := by
  rw [documents, List.map_map]
  rfl

theorem mem_documents_iff {cache : SchemaCache} (h : (cache.entries.map Prod.fst).Nodup)
    {name : String} {document : Json} :
    (name, document) ∈ cache.documents ↔
      ∃ entry, cache.find? name = some entry ∧ entry.schema = document := by
  unfold documents
  rw [List.mem_map]
  constructor
  · rintro ⟨⟨key, entry⟩, hentry, heq⟩
    cases heq
    exact ⟨entry, find?_of_mem_entries h hentry, rfl⟩
  · rintro ⟨entry, hfound, rfl⟩
    exact ⟨(name, entry), mem_entries_of_find? hfound, rfl⟩

/-- Under every name of the first cache something is stored in the second, too. -/
def Grows (first second : SchemaCache) : Prop :=
  ∀ name, (first.find? name).isSome = true → (second.find? name).isSome = true

theorem Grows.refl (cache : SchemaCache) : cache.Grows cache := fun _ h => h

theorem Grows.trans {first second third : SchemaCache} (h : first.Grows second)
    (h' : second.Grows third) : first.Grows third := fun name hname => h' name (h name hname)

theorem grows_store (cache : SchemaCache) (name : String) (schema : Json) :
    cache.Grows (cache.store name schema).2 := by
  intro other h
  rw [find?_store]
  split
  · rfl
  · exact h

end SchemaCache

namespace Caller

variable {pool : Pool} {cache changed : SchemaCache} {c next : Caller pool}
  {program : List pool.set.Message}

/-! ## One step of one caller -/

/-- What a step does: the message is found, or it is not; it has no schema, or that is generated;
a generated schema is stored. -/
theorem step?_cases (h : c.step? cache = some (next, changed)) :
    (∃ m rest entry, c.phase = .idle ∧ c.ahead = m :: rest ∧
      cache.find? m.val.fullName = some entry ∧
      next = { c with ahead := rest }.answer m (.ok entry) ∧ changed = cache) ∨
    (∃ m rest, c.phase = .idle ∧ c.ahead = m :: rest ∧ cache.find? m.val.fullName = none ∧
      next = { c with ahead := rest, phase := .missed m } ∧ changed = cache) ∨
    (∃ m e, c.phase = .missed m ∧ pool.schemaOf m = .error e ∧
      next = c.answer m (.error e) ∧ changed = cache) ∨
    (∃ m schema, c.phase = .missed m ∧ pool.schemaOf m = .ok schema ∧
      next = { c with phase := .built m schema } ∧ changed = cache) ∨
    ∃ m schema, c.phase = .built m schema ∧ next = c.answer m (.ok ⟨cache.stored, schema⟩) ∧
      changed = (cache.store m.val.fullName schema).2 := by
  unfold step? at h
  split at h
  · next hphase =>
    split at h
    · cases h
    next m rest hahead =>
    split at h
    · next entry hfound =>
      cases h
      exact .inl ⟨m, rest, entry, hphase, hahead, hfound, rfl, rfl⟩
    · next hmissing =>
      cases h
      exact .inr (.inl ⟨m, rest, hphase, hahead, hmissing, rfl, rfl⟩)
  · next m hphase =>
    split at h
    · next e hs =>
      cases h
      exact .inr (.inr (.inl ⟨m, e, hphase, hs, rfl, rfl⟩))
    · next schema hs =>
      cases h
      exact .inr (.inr (.inr (.inl ⟨m, schema, hphase, hs, rfl, rfl⟩)))
  · next m schema hphase =>
    cases h
    exact .inr (.inr (.inr (.inr ⟨m, schema, hphase, rfl, rfl⟩)))

/-- A caller has made its calls in order and got the schemas of their messages; what it was answered
with, or another schema in its place, is still stored. -/
structure Sound (c : Caller pool) (program : List pool.set.Message) (cache : SchemaCache) :
    Prop where
  calls : c.answered.map Prod.fst ++ (c.phase.messages ++ c.ahead) = program
  built : ∀ m schema, c.phase = .built m schema → pool.schemaOf m = .ok schema
  answers : ∀ call ∈ c.answered, call.2.map (·.schema) = pool.schemaOf call.1
  kept : ∀ call ∈ c.answered, ∀ schema, pool.schemaOf call.1 = .ok schema →
    (cache.find? call.1.val.fullName).isSome = true

/-- What the others do does not harm a caller. -/
theorem Sound.mono (h : c.Sound program cache) (hgrows : cache.Grows changed) :
    c.Sound program changed :=
  { h with kept := fun call hcall schema hs => hgrows _ (h.kept call hcall schema hs) }

/-- An answer that is the schema of the message, which is stored if there is one. -/
theorem Sound.answer {m : pool.set.Message} {result : Except SchemaError StoredSchema}
    (h : c.Sound program cache) (hphase : c.phase.messages = [m])
    (hresult : result.map (·.schema) = pool.schemaOf m)
    (hkept : ∀ schema, pool.schemaOf m = .ok schema →
      (cache.find? m.val.fullName).isSome = true) :
    (c.answer m result).Sound program cache := by
  constructor
  case calls =>
    rw [← h.calls, hphase]
    simp only [Caller.answer, CallPhase.messages, List.map_append, List.map_cons, List.map_nil,
      List.append_assoc, List.nil_append]
  case built =>
    rintro n schema hbuilt
    cases hbuilt
  case answers =>
    intro call hcall
    rcases List.mem_append.1 hcall with hold | hnew
    · exact h.answers call hold
    · obtain rfl := List.mem_singleton.1 hnew
      exact hresult
  case kept =>
    intro call hcall schema hs
    rcases List.mem_append.1 hcall with hold | hnew
    · exact h.kept call hold schema hs
    · obtain rfl := List.mem_singleton.1 hnew
      exact hkept schema hs

/-- A step keeps a caller sound if whatever the cache holds for a message is the schema of it. -/
theorem Sound.step (h : c.Sound program cache)
    (hcache : ∀ m entry, cache.find? m.val.fullName = some entry →
      pool.schemaOf m = .ok entry.schema)
    (hstep : c.step? cache = some (next, changed)) : next.Sound program changed := by
  rcases step?_cases hstep with ⟨m, rest, entry, hidle, hahead, hfound, rfl, rfl⟩ |
    ⟨m, rest, hidle, hahead, -, rfl, rfl⟩ | ⟨m, e, hmissed, hs, rfl, rfl⟩ |
    ⟨m, schema, hmissed, hs, rfl, rfl⟩ | ⟨m, schema, hbuilt, rfl, rfl⟩
  · -- a caller who has begun the call, and whose answer is at hand
    have hbegun : ({ c with ahead := rest, phase := .missed m } : Caller pool).Sound program
        changed := by
      refine ⟨?_, nofun, h.answers, h.kept⟩
      rw [← h.calls, hidle, hahead]
      rfl
    refine hbegun.answer rfl (hcache m entry hfound).symm fun _ _ => ?_
    rw [hfound]
    rfl
  · refine ⟨?_, nofun, h.answers, h.kept⟩
    rw [← h.calls, hidle, hahead]
    rfl
  · refine h.answer (by rw [hmissed]; rfl) hs.symm fun schema hschema => ?_
    rw [hs] at hschema
    cases hschema
  · refine ⟨?_, ?_, h.answers, h.kept⟩
    · rw [← h.calls, hmissed]
      rfl
    · rintro n other hbuilt
      cases hbuilt
      exact hs
  · refine (h.mono (cache.grows_store _ schema)).answer (by rw [hbuilt]; rfl)
      (h.built m schema hbuilt).symm fun _ _ => ?_
    rw [SchemaCache.find?_store, if_pos rfl]
    rfl

/-- Only the step that ends a call by storing a schema changes the cache. -/
theorem step?_cache_cases (h : c.step? cache = some (next, changed)) :
    changed = cache ∨ ∃ m schema, c.phase = .built m schema ∧
      next = c.answer m (.ok ⟨cache.stored, schema⟩) ∧
      changed = (cache.store m.val.fullName schema).2 := by
  rcases step?_cases h with ⟨m, rest, entry, -, -, -, -, heq⟩ | ⟨m, rest, -, -, -, -, heq⟩ |
    ⟨m, e, -, -, -, heq⟩ | ⟨m, schema, -, -, -, heq⟩ | hstored
  · exact .inl heq
  · exact .inl heq
  · exact .inl heq
  · exact .inl heq
  · exact .inr hstored

theorem grows_step (h : c.step? cache = some (next, changed)) : cache.Grows changed := by
  rcases step?_cache_cases h with rfl | ⟨m, schema, -, -, rfl⟩
  · exact .refl _
  · exact cache.grows_store _ schema

theorem nodup_keys_step (h : c.step? cache = some (next, changed))
    (hnodup : (cache.entries.map Prod.fst).Nodup) : (changed.entries.map Prod.fst).Nodup := by
  rcases step?_cache_cases h with rfl | ⟨m, schema, -, -, rfl⟩
  · exact hnodup
  · exact SchemaCache.nodup_keys_store _ schema hnodup

/-- What is stored by a step is what the caller is answered with. -/
theorem Sound.stored_step (h : c.Sound program cache) (hstep : c.step? cache = some (next, changed))
    {name : String} {entry : StoredSchema} (hfound : changed.find? name = some entry) :
    cache.find? name = some entry ∨ ∃ call ∈ next.answered, call.1.val.fullName = name ∧
      pool.schemaOf call.1 = .ok entry.schema := by
  rcases step?_cache_cases hstep with rfl | ⟨m, schema, hbuilt, rfl, rfl⟩
  · exact .inl hfound
  · rw [SchemaCache.find?_store] at hfound
    split at hfound
    · next hname =>
      cases hfound
      exact .inr ⟨_, List.mem_append_right _ List.mem_cons_self, hname.symm, h.built m _ hbuilt⟩
    · exact .inl hfound

theorem answered_step (h : c.step? cache = some (next, changed)) :
    c.answered ⊆ next.answered := by
  rcases step?_cases h with ⟨m, rest, entry, -, -, -, rfl, -⟩ | ⟨m, rest, -, -, -, rfl, -⟩ |
    ⟨m, e, -, -, rfl, -⟩ | ⟨m, schema, -, -, rfl, -⟩ | ⟨m, schema, -, rfl, -⟩
  · exact List.subset_append_left _ _
  · exact List.Subset.refl _
  · exact List.subset_append_left _ _
  · exact List.Subset.refl _
  · exact List.subset_append_left _ _

/-! ## How far a caller has to go -/

/-- A bound on the steps that a caller still makes: a call takes three at most. -/
def left (c : Caller pool) : Nat :=
  3 * c.ahead.length + match c.phase with
    | .idle => 0
    | .missed _ => 2
    | .built _ _ => 1

theorem left_step (h : c.step? cache = some (next, changed)) : next.left < c.left := by
  rcases step?_cases h with ⟨m, rest, entry, hphase, hahead, -, rfl, -⟩ |
    ⟨m, rest, hphase, hahead, -, rfl, -⟩ | ⟨m, e, hphase, -, rfl, -⟩ |
    ⟨m, schema, hphase, -, rfl, -⟩ | ⟨m, schema, hphase, rfl, -⟩
  · simp only [left, answer, hphase, hahead, List.length_cons]
    omega
  · simp only [left, hphase, hahead, List.length_cons]
    omega
  · simp only [left, answer, hphase]
    omega
  · simp only [left, hphase]
    omega
  · simp only [left, answer, hphase]
    omega

/-- A caller who has not finished can go on, whatever the cache holds. -/
theorem exists_step (cache : SchemaCache) (h : c.isFinished = false) :
    ∃ next changed, c.step? cache = some (next, changed) := by
  unfold isFinished at h
  unfold step?
  split
  · next hphase =>
    rw [hphase] at h
    split
    · next hahead =>
      rw [hahead] at h
      cases h
    · split
      · exact ⟨_, _, rfl⟩
      · exact ⟨_, _, rfl⟩
  · split
    · exact ⟨_, _, rfl⟩
    · exact ⟨_, _, rfl⟩
  · exact ⟨_, _, rfl⟩

theorem isFinished_iff : c.isFinished = true ↔ c.phase.messages = [] ∧ c.ahead = [] := by
  unfold isFinished
  rw [Bool.and_eq_true, List.isEmpty_iff, List.isEmpty_iff]

/-- A caller who has finished has had all calls answered. -/
theorem Sound.calls_of_isFinished (h : c.Sound program cache) (hfinished : c.isFinished = true) :
    c.answered.map Prod.fst = program := by
  obtain ⟨hphase, hahead⟩ := isFinished_iff.1 hfinished
  rw [← h.calls, hphase, hahead, List.append_nil, List.append_nil]

end Caller

namespace SharedCache

variable {pool : Pool} {s : SharedCache pool} {programs : List (List pool.set.Message)}

/-! ## One step of any caller -/

theorem step_append {cache changed : SchemaCache} {c next : Caller pool}
    (before after : List (Caller pool)) (h : c.step? cache = some (next, changed)) :
    step ⟨cache, before ++ c :: after⟩ before.length = ⟨changed, before ++ next :: after⟩ := by
  unfold step
  rw [List.getElem?_append_right (Nat.le_refl _), Nat.sub_self, List.getElem?_cons_zero]
  simp only [h, List.set_append_right _ _ (Nat.le_refl _), Nat.sub_self, List.set_cons_zero]

/-- Nothing happens, or one of the callers makes a step. -/
theorem step_cases (s : SharedCache pool) (i : Nat) :
    s.step i = s ∨ ∃ before c after next changed, s.callers = before ++ c :: after ∧
      c.step? s.cache = some (next, changed) ∧ s.step i = ⟨changed, before ++ next :: after⟩ := by
  obtain ⟨cache, callers⟩ := s
  by_cases hi : i < callers.length
  · have hsplit : callers = callers.take i ++ callers[i] :: callers.drop (i + 1) := by
      rw [List.getElem_cons_drop, List.take_append_drop]
    have hlength : (callers.take i).length = i := List.length_take_of_le (Nat.le_of_lt hi)
    cases hnext : callers[i].step? cache with
    | none =>
      refine .inl ?_
      simp only [step, List.getElem?_eq_getElem hi, hnext]
    | some result =>
      have hstep := step_append (callers.take i) (callers.drop (i + 1)) hnext
      rw [← hsplit, hlength] at hstep
      exact .inr ⟨_, _, _, result.1, result.2, hsplit, hnext, hstep⟩
  · refine .inl ?_
    simp only [step, List.getElem?_eq_none (Nat.le_of_not_lt hi)]

/-- The callers are sound, and whatever is stored is what one of them was answered with. -/
structure Sound (s : SharedCache pool) (programs : List (List pool.set.Message)) : Prop where
  callers : List.Forall₂ (fun c program => c.Sound program s.cache) s.callers programs
  distinct : (s.cache.entries.map Prod.fst).Nodup
  stored : ∀ name entry, s.cache.find? name = some entry → ∃ c ∈ s.callers,
    ∃ call ∈ c.answered, call.1.val.fullName = name ∧ pool.schemaOf call.1 = .ok entry.schema

/-- What is stored for a message is the schema of it, since no other message has its name. -/
theorem Sound.schemaOf_of_find? (h : s.Sound programs) (m : pool.set.Message)
    (entry : StoredSchema) (hfound : s.cache.find? m.val.fullName = some entry) :
    pool.schemaOf m = .ok entry.schema := by
  obtain ⟨c, -, call, -, hname, hs⟩ := h.stored _ entry hfound
  obtain rfl : call.1 = m :=
    Subtype.ext (pool.eq_of_fullName_eq call.1.property m.property hname)
  exact hs

theorem Sound.caller (h : s.Sound programs) {c : Caller pool} (hc : c ∈ s.callers) :
    ∃ program ∈ programs, c.Sound program s.cache := by
  obtain ⟨i, hi, rfl⟩ := List.getElem_of_mem hc
  have hi' : i < programs.length := h.callers.length_eq ▸ hi
  exact ⟨programs[i], List.getElem_mem hi', h.callers.get hi hi'⟩

theorem Sound.program (h : s.Sound programs) {program : List pool.set.Message}
    (hprogram : program ∈ programs) : ∃ c ∈ s.callers, c.Sound program s.cache := by
  obtain ⟨i, hi, rfl⟩ := List.getElem_of_mem hprogram
  have hi' : i < s.callers.length := h.callers.length_eq.symm ▸ hi
  exact ⟨s.callers[i], List.getElem_mem hi', h.callers.get hi' hi⟩

/-- Every caller makes the calls that it was to make, in their order. -/
theorem Sound.calls (h : s.Sound programs) :
    s.callers.map (fun c => c.answered.map Prod.fst ++ (c.phase.messages ++ c.ahead)) =
      programs := by
  have hcalls : List.Forall₂ (· = ·) (s.callers.map fun c =>
      c.answered.map Prod.fst ++ (c.phase.messages ++ c.ahead)) programs :=
    List.forall₂_map_left_iff.2 (h.callers.imp fun _ _ hsound => hsound.calls)
  rwa [List.forall₂_eq_eq_eq] at hcalls

theorem sound_start (programs : List (List pool.set.Message)) :
    (start programs).Sound programs := by
  constructor
  case callers =>
    refine List.forall₂_map_left_iff.2 (List.forall₂_same.2 fun program _ => ?_)
    exact ⟨rfl, nofun, nofun, nofun⟩
  case distinct => exact List.nodup_nil
  case stored => exact nofun

/-- One member of the first list is changed, and what holds of it with its partner changes. -/
theorem forall₂_replace {α β : Type} {R S : α → β → Prop} {before after : List α} {a b : α}
    {partners : List β} (h : List.Forall₂ R (before ++ a :: after) partners)
    (hother : ∀ x y, R x y → S x y) (hchanged : ∀ y, R a y → S b y) :
    List.Forall₂ S (before ++ b :: after) partners := by
  induction before generalizing partners with
  | nil =>
    obtain ⟨y, rest, hy, hrest, rfl⟩ := List.forall₂_cons_left_iff.1 h
    exact .cons (hchanged y hy) (hrest.imp hother)
  | cons x before ih =>
    obtain ⟨y, rest, hy, hrest, rfl⟩ := List.forall₂_cons_left_iff.1 h
    exact .cons (hother x y hy) (ih hrest)

/-- Whatever callers have been answered with, they are answered with after a step. -/
theorem answered_step (s : SharedCache pool) (i : Nat) {c : Caller pool} (hc : c ∈ s.callers) :
    ∃ next ∈ (s.step i).callers, c.answered ⊆ next.answered := by
  rcases s.step_cases i with heq | ⟨before, moved, after, next, changed, hcallers, hstep, heq⟩
  · rw [heq]
    exact ⟨c, hc, List.Subset.refl _⟩
  rw [heq]
  rw [hcallers, List.mem_append, List.mem_cons] at hc
  rcases hc with hc | rfl | hc
  · exact ⟨c, List.mem_append_left _ hc, List.Subset.refl _⟩
  · exact ⟨next, List.mem_append_cons_self, Caller.answered_step hstep⟩
  · exact ⟨c, List.mem_append_right _ (List.mem_cons_of_mem _ hc), List.Subset.refl _⟩

theorem Sound.step (h : s.Sound programs) (i : Nat) : (s.step i).Sound programs := by
  have hanswered := fun c (hc : c ∈ s.callers) => s.answered_step i hc
  rcases s.step_cases i with heq | ⟨before, c, after, next, changed, hcallers, hstep, heq⟩
  · rwa [heq]
  have hc : c ∈ s.callers := hcallers ▸ List.mem_append_cons_self
  rw [heq] at hanswered ⊢
  constructor
  case callers =>
    have hold := h.callers
    rw [hcallers] at hold
    exact forall₂_replace hold (fun _ _ hother => hother.mono (Caller.grows_step hstep))
      (fun _ hmoved => hmoved.step h.schemaOf_of_find? hstep)
  case distinct => exact Caller.nodup_keys_step hstep h.distinct
  case stored =>
    intro name entry hfound
    obtain ⟨program, -, hsound⟩ := h.caller hc
    rcases hsound.stored_step hstep hfound with hold | hnew
    · obtain ⟨other, hother, call, hcall, hschema⟩ := h.stored name entry hold
      obtain ⟨moved, hmoved, hsubset⟩ := hanswered other hother
      exact ⟨moved, hmoved, call, hsubset hcall, hschema⟩
    · exact ⟨next, List.mem_append_cons_self, hnew⟩

theorem grows_cache_step (s : SharedCache pool) (i : Nat) : s.cache.Grows (s.step i).cache := by
  rcases s.step_cases i with heq | ⟨before, c, after, next, changed, -, hstep, heq⟩
  · rw [heq]
    exact .refl _
  · rw [heq]
    exact Caller.grows_step hstep

/-! ## Whole schedules -/

theorem Sound.run (h : s.Sound programs) (schedule : List Nat) :
    (s.run schedule).Sound programs := by
  induction schedule generalizing s with
  | nil => exact h
  | cons i rest ih => exact ih (h.step i)

theorem sound_after (programs : List (List pool.set.Message)) (schedule : List Nat) :
    ((start programs).run schedule).Sound programs :=
  (sound_start programs).run schedule

theorem grows_cache_run (s : SharedCache pool) (schedule : List Nat) :
    s.cache.Grows (s.run schedule).cache := by
  induction schedule generalizing s with
  | nil => exact .refl _
  | cons i rest ih => exact (s.grows_cache_step i).trans (ih _)

/-- A bound on the steps that callers still make. -/
def stepsLeft : List (Caller pool) → Nat
  | [] => 0
  | c :: rest => c.left + stepsLeft rest

theorem stepsLeft_lt {c next : Caller pool} (h : next.left < c.left)
    (before after : List (Caller pool)) :
    stepsLeft (before ++ next :: after) < stepsLeft (before ++ c :: after) := by
  induction before with
  | nil => exact Nat.add_lt_add_right h _
  | cons first before ih => exact Nat.add_lt_add_left ih _

/-- If not all calls have been answered, one of the callers can go on. -/
theorem exists_step (h : s.isFinished = false) :
    ∃ i, stepsLeft (s.step i).callers < stepsLeft s.callers := by
  unfold isFinished at h
  obtain ⟨c, hc, hunfinished⟩ := List.all_eq_false.1 h
  obtain ⟨before, after, hcallers⟩ := List.append_of_mem hc
  obtain ⟨next, changed, hstep⟩ :=
    Caller.exists_step s.cache ((Bool.not_eq_true _).mp hunfinished)
  obtain ⟨cache, callers⟩ := s
  obtain rfl : callers = before ++ c :: after := hcallers
  refine ⟨before.length, ?_⟩
  rw [step_append before after hstep]
  exact stepsLeft_lt (Caller.left_step hstep) before after

/-- From wherever it is, a shared cache can get all calls answered. -/
theorem exists_run_isFinished (s : SharedCache pool) :
    ∃ later, (s.run later).isFinished = true := by
  cases hfinished : s.isFinished with
  | true => exact ⟨[], hfinished⟩
  | false =>
    obtain ⟨i, hless⟩ := exists_step hfinished
    obtain ⟨later, hlater⟩ := exists_run_isFinished (s.step i)
    exact ⟨i :: later, hlater⟩
termination_by stepsLeft s.callers

/-- Once all calls have been answered, the messages that were asked for and have a schema are
stored, and nothing else is. -/
theorem Sound.mem_documents_iff (h : s.Sound programs) (hfinished : s.isFinished = true)
    (name : String) (document : Json) :
    (name, document) ∈ s.cache.documents ↔ ∃ program ∈ programs, ∃ m ∈ program,
      m.val.fullName = name ∧ pool.schemaOf m = .ok document := by
  rw [SchemaCache.mem_documents_iff h.distinct]
  unfold isFinished at hfinished
  constructor
  · rintro ⟨entry, hfound, rfl⟩
    obtain ⟨c, hc, call, hcall, hname, hs⟩ := h.stored name entry hfound
    obtain ⟨program, hprogram, hsound⟩ := h.caller hc
    have hcalls := hsound.calls_of_isFinished (List.all_eq_true.1 hfinished c hc)
    exact ⟨program, hprogram, call.1, hcalls ▸ List.mem_map_of_mem hcall, hname, hs⟩
  · rintro ⟨program, hprogram, m, hm, rfl, hs⟩
    obtain ⟨c, hc, hsound⟩ := h.program hprogram
    have hcalls := hsound.calls_of_isFinished (List.all_eq_true.1 hfinished c hc)
    obtain ⟨call, hcall, rfl⟩ := List.mem_map.1 (hcalls.symm ▸ hm)
    obtain ⟨entry, hfound⟩ := Option.isSome_iff_exists.1 (hsound.kept call hcall document hs)
    have hschema := hs.symm.trans (h.schemaOf_of_find? call.1 entry hfound)
    exact ⟨entry, hfound, (Except.ok.inj hschema).symm⟩

/-- Callers ask for schemas in whatever order their steps come. At every moment each has made its
calls in its order; an answer that was given is the schema of its message, or the error that the
message has; one schema is stored under a name, that of the message with this name. What has been
answered with a schema stays stored. All calls can be answered from there, and once they are, the
same names and documents are stored as after every other schedule. -/
theorem calls_in_any_order (programs : List (List pool.set.Message)) (schedule : List Nat) :
    let now := (start programs).run schedule
    now.callers.map (fun c => c.answered.map Prod.fst ++ (c.phase.messages ++ c.ahead)) =
      programs ∧
    (∀ c ∈ now.callers, ∀ call ∈ c.answered, call.2.map (·.schema) = pool.schemaOf call.1) ∧
    ((now.cache.documents.map Prod.fst).Nodup ∧ ∀ name document,
      (name, document) ∈ now.cache.documents →
        ∃ m : pool.set.Message, m.val.fullName = name ∧ pool.schemaOf m = .ok document) ∧
    (∀ c ∈ now.callers, ∀ m entry, (m, .ok entry) ∈ c.answered → ∀ later,
      (now.run later).cache.contains m.val.fullName = true) ∧
    (∃ later, (now.run later).isFinished = true) ∧
    (now.isFinished = true →
      now.callers.map (fun c => c.answered.map Prod.fst) = programs ∧
      ∀ other, ((start programs).run other).isFinished = true →
        now.cache.documents.Perm ((start programs).run other).cache.documents) := by
  intro now
  have h : now.Sound programs := sound_after programs schedule
  have hkeys : (now.cache.documents.map Prod.fst).Nodup :=
    now.cache.keys_documents.symm ▸ h.distinct
  refine ⟨h.calls, ?_, ⟨hkeys, ?_⟩, ?_, now.exists_run_isFinished, fun hfinished => ⟨?_, ?_⟩⟩
  · intro c hc call hcall
    obtain ⟨program, -, hsound⟩ := h.caller hc
    exact hsound.answers call hcall
  · intro name document hstored
    obtain ⟨entry, hfound, rfl⟩ := (SchemaCache.mem_documents_iff h.distinct).1 hstored
    obtain ⟨c, -, call, -, hname, hs⟩ := h.stored name entry hfound
    exact ⟨call.1, hname, hs⟩
  · intro c hc m entry hcall later
    obtain ⟨program, -, hsound⟩ := h.caller hc
    have hs : pool.schemaOf m = .ok entry.schema := (hsound.answers _ hcall).symm
    exact now.grows_cache_run later _ (hsound.kept _ hcall _ hs)
  · refine Eq.trans (List.map_congr_left fun c hc => ?_) h.calls
    obtain ⟨hphase, hahead⟩ := Caller.isFinished_iff.1 (List.all_eq_true.1 hfinished c hc)
    rw [hphase, hahead, List.append_nil, List.append_nil]
  · intro other hother
    have h' := sound_after programs other
    refine (List.perm_ext_iff_of_nodup hkeys.of_map ?_).2 fun ⟨name, document⟩ => ?_
    · exact List.Nodup.of_map Prod.fst
        ((((start programs).run other).cache.keys_documents).symm ▸ h'.distinct)
    · rw [h.mem_documents_iff hfinished, h'.mem_documents_iff hother]

end SharedCache

end MessageSchema
