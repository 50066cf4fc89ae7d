import MessageSchema.Descriptor.Construction
import MessageSchema.Proofs.Walk
import MessageSchema.Schema.Cache
import Mathlib.Data.List.Dedup
import Mathlib.Data.List.Induction

/-!
# What a cache answers over a run

A run asks an empty cache for one thing after the other. Some of its builds succeed, each with a
stored document (`SchemaCache.builds`), and these say all that there is to know of the cache: under
a name it holds what the first build of that name was answered with (`Holds`). One request keeps
that so (`Holds.answer`), and thus a whole run does (`holds_after`). What a request is answered is
then told by the builds before it (`cache_run`).
-/

namespace MessageSchema

/-- A build that succeeded, with the stored document that it was answered with. -/
structure Build where
  pool : Pool
  message : pool.set.Message
  entry : StoredSchema

namespace Build

/-- The full name of the message. -/
def name (b : Build) : String := b.message.val.fullName

/-- What a request and its answer are as a build. -/
def ofAnswer? : CacheRequest → CacheAnswer → Option Build
  | .build pool m, .built (.ok entry) => some ⟨pool, m, entry⟩
  | _, _ => none

/-- The first build of a name. -/
def first? (builds : List Build) (name : String) : Option Build :=
  builds.find? (·.name == name)

variable {builds : List Build} {b : Build} {name : String}

theorem eq_of_ofAnswer? {request : CacheRequest} {answer : CacheAnswer}
    (h : ofAnswer? request answer = some b) : request = .build b.pool b.message := by
  unfold ofAnswer? at h
  split at h
  · cases h
    rfl
  · cases h

theorem mem_of_first? (h : first? builds name = some b) : b ∈ builds :=
  List.mem_of_find?_eq_some h

theorem name_of_first? (h : first? builds name = some b) : b.name = name := by
  have hname := List.find?_some h
  exact eq_of_beq hname

theorem first?_eq_none_iff : first? builds name = none ↔ ∀ b ∈ builds, b.name ≠ name := by
  unfold first?
  rw [List.find?_eq_none]
  simp only [beq_iff_eq, ne_eq]

theorem first?_isSome_iff : (first? builds name).isSome = true ↔ ∃ b ∈ builds, b.name = name := by
  unfold first?
  rw [List.find?_isSome]
  simp only [beq_iff_eq]

/-- A build that comes last is the first of its name if there was none before. -/
theorem first?_concat (builds : List Build) (b : Build) (name : String) :
    first? (builds ++ [b]) name =
      (first? builds name).or (if b.name = name then some b else none) := by
  unfold first?
  rw [List.find?_append, List.find?_singleton]
  simp only [beq_iff_eq]

end Build

namespace SchemaCache

/-! ## One request -/

section Request

variable {cache : SchemaCache} {name : String} {entry : StoredSchema}

theorem putEntry_of_not_mem {entries : List (String × StoredSchema)}
    (h : name ∉ entries.map Prod.fst) :
    putEntry name entry entries = entries ++ [(name, entry)] := by
  induction entries with
  | nil => rfl
  | cons first rest ih =>
    obtain ⟨other, old⟩ := first
    rw [List.map_cons, List.mem_cons, not_or] at h
    rw [putEntry, if_neg (Ne.symm h.1), ih h.2]
    rfl

theorem find?_eq_none_iff : cache.find? name = none ↔ name ∉ cache.entries.map Prod.fst := by
  unfold find?
  rw [List.lookup_eq_none_iff]
  simp only [List.mem_map, not_exists, not_and, bne_iff_ne]
  exact ⟨fun h entry hin hname => h entry hin hname.symm,
    fun h entry hin hname => h entry hin hname.symm⟩

theorem mem_entries_of_find? (h : cache.find? name = some entry) :
    (name, entry) ∈ cache.entries := by
  unfold find? at h
  obtain ⟨before, after, heq, -⟩ := List.lookup_eq_some_iff.1 h
  rw [heq]
  exact List.mem_append_cons_self

/-- An entry that comes last is found if there was none of its name. -/
theorem find?_concat (cache : SchemaCache) (stored : Nat) (last : String) (entry : StoredSchema)
    (name : String) : find? ⟨cache.entries ++ [(last, entry)], stored⟩ name =
      (cache.find? name).or (if last = name then some entry else none) := by
  unfold find?
  rw [List.lookup_append]
  by_cases hname : last = name
  · rw [if_pos hname, hname, List.lookup_cons_self]
  · rw [if_neg hname, List.lookup_cons, beq_eq_false_iff_ne.2 (Ne.symm hname), List.lookup_nil]

/-- What is asked for is stored, or has no schema, or is stored now at the end. -/
theorem getOrBuild_cases (cache : SchemaCache) (pool : Pool) (m : pool.set.Message) :
    (∃ entry, cache.find? m.val.fullName = some entry ∧
      cache.getOrBuild pool m = (.ok entry, cache)) ∨
    (cache.find? m.val.fullName = none ∧ ∃ e, pool.schemaOf m = .error e ∧
      cache.getOrBuild pool m = (.error e, cache)) ∨
    (cache.find? m.val.fullName = none ∧ ∃ schema, pool.schemaOf m = .ok schema ∧
      cache.getOrBuild pool m = (.ok ⟨cache.stored, schema⟩,
        ⟨cache.entries ++ [(m.val.fullName, ⟨cache.stored, schema⟩)], cache.stored + 1⟩)) := by
  unfold getOrBuild
  cases found : cache.find? m.val.fullName with
  | some entry => exact .inl ⟨entry, rfl, rfl⟩
  | none =>
    cases hs : pool.schemaOf m with
    | error e => exact .inr (.inl ⟨rfl, e, rfl, rfl⟩)
    | ok schema =>
      refine .inr (.inr ⟨rfl, schema, rfl, ?_⟩)
      simp only [store, putEntry_of_not_mem (find?_eq_none_iff.1 found)]

/-- A build fails exactly if nothing is stored and the message has no schema. -/
theorem getOrBuild_eq_error_iff {pool : Pool} {m : pool.set.Message} {e : SchemaError} :
    (cache.getOrBuild pool m).1 = .error e ↔
      cache.find? m.val.fullName = none ∧ pool.schemaOf m = .error e := by
  rcases cache.getOrBuild_cases pool m with ⟨entry, hfound, heq⟩ | ⟨hmissing, cause, hs, heq⟩ |
    ⟨hmissing, schema, hs, heq⟩
  · rw [heq, hfound]
    constructor
    · intro he; cases he
    · rintro ⟨hnone, -⟩; cases hnone
  · rw [heq, hs]
    exact ⟨fun he => ⟨hmissing, congrArg _ (Except.error.inj he)⟩,
      fun ⟨_, he⟩ => congrArg _ (Except.error.inj he)⟩
  · rw [heq, hs]
    constructor
    · intro he; cases he
    · rintro ⟨-, he⟩; cases he

theorem getOrBuild_of_error {pool : Pool} {m : pool.set.Message} {e : SchemaError}
    (h : (cache.getOrBuild pool m).1 = .error e) : (cache.getOrBuild pool m).2 = cache := by
  rcases cache.getOrBuild_cases pool m with ⟨entry, -, heq⟩ | ⟨-, cause, -, heq⟩ |
    ⟨-, schema, -, heq⟩
  · rw [heq]
  · rw [heq]
  · rw [heq] at h
    cases h

/-! ## What is kept -/

/-- A cache holds, under a name, what the first build of that name was answered with; this build
generated it, and every other build of the name was answered with it. Serials count the entries. -/
structure Holds (cache : SchemaCache) (builds : List Build) : Prop where
  found : ∀ name, cache.find? name = (Build.first? builds name).map (·.entry)
  generated : ∀ name first, Build.first? builds name = some first →
    first.pool.schemaOf first.message = .ok first.entry.schema
  shared : ∀ b ∈ builds, cache.find? b.name = some b.entry
  distinct : (cache.entries.map Prod.fst).Nodup
  serials : cache.entries.map (·.2.serial) = List.range cache.stored

namespace Holds

variable {builds : List Build}

theorem empty : Holds SchemaCache.empty [] where
  found _ := rfl
  generated _ _ h := by cases h
  shared _ h := absurd h List.not_mem_nil
  distinct := List.nodup_nil
  serials := rfl

theorem find?_eq_none_iff (h : cache.Holds builds) :
    cache.find? name = none ↔ ∀ b ∈ builds, b.name ≠ name := by
  rw [h.found, Option.map_eq_none_iff, Build.first?_eq_none_iff]

theorem exists_first (h : cache.Holds builds) (hfound : cache.find? name = some entry) :
    ∃ first, Build.first? builds name = some first ∧ first.entry = entry := by
  rw [h.found] at hfound
  exact Option.map_eq_some_iff.1 hfound

/-- A build that is answered with what is stored changes nothing. -/
theorem concat_of_found (h : cache.Holds builds) {b : Build}
    (hfound : cache.find? b.name = some b.entry) : cache.Holds (builds ++ [b]) := by
  obtain ⟨first, hfirst, -⟩ := h.exists_first hfound
  -- another build of the name comes first
  have hkept : ∀ name, Build.first? (builds ++ [b]) name = Build.first? builds name := by
    intro name
    rw [Build.first?_concat]
    by_cases hname : b.name = name
    · rw [← hname, hfirst]
      rfl
    · rw [if_neg hname, Option.or_none]
  constructor
  case found =>
    intro name
    rw [hkept, h.found]
  case generated =>
    intro name first hname
    rw [hkept] at hname
    exact h.generated name first hname
  case shared =>
    intro other hother
    rcases List.mem_append.1 hother with hother | hother
    · exact h.shared other hother
    · rwa [List.mem_singleton.1 hother]
  case distinct => exact h.distinct
  case serials => exact h.serials

/-- A build whose name is new is stored. -/
theorem concat_of_missing (h : cache.Holds builds) {b : Build}
    (hmissing : cache.find? b.name = none)
    (hb : b.pool.schemaOf b.message = .ok b.entry.schema)
    (hserial : b.entry.serial = cache.stored) :
    Holds ⟨cache.entries ++ [(b.name, b.entry)], cache.stored + 1⟩ (builds ++ [b]) := by
  have hnone : Build.first? builds b.name = none :=
    Build.first?_eq_none_iff.2 (h.find?_eq_none_iff.1 hmissing)
  constructor
  case found =>
    intro name
    rw [find?_concat, Build.first?_concat, h.found]
    by_cases hname : b.name = name
    · rw [if_pos hname, if_pos hname, ← hname, hnone]
      rfl
    · rw [if_neg hname, if_neg hname, Option.or_none, Option.or_none]
  case generated =>
    intro name first hfirst
    rw [Build.first?_concat, Option.or_eq_some_iff] at hfirst
    rcases hfirst with hold | ⟨-, hnew⟩
    · exact h.generated name first hold
    · obtain ⟨-, heq⟩ := Option.ite_none_right_eq_some.1 hnew
      exact Option.some.inj heq ▸ hb
  case shared =>
    intro other hother
    rw [find?_concat]
    rcases List.mem_append.1 hother with hother | hother
    · rw [h.shared other hother, Option.some_or]
    · rw [List.mem_singleton.1 hother, hmissing, if_pos rfl, Option.none_or]
  case distinct =>
    have hnew := SchemaCache.find?_eq_none_iff.1 hmissing
    rw [List.map_append, List.map_singleton]
    refine List.nodup_append.2 ⟨h.distinct, List.nodup_singleton _, ?_⟩
    rintro name hname last hlast rfl
    rw [List.mem_singleton.1 hlast] at hname
    exact hnew hname
  case serials =>
    rw [List.map_append, List.map_singleton, h.serials, hserial]
    exact List.range_succ.symm

/-- What a cache holds after a request is what was built before, and what the request built. -/
theorem answer (h : cache.Holds builds) (request : CacheRequest) :
    (cache.answer request).2.Holds
      (builds ++ (Build.ofAnswer? request (cache.answer request).1).toList) := by
  cases request with
  | get name | contains name =>
    show cache.Holds (builds ++ [])
    rwa [List.append_nil]
  | build pool m =>
    rcases cache.getOrBuild_cases pool m with ⟨entry, hfound, heq⟩ | ⟨-, e, -, heq⟩ |
      ⟨hmissing, schema, hs, heq⟩
    · simp only [SchemaCache.answer, heq]
      exact h.concat_of_found (b := ⟨pool, m, entry⟩) hfound
    · simp only [SchemaCache.answer, heq]
      show cache.Holds (builds ++ [])
      rwa [List.append_nil]
    · simp only [SchemaCache.answer, heq]
      exact h.concat_of_missing (b := ⟨pool, m, ⟨cache.stored, schema⟩⟩) hmissing hs rfl

/-- Builds are answered with one document exactly if they are of one name. -/
theorem serial_eq_iff (h : cache.Holds builds) {b c : Build} (hb : b ∈ builds) (hc : c ∈ builds) :
    b.entry.serial = c.entry.serial ↔ b.name = c.name := by
  have hmem : ∀ d ∈ builds, (d.name, d.entry) ∈ cache.entries := fun d hd =>
    mem_entries_of_find? (h.shared d hd)
  constructor
  · intro hserial
    have hnodup : (cache.entries.map (·.2.serial)).Nodup := h.serials ▸ List.nodup_range
    have hentry := List.inj_on_of_nodup_map hnodup (hmem b hb) (hmem c hc) hserial
    exact (Prod.mk.inj hentry).1
  · intro hname
    have hentry := (h.shared b hb).symm.trans (hname ▸ h.shared c hc)
    rw [Option.some.inj hentry]

/-- There are as many entries as names of builds. -/
theorem size_eq (h : cache.Holds builds) : cache.size = (builds.map (·.name)).dedup.length := by
  have hperm : (cache.entries.map Prod.fst).Perm (builds.map (·.name)).dedup := by
    refine (List.perm_ext_iff_of_nodup h.distinct (List.nodup_dedup _)).2 fun name => ?_
    have hnone : name ∉ cache.entries.map Prod.fst ↔ ∀ b ∈ builds, b.name ≠ name :=
      SchemaCache.find?_eq_none_iff.symm.trans h.find?_eq_none_iff
    rw [List.mem_dedup, ← not_iff_not, hnone, List.mem_map]
    simp only [ne_eq, not_exists, not_and]
  have hlength := hperm.length_eq
  rwa [List.length_map] at hlength

end Holds

end Request

/-! ## Whole runs -/

/-- The answers of a run. -/
def answers (requests : List CacheRequest) : List CacheAnswer := (empty.run requests).1

/-- The cache after a run. -/
def after (requests : List CacheRequest) : SchemaCache := (empty.run requests).2

/-- The builds of a run that succeeded, in order. -/
def builds (requests : List CacheRequest) : List Build :=
  (requests.zip (answers requests)).filterMap fun (request, answer) =>
    Build.ofAnswer? request answer

theorem run_cons (cache : SchemaCache) (request : CacheRequest) (rest : List CacheRequest) :
    cache.run (request :: rest) =
      ((cache.answer request).1 :: ((cache.answer request).2.run rest).1,
        ((cache.answer request).2.run rest).2) := rfl

theorem run_append (cache : SchemaCache) (first second : List CacheRequest) :
    cache.run (first ++ second) =
      ((cache.run first).1 ++ ((cache.run first).2.run second).1,
        ((cache.run first).2.run second).2) := by
  induction first generalizing cache with
  | nil => rfl
  | cons request rest ih =>
    rw [List.cons_append, run_cons, run_cons, ih, List.cons_append]

theorem length_answers (requests : List CacheRequest) :
    (answers requests).length = requests.length := by
  have hrun : ∀ cache : SchemaCache, (cache.run requests).1.length = requests.length := by
    induction requests with
    | nil => exact fun _ => rfl
    | cons request rest ih =>
      intro cache
      rw [run_cons, List.length_cons, ih, List.length_cons]
  exact hrun empty

section Run

variable (earlier : List CacheRequest) (request : CacheRequest)

theorem after_concat : after (earlier ++ [request]) = ((after earlier).answer request).2 := by
  unfold after
  rw [run_append]
  rfl

theorem builds_concat : builds (earlier ++ [request]) =
    builds earlier ++ (Build.ofAnswer? request ((after earlier).answer request).1).toList := by
  have hanswers : answers (earlier ++ [request]) =
      answers earlier ++ [((after earlier).answer request).1] := by
    unfold answers after
    rw [run_append]
    rfl
  unfold builds
  rw [hanswers, List.zip_append (length_answers earlier).symm, List.filterMap_append]
  rfl

/-- The answer to a request in a run depends on the requests before it only. -/
theorem answers_getElem? (later : List CacheRequest) :
    (answers (earlier ++ request :: later))[earlier.length]? =
      some ((after earlier).answer request).1 := by
  have hrun : answers (earlier ++ request :: later) = answers earlier ++
      ((after earlier).answer request).1 :: (((after earlier).answer request).2.run later).1 := by
    unfold answers after
    rw [run_append, run_cons]
  rw [hrun, ← length_answers earlier, List.getElem?_append_right (Nat.le_refl _), Nat.sub_self]
  rfl

end Run

/-- After a run a cache holds what was built in it. -/
theorem holds_after (requests : List CacheRequest) : (after requests).Holds (builds requests) := by
  induction requests using List.reverseRecOn with
  | nil => exact .empty
  | append_singleton earlier request ih =>
    rw [after_concat, builds_concat]
    exact ih.answer request

theorem mem_of_mem_builds {requests : List CacheRequest} {b : Build} (h : b ∈ builds requests) :
    .build b.pool b.message ∈ requests := by
  obtain ⟨⟨request, answer⟩, hin, hbuild⟩ := List.mem_filterMap.1 h
  exact Build.eq_of_ofAnswer? hbuild ▸ (List.of_mem_zip hin).1

/-- One request removes and replaces nothing. -/
theorem find?_answer {cache : SchemaCache} {name : String} {entry : StoredSchema}
    (h : cache.find? name = some entry) (request : CacheRequest) :
    (cache.answer request).2.find? name = some entry := by
  cases request with
  | get | contains => exact h
  | build pool m =>
    rcases cache.getOrBuild_cases pool m with ⟨stored, -, heq⟩ | ⟨-, e, -, heq⟩ |
      ⟨-, schema, -, heq⟩
    · simpa only [answer, heq] using h
    · simpa only [answer, heq] using h
    · simp only [answer, heq]
      rw [find?_concat, h, Option.some_or]

theorem find?_after_append {earlier : List CacheRequest} {name : String} {entry : StoredSchema}
    (h : (after earlier).find? name = some entry) (later : List CacheRequest) :
    (after (earlier ++ later)).find? name = some entry := by
  induction later using List.reverseRecOn with
  | nil => rwa [List.append_nil]
  | append_singleton rest request ih =>
    rw [← List.append_assoc, after_concat]
    exact find?_answer ih request

/-- In any run in which the request comes right after the requests `earlier`, this is its answer. -/
def Answers (earlier : List CacheRequest) (request : CacheRequest) (answer : CacheAnswer) : Prop :=
  ∀ later, (answers (earlier ++ request :: later))[earlier.length]? = some answer

section Build

variable {earlier : List CacheRequest} {pool : Pool} {m : pool.set.Message}

/-- A build that succeeds is answered with the document of the first build of its name. -/
theorem exists_first_of_built {entry : StoredSchema}
    (h : ((after earlier).getOrBuild pool m).1 = .ok entry) : ∃ first,
      Build.first? (builds earlier ++ [⟨pool, m, entry⟩]) m.val.fullName = some first ∧
        first.pool.schemaOf first.message = .ok entry.schema ∧ first.entry = entry := by
  have hbuild : Build.ofAnswer? (.build pool m) ((after earlier).answer (.build pool m)).1 =
      some ⟨pool, m, entry⟩ := by
    show Build.ofAnswer? (.build pool m) (.built ((after earlier).getOrBuild pool m).1) = _
    rw [h]
    rfl
  have hholds := (holds_after earlier).answer (.build pool m)
  rw [hbuild] at hholds
  have hstored := hholds.shared ⟨pool, m, entry⟩ (List.mem_append_right _ (.head _))
  obtain ⟨first, hfirst, rfl⟩ := hholds.exists_first hstored
  exact ⟨first, hfirst, hholds.generated _ first hfirst, rfl⟩

/-- In a run over one pool a build is answered with the schema of its own message. -/
theorem getOrBuild_of_one_pool (hpool : ∀ other n, .build other n ∈ earlier → other = pool) :
    ((after earlier).getOrBuild pool m).1.map (·.schema) = pool.schemaOf m := by
  rcases (after earlier).getOrBuild_cases pool m with ⟨entry, hfound, heq⟩ | ⟨-, e, hs, heq⟩ |
    ⟨-, schema, hs, heq⟩
  · -- the first message of that name was one of the same pool, and so the same
    have hholds := holds_after earlier
    obtain ⟨first, hfirst, rfl⟩ := hholds.exists_first hfound
    have hschema := hholds.generated _ first hfirst
    have hname := Build.name_of_first? hfirst
    rw [heq]
    obtain ⟨other, n, entry⟩ := first
    obtain rfl := hpool other n (mem_of_mem_builds (Build.mem_of_first? hfirst))
    obtain rfl : n = m := Subtype.ext (other.eq_of_fullName_eq n.property m.property hname)
    exact hschema.symm
  · rw [heq, hs]
    rfl
  · rw [heq, hs]
    rfl

end Build

theorem contains_after (requests : List CacheRequest) (name : String) :
    (after requests).contains name = decide (∃ b ∈ builds requests, b.name = name) := by
  unfold SchemaCache.contains
  rw [(holds_after requests).found, Option.isSome_map, Bool.eq_iff_iff, Build.first?_isSome_iff,
    decide_eq_true_iff]

/-- **What a cache answers over a whole run.** What is stored stays; there are as many entries as
names were built, and these do not share documents. A build that succeeds is answered with the
schema of the first message of its name that was built, in one document; it fails exactly if nothing
is stored and the message has no schema, and changes nothing then. Looking names up changes nothing
and finds what was built under exactly that name. Over one pool, builds are answered with the schema
of their own message. -/
theorem cache_run (earlier : List CacheRequest) :
    (∀ later name entry, (after earlier).find? name = some entry →
      (after (earlier ++ later)).find? name = some entry) ∧
    (after earlier).size = ((builds earlier).map (·.name)).dedup.length ∧
    (∀ b ∈ builds earlier, ∀ c ∈ builds earlier,
      b.entry.serial = c.entry.serial ↔ b.name = c.name) ∧
    (∀ (pool : Pool) (m : pool.set.Message), ∃ result,
      Answers earlier (.build pool m) (.built result) ∧
      (∀ entry, result = .ok entry → ∃ first,
        Build.first? (builds earlier ++ [⟨pool, m, entry⟩]) m.val.fullName = some first ∧
          first.pool.schemaOf first.message = .ok entry.schema ∧ first.entry = entry) ∧
      (∀ e, result = .error e ↔
        (after earlier).find? m.val.fullName = none ∧ pool.schemaOf m = .error e) ∧
      (∀ e, result = .error e → after (earlier ++ [.build pool m]) = after earlier) ∧
      ((∀ other n, .build other n ∈ earlier → other = pool) →
        result.map (·.schema) = pool.schemaOf m)) ∧
    ∀ name,
      (Answers earlier (.get name) (.got ((Build.first? (builds earlier) name).map (·.entry))) ∧
        after (earlier ++ [.get name]) = after earlier) ∧
      (Answers earlier (.contains name)
          (.contained (decide (∃ b ∈ builds earlier, b.name = name))) ∧
        after (earlier ++ [.contains name]) = after earlier) := by
  have h := holds_after earlier
  refine ⟨fun later name entry hfound => find?_after_append hfound later, h.size_eq,
    fun b hb c hc => h.serial_eq_iff hb hc, fun pool m => ?_, fun name => ⟨⟨?_, ?_⟩, ?_, ?_⟩⟩
  · refine ⟨((after earlier).getOrBuild pool m).1, fun later => ?_, fun entry hbuilt => ?_,
      fun e => getOrBuild_eq_error_iff, fun e he => ?_, getOrBuild_of_one_pool⟩
    · rw [answers_getElem?, answer]
    · exact exists_first_of_built hbuilt
    · rw [after_concat]
      exact getOrBuild_of_error he
  · intro later
    rw [answers_getElem?, answer, h.found]
  · rw [after_concat, answer]
  · intro later
    rw [answers_getElem?, answer, contains_after]
  · rw [after_concat, answer]

/-- A pool with items, and with boxes that have no schema. -/
def items : Pool where
  set :=
    { messages := [{ declaredName := "store.Item", fields := [.plain "name" .string] },
        { declaredName := "store.Box", fields := [.plain "legacy" .group] }] }
  sound := by decide

/-- A pool with other items of the same name. -/
def otherItems : Pool where
  set := { messages := [{ declaredName := ".store.Item", fields := [.plain "count" .int32] }] }
  sound := by decide

def item : items.set.Message := ⟨_, .head _⟩

def box : items.set.Message := ⟨_, .tail _ (.head _)⟩

def otherItem : otherItems.set.Message := ⟨_, .head _⟩

/-- A build that fails, and one that succeeds. -/
def boxThenItem : List CacheRequest := [.build items box, .build otherItems otherItem]

theorem boxThenItem_run : ∃ schema, otherItems.schemaOf otherItem = .ok schema ∧
    Answers boxThenItem (.build items item) (.built (.ok ⟨0, schema⟩)) ∧
    Answers boxThenItem (.get ".store.Item") (.got none) ∧
    Answers boxThenItem (.contains "store.Item") (.contained true) ∧
    (after boxThenItem).size = 1 := by
  obtain ⟨schema, hitem⟩ := otherItems.exists_schemaOf otherItem (by decide +kernel)
  obtain ⟨e, hbox⟩ : ∃ e, items.schemaOf box = .error e := by
    have hfails : ((items.set.walkMessage box).run []).1.isOk = false := by decide +kernel
    rw [← items.schemaOf_eq_walk] at hfails
    cases hs : items.schemaOf box with
    | error e => exact ⟨e, rfl⟩
    | ok _ => rw [hs] at hfails; cases hfails
  have hname : otherItem.val.fullName = "store.Item" := by decide
  have hrun : empty.run boxThenItem = ([.built (.error e), .built (.ok ⟨0, schema⟩)],
      ⟨[("store.Item", ⟨0, schema⟩)], 1⟩) := by
    simp only [boxThenItem, run, answer, getOrBuild, find?, empty, List.lookup_nil, hbox, hitem,
      hname, store, putEntry]
  have hafter : after boxThenItem = ⟨[("store.Item", ⟨0, schema⟩)], 1⟩ := by
    rw [after, hrun]
  have hbuilds : builds boxThenItem = [⟨otherItems, otherItem, ⟨0, schema⟩⟩] := by
    rw [builds, answers, hrun]
    rfl
  obtain ⟨-, hsize, -, hbuild, hlook⟩ := cache_run boxThenItem
  obtain ⟨result, hanswer, hok, herror, -⟩ := hbuild items item
  rw [hbuilds] at hok hlook hsize
  rw [hafter] at herror
  obtain ⟨⟨hget, -⟩, -⟩ := hlook ".store.Item"
  obtain ⟨-, hcontains, -⟩ := hlook "store.Item"
  have hmissing : Build.first? [⟨otherItems, otherItem, ⟨0, schema⟩⟩] ".store.Item" = none := by
    refine Build.first?_eq_none_iff.2 fun b hb => ?_
    obtain rfl := List.mem_singleton.1 hb
    show otherItem.val.fullName ≠ ".store.Item"
    decide
  rw [hmissing] at hget
  rw [decide_eq_true ⟨_, List.mem_singleton_self _, hname⟩] at hcontains
  refine ⟨schema, hitem, ?_, hget, hcontains, hsize⟩
  cases result with
  | error cause =>
    obtain ⟨hnone, -⟩ := (herror cause).1 rfl
    cases hnone
  | ok entry =>
    obtain ⟨first, hfirst, -, rfl⟩ := hok entry rfl
    have hsame : (otherItem.val.fullName == item.val.fullName) = true := by decide
    unfold Build.first? at hfirst
    rw [List.singleton_append, List.find?_cons_of_pos (by exact hsame)] at hfirst
    cases hfirst
    exact hanswer

end SchemaCache

end MessageSchema
