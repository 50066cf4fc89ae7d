import MessageSchema.Descriptor.Construction
import MessageSchema.Proofs.AllOrNothing
import MessageSchema.Proofs.DescriptorTexts
import MessageSchema.Proofs.ReadingBack
import MessageSchema.Proofs.Shells

/-!
# Printed documents

A member is put into a schema in the place of the one that has its key, so no object in a schema has
a key twice: this is kept by whatever is put around schemas of values (`DistinctKeys.assemble`) and
holds of every expansion (`distinctKeys_expandMessage`). Hence what `generate` prints is read as the
document that was generated (`Command.generate_reads_back`).
-/

namespace MessageSchema

open Json

namespace Json

/-- A value that mentions no key has no key twice. -/
theorem distinctKeys_of_flat {v : Json} (h : ∀ key, v.mentions key = false) : v.DistinctKeys := by
  induction v using Json.induction with
  | null | bool | num | str => simp
  | arr items ih =>
    refine .arr fun item hin => ih item hin fun key => Bool.eq_false_iff.2 fun hitem => ?_
    have hmentions := mentions_of_child (mem_children_arr.2 ⟨rfl, hin⟩) hitem
    rw [h key] at hmentions
    cases hmentions
  | obj members =>
    cases members with
    | nil => simp
    | cons member rest =>
      have hkey := Stands.key_not_mem .root (h member.1)
      exact absurd List.mem_cons_self hkey

namespace DistinctKeys

variable {schema value : Json} {key : String} {added : Members}

/-! ## What is put into a schema -/

theorem put (h : schema.DistinctKeys) (hv : value.DistinctKeys) :
    (schema.put key value).DistinctKeys := by
  cases h with
  | @obj members keys h =>
    refine .obj (Members.nodup_keys_put keys) fun member hin => ?_
    rcases Members.mem_put hin with hin | rfl
    · exact h member hin
    · exact hv
  | arr h => exact .arr h
  | null | bool | num | str => simp [Json.put]

theorem putAll (h : schema.DistinctKeys) (ha : ∀ member ∈ added, member.2.DistinctKeys) :
    (schema.putAll added).DistinctKeys := by
  cases h with
  | @obj members keys h =>
    refine .obj (Members.nodup_keys_putAll keys) fun member hin => ?_
    rcases Members.mem_putAll hin with hin | hin
    · exact h member hin
    · exact ha member hin
  | arr h => exact .arr h
  | null | bool | num | str => simp [Json.putAll]

theorem putAll_of_flat (h : schema.DistinctKeys) (ha : added.Flat) :
    (schema.putAll added).DistinctKeys :=
  h.putAll fun member hin => distinctKeys_of_flat (ha member hin)

theorem withDescription {description : Option String} (h : schema.DistinctKeys) :
    (schema.withDescription description).DistinctKeys := by
  unfold Json.withDescription
  split
  · split
    · exact h
    · exact h.put (.str _)
  · exact h

theorem withRules {rules : FieldRules} {kind : Kind} {enum : Option EnumType}
    (h : schema.DistinctKeys) : (schema.withRules rules kind enum).DistinctKeys :=
  h.putAll_of_flat (rules.flat_keywords kind enum)

theorem get? (h : schema.DistinctKeys) (hvalue : schema.get? key = some value) :
    value.DistinctKeys := by
  cases h with
  | obj _ h => exact h _ (Members.mem_of_get? hvalue)
  | null | bool | num | str | arr => cases hvalue

theorem change {f : Json → Json} (h : schema.DistinctKeys)
    (hf : ∀ old : Json, old.DistinctKeys → (f old).DistinctKeys) :
    (schema.change key f).DistinctKeys := by
  unfold Json.change
  split
  · next old hold => exact h.put (hf old (h.get? hold))
  · exact h

theorem strings (names : List String) : (Json.strings names).DistinctKeys :=
  distinctKeys_of_flat fun _ => mentions_strings names

theorem concat {items : List Json} (h : (Json.arr items).DistinctKeys) (hv : value.DistinctKeys) :
    (Json.arr (items ++ [value])).DistinctKeys := by
  refine .arr fun item hin => ?_
  rcases List.mem_append.1 hin with hin | hin
  · exact distinctKeys_arr_iff.1 h item hin
  · rwa [List.mem_singleton.1 hin]

theorem orNull (h : schema.DistinctKeys) : schema.orNull.DistinctKeys := by
  refine (h.change fun old hold => ?_).change fun old hold => ?_
  · unfold typeOrNull
    split
    · exact strings _
    · split
      · exact hold
      · exact hold.concat (.str _)
    · exact hold
  · unfold branchesOrNull
    split
    · split
      · exact hold
      · exact hold.concat (by simp)
    · exact hold

/-! ## Fields and messages -/

section Fields

variable {set : DescriptorSet} {f : Field}

theorem singleSchema (h : schema.DistinctKeys) : (f.singleSchema set schema).DistinctKeys := by
  have hruled : ∀ described : Json, described.DistinctKeys → (f.rules.elim described fun rules =>
      described.withRules rules f.kind (set.enumOf? f)).DistinctKeys := by
    intro described hdescribed
    cases f.rules with
    | none => exact hdescribed
    | some rules => exact hdescribed.withRules
  unfold Field.singleSchema
  simp only
  split
  · exact (hruled _ h.withDescription).orNull
  · exact hruled _ h.withDescription

/-- An object with a type and one more value. -/
theorem typed {type : Json} (htype : type.DistinctKeys) (hkey : key ≠ "type")
    (h : value.DistinctKeys) : (Json.obj [("type", type), (key, value)]).DistinctKeys := by
  have hnew : "type" ∉ [key] := fun hin => hkey (List.mem_singleton.1 hin).symm
  refine .obj (List.nodup_cons.2 ⟨hnew, List.nodup_singleton _⟩) ?_
  exact List.forall_mem_cons.2 ⟨htype, List.forall_mem_singleton.2 h⟩

theorem listSchema (h : schema.DistinctKeys) : (f.listSchema set schema).DistinctKeys := by
  unfold Field.listSchema
  refine (DistinctKeys.withDescription (typed (strings _) (by decide) ?_)).putAll_of_flat
    (.elim fun own => own.flat_keywords)
  split
  · exact h.withRules
  · exact h

theorem mapSchema {inner : Field} (h : schema.DistinctKeys) :
    (f.mapSchema set inner schema).DistinctKeys := by
  unfold Field.mapSchema
  refine (DistinctKeys.withDescription (typed (.str _) (by decide) ?_)).putAll_of_flat
    (.elim fun own => own.flat_keywords)
  split
  · exact h.withRules
  · exact h

theorem assemble (hf : set.WellFormed f) (h : schema.DistinctKeys) :
    (f.assemble set schema).DistinctKeys := by
  induction hf with
  | map _ layer values _ ih =>
    rw [Field.assemble_of_map layer values]
    exact ih.mapSchema
  | leaf _ single _ =>
    rw [Field.assemble_of_not_map single, Field.dress]
    split
    · exact h.listSchema
    · split
      · exact h
      · exact h.singleSchema

end Fields

theorem shell {m : MessageType} {schemas : List Json}
    (h : List.Forall₂ (fun _ schema => schema.DistinctKeys) m.fields schemas) :
    (m.shell schemas).DistinctKeys := by
  have hproperties : (Json.obj (Members.putAll [] ((m.fields.map (·.jsonName)).zip
      schemas))).DistinctKeys := by
    have hnames : List.Forall₂ (fun _ schema => schema.DistinctKeys) (m.fields.map (·.jsonName))
        schemas := List.forall₂_map_left_iff.2 h
    have hempty : (Json.obj []).DistinctKeys := by simp
    exact hempty.putAll fun _ hin => List.forall₂_zip hnames hin
  have hlisted : ∀ values, ((listed "required" values).map Prod.fst).Sublist ["required"] := by
    intro values
    cases values <;> simp [listed]
  refine .obj ?_ fun member hin => ?_
  · have hkeys : ["$schema", "title", "type", "properties", "additionalProperties",
        "required"].Nodup := by decide
    rw [List.map_append]
    exact ((List.Sublist.refl _).append (hlisted _)).nodup hkeys
  · rcases List.mem_append.1 hin with hin | hin
    · simp only [List.mem_cons, List.not_mem_nil, or_false] at hin
      rcases hin with rfl | rfl | rfl | rfl | rfl
      · exact .str _
      · exact .str _
      · exact .str _
      · exact hproperties
      · exact .bool _
    · obtain ⟨-, rfl⟩ := mem_listed hin
      exact strings _

end DistinctKeys

end Json

theorem WellKnown.distinctKeys_schema (type : WellKnown) : type.schema.DistinctKeys := by
  cases type <;> simp [schema, nullable, anything, Fragment.typed, Fragment.floatBranches,
    Fragment.sentinels, DistinctKeys.strings]

theorem distinctKeys_fragment {kind : Kind} {enum : Option EnumType} {schema : Json}
    (h : kind.fragment enum = .ok schema) : schema.DistinctKeys := by
  cases kind with
  | message | group => cases h
  | enum =>
    cases h
    unfold Fragment.enumeration
    split <;> simp [Fragment.typed, DistinctKeys.strings]
  | _ =>
    cases h
    simp [Fragment.typed, Fragment.floatBranches, Fragment.sentinels, DistinctKeys.strings]

theorem exists_mem_of_forall₂ {α β : Type} {R : α → β → Prop} {xs : List α} {ys : List β} {y : β}
    (h : List.Forall₂ R xs ys) (hin : y ∈ ys) : ∃ x ∈ xs, R x y := by
  induction h with
  | nil => cases hin
  | cons hfirst _ ih =>
    rcases List.mem_cons.1 hin with rfl | hin
    · exact ⟨_, List.mem_cons_self, hfirst⟩
    · obtain ⟨x, hx, hxy⟩ := ih hin
      exact ⟨x, List.mem_cons_of_mem _ hx, hxy⟩

namespace Pool

open DescriptorSet

variable {pool : Pool}

/-- No expansion of a message has a key twice. -/
theorem distinctKeys_expandMessage (inside : List String) (m : pool.set.Message) :
    ∀ {schema}, pool.set.expandMessage inside m = .ok schema → schema.DistinctKeys := by
  induction inside, m using expansion_induction with
  | step inside m ih =>
    intro schema hschema
    by_cases hm : m.val.fullName ∈ inside
    · rw [expandMessage_of_mem hm] at hschema
      cases hschema
      simp [bareObject]
    obtain ⟨schemas, hschemas, rfl⟩ := (expandMessage_eq_ok_iff hm).1 hschema
    have hfields := (List.forall₂_and_left _ _).2 ⟨fun f (hf : f ∈ m.val.fields) => hf, hschemas⟩
    refine .shell (hfields.imp fun f schema ⟨hf, hfield⟩ => ?_)
    have hwf := pool.wellFormed m.property hf
    obtain ⟨value, rfl, ⟨type, -, rfl⟩ | ⟨n, refers, hn⟩ | hfragment⟩ :=
      exists_value_of_expandField hwf hfield
    · exact .assemble hwf type.distinctKeys_schema
    · exact .assemble hwf (ih hm ⟨n, refers.mem⟩ hn)
    · exact .assemble hwf (distinctKeys_fragment hfragment)

theorem distinctKeys_generate [PatternSyntax] {checked : Bool} {message : Option String}
    {document : Json}
    (h : pool.generate checked message = .ok document) : document.DistinctKeys := by
  cases message with
  | some name =>
    obtain ⟨m, -, hschema, -⟩ := generateOne_eq_ok_iff.1 h
    exact distinctKeys_expandMessage [] m hschema
  | none =>
    obtain ⟨members, rfl, hkeys, hmembers⟩ := exists_members_of_generate h
    refine .obj ?_ fun member hin => ?_
    · rw [hkeys]
      exact List.Nodup.of_append_left pool.names_nodup
    · obtain ⟨m, -, -, n, -, hschema⟩ := exists_mem_of_forall₂ hmembers hin
      exact distinctKeys_expandMessage [] n hschema

end Pool

namespace Command

section Printing

variable [DecimalRounding] [PatternSyntax] {m : Machine} {source : String} {pool : Pool}
  {message output : Option String} {pretty checked : Bool}

/-- A run that succeeds has a document. -/
theorem exists_document_of_done (loaded : Loads m source pool)
    (done : ((generate source message output pretty checked).run m).1.exitCode = 0) :
    ∃ document, pool.generate checked message = .ok document ∧ ∀ path, output = some path →
      ((generate source message output pretty checked).run m).2.readText path =
        .ok (text pretty document) := by
  have hpool : ∀ {other}, Loads m source other → other = pool := fun hother =>
    Except.ok.inj (hother.symm.trans loaded)
  have hrun := @generates_run _ _ m source message output pretty checked
  generalize (generate source message output pretty checked).run m = answer at done hrun ⊢
  cases hrun with
  | unread | unfit | unwritable => cases done
  | @refused _ cause => cases cause <;> cases done
  | @printed _ document hother generated here =>
    obtain rfl := hpool hother
    refine ⟨document, generated, fun path there => ?_⟩
    cases here.symm.trans there
  | @written _ document path _ hother generated there hwrite =>
    obtain rfl := hpool hother
    refine ⟨document, generated, fun other hsame => ?_⟩
    cases there.symm.trans hsame
    exact Machine.readText_of_write hwrite

/-- **What `generate` prints is read as the document that was generated.** If a run succeeds, no
object in its document has a key twice. If further no more than 127 containers stand around each
other in it, and its floating-point numbers read back unchanged, then the lines that are printed
with and without `--pretty` both spell the document, with its members in their order, and so does
the file that is written. -/
theorem generate_reads_back (loaded : Loads m source pool)
    (done : ((generate source message output pretty checked).run m).1.exitCode = 0) :
    ∃ document, pool.generate checked message = .ok document ∧ document.DistinctKeys ∧
      (document.depth ≤ 127 → document.FloatsReadBack →
        (∀ pretty, document.SpelledBy
          ((generate source message none pretty checked).run m).1.output) ∧
        ∀ path, output = some path → ∃ content,
          ((generate source message output pretty checked).run m).2.readText path = .ok content ∧
          document.SpelledBy content) := by
  obtain ⟨document, generated, hwritten⟩ := exists_document_of_done loaded done
  have hkeys := Pool.distinctKeys_generate generated
  refine ⟨document, generated, hkeys, fun hdepth hfloats => ?_⟩
  have hspelled := spelledBy_text hkeys hdepth hfloats
  refine ⟨fun pretty => ?_, fun path hpath => ⟨_, hwritten path hpath, (hspelled pretty).1⟩⟩
  rw [(Generates.printed loaded generated rfl).eq_run]
  exact (hspelled pretty).2

end Printing

/-- A set with names, texts and bounds that take some care to print. -/
def oddSet : DescriptorSet where
  messages := [{
    declaredName := "a.Größe"
    fields := [
      .withRules (.withDescription (.withJsonName (.plain "text" .string) "\"x\"\n\\") "\x01é")
        { string := some { const := some "\t" } },
      .withRules (.plain "least" .int64)
        { int64 := some { atLeast := Ranged.ofInt? (-9223372036854775808) } },
      .withRules (.plain "most" .uint64)
        { uint64 := some { atMost := Ranged.ofInt? 18446744073709551615 } },
      .withRules (.plain "share" .double) { double := some { greater := some half } }] }]

def oddPool : Pool where
  set := oddSet
  sound := by decide +kernel

/-- The text of that set. -/
def oddText : String := oddSet.encode.compact

theorem odd_loaded : Loads (filesWith oddText) "set.json" oddPool := by
  have hfloats : oddSet.encode.FloatsReadBack := by
    unfold FloatsReadBack
    decide +kernel
  exact load_of_decoded
    (DescriptorSet.read?_compact (by decide +kernel) hfloats (by with_unfolding_all rfl))

/-- The schema meets the conditions for reading back, and has a fraction among its numbers. -/
def isOdd (schema : Json) : Bool :=
  schema.fault?.isNone && decide (schema.numbers.map (·.isFloat) = [false, false, true] ∧
    schema.depth ≤ 127 ∧ ∀ n ∈ schema.numbers, n.isFloat = true → n.readBack? = some n)

/-- The texts, the whole numbers and the fraction of that set come back from both lines that are
printed for it. -/
theorem odd_reads_back : ∃ pool document, Loads (filesWith oddText) "set.json" pool ∧
    pool.generate true (some "a.Größe") = .ok document ∧
    document.numbers.map (·.isFloat) = [false, false, true] ∧
    ∀ pretty, document.SpelledBy ((generate "set.json" (some "a.Größe") none pretty true).run
      (filesWith oddText)).1.output := by
  obtain ⟨schema, hschema, hodd⟩ : ∃ schema, oddPool.schema "a.Größe" = .ok schema ∧
      isOdd schema = true :=
    Pool.exists_schema_with (by decide +kernel)
  rw [isOdd, Bool.and_eq_true, decide_eq_true_eq] at hodd
  obtain ⟨hvalid, hnumbers, hdepth, hfloats⟩ := hodd
  have hgenerate : oddPool.generate true (some "a.Größe") = .ok schema :=
    Pool.generateOne_of_valid hschema (Option.isNone_iff_eq_none.1 hvalid)
  have hdone : ((generate "set.json" (some "a.Größe") none false true).run
      (filesWith oddText)).1.exitCode = 0 :=
    (generate_exitCode_eq_zero_iff odd_loaded).2 ⟨schema, hgenerate⟩
  obtain ⟨document, hdocument, -, hprinted⟩ := generate_reads_back odd_loaded hdone
  obtain rfl : schema = document := Except.ok.inj (hgenerate.symm.trans hdocument)
  exact ⟨oddPool, schema, odd_loaded, hgenerate, hnumbers, (hprinted hdepth hfloats).1⟩

end Command

end MessageSchema
