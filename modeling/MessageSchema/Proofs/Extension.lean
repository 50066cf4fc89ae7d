import MessageSchema.Descriptor.Construction
import MessageSchema.Proofs.Comparison
import MessageSchema.Proofs.Resolution
import MessageSchema.Proofs.Walk

/-!
# Pools with more declarations

A pool may be part of a larger one, which declares the same types in any order and others beside
them. What a pool finds under a name the larger one finds too, and so a message has the same schema
in both (`schema_in_larger`), as far as names are concerned that the check of a pool resolves.

The check leaves out one kind of name: where the values of a map are maps in turn, only the
innermost values must name a type that is there. Generation yet reads the name that is written for
the values of the outer map, as soon as there are rules for these. Where that name is of no enum
type, a larger pool may declare one (`Captures`), and the rules then say something that they did not
say before (`chart_captured`).
-/

namespace MessageSchema

namespace DescriptorSet

variable {set larger : DescriptorSet}

/-- Around maps there is a map with rules for enum values, and only the larger set declares the enum
type that is named for them. -/
def Captures (set larger : DescriptorSet) (f : Field) : Prop :=
  ∃ layer ∈ f.layers, layer.2.isMap = true ∧ layer.2.kind = .enum ∧
    (layer.1.mapRules.bind (·.values)).bind (·.enum) ≠ none ∧
    set.enumOf? layer.2 = none ∧ larger.enumOf? layer.2 ≠ none

instance (set larger : DescriptorSet) (f : Field) : Decidable (set.Captures larger f) :=
  inferInstanceAs (Decidable (∃ layer ∈ f.layers, layer.2.isMap = true ∧ layer.2.kind = .enum ∧
    (layer.1.mapRules.bind (·.values)).bind (·.enum) ≠ none ∧
    set.enumOf? layer.2 = none ∧ larger.enumOf? layer.2 ≠ none))

theorem Captures.of_map {f value : Field} (hc : f.cardinality = .map)
    (hv : f.mapValue = some value) (h : set.Captures larger value) : set.Captures larger f := by
  obtain ⟨layer, hlayer, hcapture⟩ := h
  refine ⟨layer, ?_, hcapture⟩
  rw [Field.layers_of_map hc hv]
  exact List.mem_cons_of_mem _ hlayer

end DescriptorSet

namespace Pool

open DescriptorSet

variable {pool larger : Pool}

/-- All types of a pool are types of the other. -/
structure Within (pool larger : Pool) : Prop where
  messages : pool.set.messages ⊆ larger.set.messages
  enums : pool.set.enums ⊆ larger.set.enums

namespace Within

/-- A name that is found is found in the larger pool, as the same message. -/
theorem message?_eq (h : pool.Within larger) {name : String} {m : MessageType}
    (hm : pool.set.message? name = some m) : larger.set.message? name = some m := by
  obtain ⟨hmem, hname⟩ := pool.message?_eq_some_iff.1 hm
  exact larger.message?_eq_some_iff.2 ⟨h.messages hmem, hname⟩

theorem enum?_eq (h : pool.Within larger) {name : String} {e : EnumType}
    (he : pool.set.enum? name = some e) : larger.set.enum? name = some e := by
  obtain ⟨hmem, hname⟩ := pool.enum?_eq_some_iff.1 he
  exact larger.enum?_eq_some_iff.2 ⟨h.enums hmem, hname⟩

theorem messageOf?_eq (h : pool.Within larger) {f : Field} {m : MessageType}
    (hm : pool.set.messageOf? f = some m) : larger.set.messageOf? f = some m := by
  obtain ⟨name, hname, hfound⟩ := Option.bind_eq_some_iff.1 hm
  exact Option.bind_eq_some_iff.2 ⟨name, hname, h.message?_eq hfound⟩

theorem enumOf?_eq (h : pool.Within larger) {f : Field} {e : EnumType}
    (he : pool.set.enumOf? f = some e) : larger.set.enumOf? f = some e := by
  obtain ⟨name, hname, hfound⟩ := Option.bind_eq_some_iff.1 he
  exact Option.bind_eq_some_iff.2 ⟨name, hname, h.enum?_eq hfound⟩

/-- The values of the enum type that a field names are the same, unless only the larger pool finds
the type. -/
theorem enumValues_eq (h : pool.Within larger) {f : Field}
    (hmissing : pool.set.enumOf? f = none → larger.set.enumOf? f = none) :
    (larger.set.enumOf? f).map (·.values) = (pool.set.enumOf? f).map (·.values) := by
  cases found : pool.set.enumOf? f with
  | some e => rw [h.enumOf?_eq found]
  | none => rw [hmissing found]

/-- Where no name begins with two dots and none is captured, a field corresponds to itself: its leaf
is found because it is resolved, and the layers of maps above find the same or nothing. -/
theorem corresponds (h : pool.Within larger) {related : MessageType → MessageType → Prop}
    (hrelated : ∀ m ∈ pool.set.messages, related m m) {f : Field} (hf : pool.set.WellFormed f)
    (hdots : ∀ name ∈ f.typeNames, ¬ HasTwoDots name) (hfree : ¬ pool.set.Captures larger.set f) :
    pool.set.Corresponds larger.set related f f := by
  induction hf with
  | @leaf f named single resolved =>
    have hwf : pool.set.WellFormed f := .leaf named single resolved
    have hplain := f.not_doubleDotted hdots
    refine .leaf_self single ⟨rfl, fun hk => h.enumValues_eq fun hnone => ?_⟩ fun hk special => ?_
    · exact absurd hnone (enumOf?_ne_none hwf single hk hplain)
    · obtain ⟨m, found⟩ := exists_messageOf? hwf single hk hplain special
      exact ⟨m, m, hrelated m (mem_of_messageOf? found), found, h.messageOf?_eq found⟩
  | @map f value _ layer values below ih =>
    have hdots' : ∀ name ∈ value.typeNames, ¬ HasTwoDots name := fun name hname =>
      hdots name (Field.mem_typeNames_of_map layer values hname)
    have hfree' : ¬ pool.set.Captures larger.set value := fun hcapture =>
      hfree (hcapture.of_map layer values)
    refine .map_self layer values ?_ (ih hdots' hfree')
    refine mapSchema_of_values fun hk hrules => h.enumValues_eq fun hnone => ?_
    by_cases hc : value.cardinality = .map
    · -- what is found here is captured
      by_contra hfound
      refine hfree ⟨(f, value), ?_, decide_eq_true hc, hk, hrules, hnone, hfound⟩
      rw [Field.layers_of_map layer values]
      exact List.mem_cons_self
    · exact absurd hnone (enumOf?_ne_none below hc hk (value.not_doubleDotted hdots'))

/-- Names that are not captured leave every message with the fields it had. -/
theorem simulates (h : pool.Within larger)
    (hdots : ∀ m ∈ pool.set.messages, ∀ f ∈ m.fields, ∀ name ∈ f.typeNames, ¬ HasTwoDots name)
    (hfree : ∀ m ∈ pool.set.messages, ∀ f ∈ m.fields, ¬ pool.set.Captures larger.set f) :
    pool.set.Simulates larger.set fun m n => m = n ∧ m ∈ pool.set.messages := by
  constructor
  · rintro m n ⟨rfl, -⟩
    rfl
  · rintro m n ⟨rfl, hm⟩
    refine List.forall₂_same.2 fun f hf => ?_
    exact h.corresponds (fun m hm => ⟨rfl, hm⟩) (pool.wellFormed hm hf) (hdots m hm f hf)
      (hfree m hm f hf)

end Within

/-- **A message has the same schema in a larger pool, or the same error**, where no name of a type
begins with two dots and none is captured. The order of declarations does not matter, nor do further
ones. -/
theorem schema_in_larger (pool larger : Pool) (h : pool.Within larger)
    (hdots : ∀ m ∈ pool.set.messages, ∀ f ∈ m.fields, ∀ name ∈ f.typeNames, ¬ HasTwoDots name)
    (hfree : ∀ m ∈ pool.set.messages, ∀ f ∈ m.fields, ¬ pool.set.Captures larger.set f) :
    ∀ (m : pool.set.Message) (name : String), plainName name = m.val.fullName →
      pool.schema name = pool.schemaOf m ∧ larger.schema name = pool.schema name := by
  intro m name hname
  let n : larger.set.Message := ⟨m.val, h.messages m.property⟩
  have hpool : pool.schema name = pool.schemaOf m := pool.schema_of_fullName hname
  have hlarger : larger.schema name = larger.schemaOf n := larger.schema_of_fullName hname
  refine ⟨hpool, ?_⟩
  rw [hlarger, hpool]
  exact ((h.simulates hdots hfree).expandMessage_eq [] m n ⟨rfl, m.property⟩).symm

/-- A crate, which may hold crates. -/
def crate : MessageType :=
  { declaredName := "store.Crate",
    fields := [.ofEnum "colour" "store.Colour", .asList (.ofMessage "crates" ".store.Crate")] }

/-- A depot with its crates by name. -/
def depot : MessageType :=
  { declaredName := ".store.Depot", fields := [.mapOf "crates" (.ofMessage "crate" "store.Crate")] }

/-- The colours of crates. -/
def colour : EnumType :=
  { declaredName := "store.Colour",
    values := [{ name := "RED", number := ⟨1, by decide, by decide⟩ }] }

/-- A pool with depots. -/
def depots : Pool where
  set := { messages := [depot, crate], enums := [colour] }
  sound := by decide

/-- The types of the depots in another order, among types with the same last segments. -/
def allDepots : Pool where
  set :=
    { messages := [{ declaredName := "other.Crate", fields := [.ofMessage "depot" "store.Depot"] },
        crate, depot],
      enums := [{ declaredName := "other.Colour" }, colour] }
  sound := by decide

/-- Where the schema of a depot has the schema of its crates. -/
def cratesAt : List String := ["properties", "crates", "additionalProperties"]

theorem depots_in_allDepots :
    depots.Within allDepots ∧
    (∀ m ∈ depots.set.messages, ∀ f ∈ m.fields, ∀ name ∈ f.typeNames, ¬ HasTwoDots name) ∧
    (∀ m ∈ depots.set.messages, ∀ f ∈ m.fields, ¬ depots.set.Captures allDepots.set f) ∧
    allDepots.schema "store.Depot" = depots.schema "store.Depot" ∧
    ∃ schema, depots.schema "store.Depot" = .ok schema ∧
      (schema.at? (cratesAt ++ ["properties", "colour", "enum"])).isSome = true := by
  have hwithin : depots.Within allDepots :=
    ⟨List.subset_cons_of_subset _ (List.Perm.swap crate depot []).subset,
      List.subset_cons_self _ _⟩
  have hdots : ∀ m ∈ depots.set.messages, ∀ f ∈ m.fields, ∀ name ∈ f.typeNames,
      ¬ HasTwoDots name := by decide
  have hfree : ∀ m ∈ depots.set.messages, ∀ f ∈ m.fields,
      ¬ depots.set.Captures allDepots.set f := by decide
  obtain ⟨hschema, hlarger⟩ := schema_in_larger depots allDepots hwithin hdots hfree
    ⟨depot, List.mem_cons_self⟩ "store.Depot" (by decide)
  obtain ⟨schema, hfound, hcolour⟩ : ∃ schema, depots.schemaOf ⟨depot, List.mem_cons_self⟩ =
      .ok schema ∧ (schema.at? (cratesAt ++ ["properties", "colour", "enum"])).isSome = true :=
    exists_schemaOf_with (by decide +kernel)
  exact ⟨hwithin, hdots, hfree, hlarger, schema, hschema.trans hfound, hcolour⟩

/-- The cells of a row by name; the row is described with an enum type. -/
def row : Field :=
  { Field.mapOf "row" (.plain "cell" .string) with
    kind := .enum, typeName? := some "paint.Shade" }

/-- Rules that ask for one shade. -/
def oneShade : FieldRules := { enum := some { const := some ⟨1, by decide, by decide⟩ } }

/-- A chart of rows. -/
def chart : MessageType :=
  { declaredName := "paint.Chart",
    fields := [(Field.mapOf "rows" row).withRules { map := some { values := some oneShade } }] }

/-- The shades of rows. -/
def shade : EnumType :=
  { declaredName := "paint.Shade",
    values := [{ name := "DARK", number := ⟨1, by decide, by decide⟩ }] }

/-- A pool with charts, in which no enum type is declared. -/
def charts : Pool where
  set := { messages := [chart] }
  sound := by decide

/-- The pool of the charts with the enum type of their rows. -/
def shadedCharts : Pool where
  set := { messages := [chart], enums := [shade] }
  sound := by decide

/-- An enum type that is declared in addition gives the rows of a chart a value to be equal to. -/
theorem chart_captured :
    charts.Within shadedCharts ∧
    (∀ name ∈ charts.set.messages.map (·.declaredName), ¬ HasTwoDots name) ∧
    (∀ m ∈ charts.set.messages, ∀ f ∈ m.fields, ∀ name ∈ f.typeNames, ¬ HasTwoDots name) ∧
    (∃ schema, charts.schema "paint.Chart" = .ok schema ∧
      schema.at? ["properties", "rows", "additionalProperties", "const"] = none) ∧
    ∃ schema, shadedCharts.schema "paint.Chart" = .ok schema ∧
      schema.at? ["properties", "rows", "additionalProperties", "const"] = some (.str "DARK") := by
  have hcharts : ∃ schema, charts.schemaOf ⟨chart, List.mem_cons_self⟩ = .ok schema ∧
      decide (schema.at? ["properties", "rows", "additionalProperties", "const"] = none) = true :=
    exists_schemaOf_with (by decide +kernel)
  have hshaded : ∃ schema, shadedCharts.schemaOf ⟨chart, List.mem_cons_self⟩ = .ok schema ∧
      decide (schema.at? ["properties", "rows", "additionalProperties", "const"] =
        some (.str "DARK")) = true :=
    exists_schemaOf_with (by decide +kernel)
  have hname : plainName "paint.Chart" = chart.fullName := by decide
  refine ⟨⟨List.Subset.refl _, List.nil_subset _⟩, by decide, by decide, ?_, ?_⟩
  · obtain ⟨schema, hschema, hconst⟩ := hcharts
    exact ⟨schema, (charts.schema_of_fullName hname).trans hschema, of_decide_eq_true hconst⟩
  · obtain ⟨schema, hschema, hconst⟩ := hshaded
    exact ⟨schema, (shadedCharts.schema_of_fullName hname).trans hschema, of_decide_eq_true hconst⟩

end Pool

end MessageSchema
