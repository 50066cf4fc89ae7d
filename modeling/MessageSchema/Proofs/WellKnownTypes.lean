import MessageSchema.Proofs.Comparison
import MessageSchema.Proofs.Shells

/-!
# Well-known types in documents

A field of a well-known type has the schema of that type, also where the set declares a message of
that name with fields of its own. No field refers to such a message (`RefersTo.not_wellKnown`), so
that in a document it can be written out in one place alone: as the whole of its own document.
What is declared under these names makes no difference to the expansion of any other message
(`expandMessage_congr_own`). Main statement: `Pool.wellKnown_kept_iff`.
-/

namespace MessageSchema

open Json

/-- The names of well-known types. -/
def WellKnown.names : List String := all.map (·.fullName)

theorem WellKnown.ofName?_eq_none_iff {name : String} :
    ofName? name = none ↔ plainName name ∉ names := by
  rw [ofName?, List.find?_eq_none, names, List.mem_map]
  constructor
  · rintro h ⟨type, hin, hname⟩
    exact h type hin (beq_iff_eq.2 hname)
  · exact fun h type hin hname => h ⟨type, hin, eq_of_beq hname⟩

/-! ## Fields of well-known types -/

namespace Field

variable {set : DescriptorSet} {f : Field} {type : WellKnown}

theorem kind_of_wellKnown? (special : f.wellKnown? = some type) : f.kind = .message := by
  by_contra hk
  rw [wellKnown?_of_kind hk] at special
  cases special

theorem at?_dress_wellKnown (hc : f.cardinality ≠ .map) (special : f.wellKnown? = some type) :
    (f.dress set type.schema).at? f.valueKeys = some type.schema := by
  rw [valueKeys_of_not_map hc]
  unfold dress
  by_cases hl : f.isList = true
  · rw [if_pos hl, if_pos hl, Json.at?_cons (get?_listSchema f type.schema), special]
    rfl
  · rw [if_neg hl, if_neg hl, special]
    rfl

/-- Under its keys the schema of a field of a well-known type has the schema of that type. -/
theorem at?_assemble_wellKnown (hf : set.WellFormed f) (special : f.leaf.wellKnown? = some type) :
    (f.assemble set type.schema).at? f.valueKeys = some type.schema := by
  obtain ⟨value, hat, rfl⟩ := exists_at?_assemble (P := (· = type.schema)) hf
    ⟨_, at?_dress_wellKnown hf.leaf_single special, rfl⟩
    (fun rules enum schema hs => by rw [kind_of_wellKnown? special, Json.withRules_message, hs])
  exact hat

end Field

namespace DescriptorSet

variable {set other : DescriptorSet}

/-! ## Messages that are written out -/

theorem RefersTo.not_wellKnown {f : Field} {n : MessageType} (h : set.RefersTo f n) :
    n.fullName ∉ WellKnown.names := by
  obtain ⟨hk, special, found⟩ := h
  obtain ⟨name, hname, hmessage⟩ := Option.bind_eq_some_iff.1 found
  rw [Field.wellKnown?, if_pos hk, hname, Option.bind_some] at special
  rw [fullName_of_message? hmessage]
  exact WellKnown.ofName?_eq_none_iff.1 special

theorem Route.not_wellKnown {m n : MessageType} {passed : List MessageType} {fields : List Field}
    (h : set.Route m passed fields n) : n.fullName ∉ WellKnown.names := by
  induction h with
  | last _ refers => exact refers.not_wellKnown
  | cons _ _ _ ih => exact ih

theorem WrittenAt.eq_or_not_wellKnown {m n : MessageType} {way : List Turn}
    (h : set.WrittenAt m way n) : n = m ∨ n.fullName ∉ WellKnown.names := by
  cases h with
  | root => exact .inl rfl
  | route route => exact .inr route.not_wellKnown

/-! ## What is declared under other names -/

/-- The messages of the set whose names are not those of well-known types. -/
def ownMessages (set : DescriptorSet) : List MessageType :=
  set.messages.filter (·.fullName ∉ WellKnown.names)

theorem message?_eq_find?_ownMessages {name : String} (h : WellKnown.ofName? name = none) :
    set.message? name = set.ownMessages.find? (·.fullName == plainName name) := by
  have hplain := WellKnown.ofName?_eq_none_iff.1 h
  rw [message?, ownMessages, List.find?_filter]
  congr 1
  funext m
  by_cases hname : m.fullName = plainName name
  · simp [hname, hplain]
  · simp [hname]

theorem messageOf?_congr_own (hown : set.ownMessages = other.ownMessages) {f : Field}
    (hk : f.kind = .message) (special : f.wellKnown? = none) :
    set.messageOf? f = other.messageOf? f := by
  rw [Field.wellKnown?, if_pos hk] at special
  unfold messageOf?
  cases hname : f.typeName with
  | none => rfl
  | some name =>
    rw [hname, Option.bind_some] at special
    rw [Option.bind_some, Option.bind_some, message?_eq_find?_ownMessages special,
      message?_eq_find?_ownMessages special, hown]

/-- A message is expanded alike in sets that have the same enum types and the same messages of
names that are not well known. -/
theorem expandMessage_congr_own (henums : set.enums = other.enums)
    (hown : set.ownMessages = other.ownMessages) (inside : List String) (m : set.Message) :
    ∀ n : other.Message, n.val = m.val →
      set.expandMessage inside m = other.expandMessage inside n := by
  induction inside, m using expansion_induction with
  | step inside m ih =>
    intro n heq
    by_cases hm : m.val.fullName ∈ inside
    · rw [expandMessage_of_mem hm, expandMessage_of_mem (heq ▸ hm)]
    have hvalue : ∀ f, set.expandValue (m.val.fullName :: inside) f =
        other.expandValue (m.val.fullName :: inside) f := by
      intro f
      refine expandValue_congr henums (fun hk special k found => ?_) fun hk special hnone => ?_
      · exact ⟨k, messageOf?_congr_own hown hk special ▸ found, ih hm _ _ rfl⟩
      · rw [← messageOf?_congr_own hown hk special, hnone]
    rw [expandMessage_of_not_mem hm, expandMessage_of_not_mem (heq ▸ hm), heq,
      expandFields_congr fun f _ => expandField_congr henums hvalue f]

end DescriptorSet

namespace Pool

open DescriptorSet

variable (pool : Pool)

theorem at?_position_of_writtenOut {n : MessageType} {value : Json}
    (h : pool.set.WrittenOut n value) {f : Field} {type : WellKnown} (named : n.LastNamed f)
    (special : f.leaf.wellKnown? = some type) : value.at? f.position = some type.schema := by
  obtain ⟨hn, around, schema, fresh, hschema, hget⟩ := h
  have hwf := pool.wellFormed hn named.mem
  obtain ⟨own, hown, hat⟩ := expandMessage_property fresh hschema named
  rw [expandField_eq hwf, expandValue_of_wellKnown special] at hown
  cases hown
  have hproperties : value.at? f.position = schema.at? f.position := by
    show (value.get? "properties").bind _ = (schema.get? "properties").bind _
    rw [hget _ (by decide)]
  rw [hproperties, Field.position, hat, Field.at?_assemble_wellKnown hwf special]

/-- What is to be true of the document of a message: no message of a well-known type is written out
in it, and if the message is of one itself, the document is the schema of that type. -/
structure KeepsWellKnown (m : MessageType) (document : Json) : Prop where
  whole : ∀ way shell n, document.follow? way = some shell → shell.IsShell →
    pool.set.WrittenAt m way n → n.fullName ∉ WellKnown.names
  own : ∀ type : WellKnown, m.fullName = type.fullName → document = type.schema

/-- **Well-known types are kept whole in the documents of all other messages, and in these alone.**
In any document a shell is a message that the way to it leads to, and of a well-known type only if
it is all of the document; where one of its fields is of a well-known type, the schema of that type
stands. What is declared under the names of well-known types makes no difference to the document,
the message itself aside. -/
theorem wellKnown_kept_iff {m : pool.set.Message} {document : Json}
    (h : pool.schemaOf m = .ok document) :
    (∀ way shell, document.follow? way = some shell → shell.IsShell →
      ∃ n, pool.set.WrittenAt m.val way n ∧ shell.IsShellOf n ∧
        (way ≠ [] → n.fullName ∉ WellKnown.names) ∧
        ∀ f type, n.LastNamed f → f.leaf.wellKnown? = some type →
          shell.at? f.position = some type.schema) ∧
    (pool.KeepsWellKnown m.val document ↔ m.val.fullName ∉ WellKnown.names) ∧
    ∀ (other : Pool) (n : other.set.Message), n.val = m.val → pool.set.enums = other.set.enums →
      pool.set.ownMessages = other.set.ownMessages → other.schemaOf n = .ok document := by
  refine ⟨fun way shell hfollow hshell => ?_, ⟨fun hkeeps => ?_, fun hm => ?_⟩, ?_⟩
  · obtain ⟨n, value, hat, hvalue, hwritten⟩ :=
      pool.exists_writtenAt [] m h ⟨shell, hfollow, hshell⟩
    obtain rfl : shell = value := Option.some.inj (hfollow.symm.trans hvalue)
    refine ⟨n, hat, hwritten.isShellOf, fun hway => ?_, fun f type => ?_⟩
    · cases hat with
      | root => exact absurd rfl hway
      | route route => exact route.not_wellKnown
    · exact pool.at?_position_of_writtenOut hwritten
  · -- the message itself is a shell in its document
    have hshell : document.IsShell := by
      obtain ⟨schemas, -, rfl⟩ := (expandMessage_eq_ok_iff List.not_mem_nil).1 h
      rfl
    exact hkeeps.whole [] document m.val rfl hshell .root
  · refine ⟨fun way shell n _ _ hat => ?_, fun type hname => ?_⟩
    · rcases hat.eq_or_not_wellKnown with rfl | hn
      · exact hm
      · exact hn
    · exact absurd (hname ▸ List.mem_map_of_mem type.mem_all) hm
  · intro other n heq henums hown
    exact (expandMessage_congr_own henums hown [] m n heq).symm.trans h

/-- A time with the fields that it is declared with. -/
def timestampType : MessageType where
  declaredName := "google.protobuf.Timestamp"
  fields := [.plain "seconds" .int64, .plain "nanos" .int32]

def time : Field := .ofMessage "time" "google.protobuf.Timestamp"

def eventType : MessageType where
  declaredName := "log.Event"
  fields := [time, (Field.ofMessage "retries" ".google.protobuf.Timestamp").asList,
    .mapOf "seen" time, .ofMessage "cause" "log.Event"]

/-- A log in which the type of times is declared. -/
def log : Pool where
  set := { messages := [timestampType, eventType] }
  sound := by decide

/-- The same log without the type of times. -/
def bareLog : Pool where
  set := { messages := [eventType] }
  sound := by decide

theorem log_wellKnown_kept : ∃ document,
    log.schemaOf ⟨eventType, .tail _ (.head _)⟩ = .ok document ∧
    log.KeepsWellKnown eventType document ∧
    document.at? ["properties", "time"] = some WellKnown.timestamp.schema ∧
    document.at? ["properties", "retries", "items"] = some WellKnown.timestamp.schema ∧
    document.at? ["properties", "seen", "additionalProperties"] =
      some WellKnown.timestamp.schema ∧
    bareLog.schemaOf ⟨eventType, .head _⟩ = .ok document := by
  obtain ⟨document, hdocument, htimes⟩ : ∃ document,
      log.schemaOf ⟨eventType, .tail _ (.head _)⟩ = .ok document ∧
      decide (document.at? ["properties", "time"] = some WellKnown.timestamp.schema ∧
        document.at? ["properties", "retries", "items"] = some WellKnown.timestamp.schema ∧
        document.at? ["properties", "seen", "additionalProperties"] =
          some WellKnown.timestamp.schema) = true :=
    exists_schemaOf_with (by decide +kernel)
  obtain ⟨htime, hretries, hseen⟩ := of_decide_eq_true htimes
  obtain ⟨-, hkeeps, hsame⟩ := log.wellKnown_kept_iff hdocument
  have hown : log.set.ownMessages = bareLog.set.ownMessages :=
    List.filter_cons_of_neg (by decide)
  exact ⟨document, hdocument, hkeeps.2 (by decide), htime, hretries, hseen,
    hsame bareLog ⟨eventType, .head _⟩ rfl rfl hown⟩

/-- A pool with nothing but the type of times. -/
def clock : Pool where
  set := { messages := [timestampType] }
  sound := by decide

/-- The same pool, where times have no fields. -/
def emptyClock : Pool where
  set := { messages := [{ timestampType with fields := [] }] }
  sound := by decide

/-- The document of a declared time is written out of its fields and changes with them. -/
theorem clock_timestamp_written_out :
    timestampType.fullName = WellKnown.timestamp.fullName ∧ ∃ document other,
      clock.schemaOf ⟨timestampType, .head _⟩ = .ok document ∧
      document.IsShellOf timestampType ∧ document ≠ WellKnown.timestamp.schema ∧
      ¬ clock.KeepsWellKnown timestampType document ∧
      emptyClock.schemaOf ⟨{ timestampType with fields := [] }, .head _⟩ = .ok other ∧
      other ≠ document := by
  obtain ⟨document, hdocument, hseconds⟩ : ∃ document,
      clock.schemaOf ⟨timestampType, .head _⟩ = .ok document ∧
      decide (document.at? ["properties", "seconds", "type"] = some (.str "string")) = true :=
    exists_schemaOf_with (by decide +kernel)
  obtain ⟨other, hother, hempty⟩ : ∃ other,
      emptyClock.schemaOf ⟨{ timestampType with fields := [] }, .head _⟩ = .ok other ∧
      decide (other.at? ["properties", "seconds", "type"] = none) = true :=
    exists_schemaOf_with (by decide +kernel)
  obtain ⟨schemas, hschemas, hshell⟩ := (expandMessage_eq_ok_iff List.not_mem_nil).1 hdocument
  have hof : document.IsShellOf timestampType := by
    rw [hshell]
    exact timestampType.isShellOf_shell hschemas.length_eq
  have hdiffers : document ≠ WellKnown.timestamp.schema := fun hsame =>
    WellKnown.timestamp.not_mem_shells_schema (hsame ▸ nil_mem_shells.2 hof.dialect)
  refine ⟨rfl, document, other, hdocument, hof, hdiffers, fun hkeeps => ?_, hother, ?_⟩
  · exact hdiffers (hkeeps.own .timestamp rfl)
  · rintro rfl
    rw [of_decide_eq_true hempty] at hseconds
    cases of_decide_eq_true hseconds

end Pool

end MessageSchema
