import MessageSchema.Proofs.Base64Texts
import MessageSchema.Proofs.Members
import MessageSchema.Proofs.RuleKeys
import MessageSchema.Proofs.Records

/-!
# Constants of bytes

A rule that bytes are constant is read from base64 and written in base64 twice: as a keyword of a
schema, and where the rules are written again. The text is the same each time
(`FieldRules.bytes_const_kept`), since bytes have one text.
-/

namespace MessageSchema

/-! ## Parts of structures -/

/-- What is written gives a value to a field of a structure, which has the given fields. -/
def Written.Gives (w : Written) (fields : List String) (key : String) (value : Written) : Prop :=
  ∃ r, w.record? fields = some r ∧ (r.find? key).map Subtype.val = some value

/-- What is written for a field is found under its key. -/
theorem Json.get?_ofOptional {members : List (String × Option Json)} {key : String}
    {value : Option Json} (hkeys : (members.map Prod.fst).Nodup) (h : (key, value) ∈ members) :
    (ofOptional members).get? key = value := by
  rw [ofOptional, get?]
  induction members with
  | nil => cases h
  | cons member rest ih =>
    obtain ⟨other, written⟩ := member
    rw [List.map_cons, List.nodup_cons] at hkeys
    rcases List.mem_cons.1 h with heq | hin
    · cases heq
      cases value with
      | none =>
        -- the key is left out, and no other member has it
        rw [List.filterMap_cons_none rfl]
        refine Members.get?_eq_none_iff.2 fun hkey => hkeys.1 ?_
        obtain ⟨entry, hentry, rfl⟩ := List.mem_map.1 hkey
        obtain ⟨⟨name, value⟩, hmember, heq⟩ := List.mem_filterMap.1 hentry
        obtain ⟨_, -, rfl⟩ := Option.map_eq_some_iff.1 heq
        exact List.mem_map.2 ⟨_, hmember, rfl⟩
      | some value => exact if_pos rfl
    · have hne : other ≠ key := fun heq => hkeys.1 (List.mem_map.2 ⟨_, hin, heq.symm⟩)
      cases written with
      | none => exact ih hkeys.2 hin
      | some written => exact (if_neg hne).trans (ih hkeys.2 hin)

/-! ## Rules that are read -/

namespace BytesRules

/-- The fields of rules for bytes. -/
def fields : List String := ["const", "min_len", "max_len", "pattern"]

variable {w : Written} {text : String} {rules : BytesRules}

theorem const_of_decode? (given : w.Gives fields "const" (.str text)) (h : decode? w = some rules) :
    ∃ bytes, Base64.decode? text.toList = some bytes ∧ rules.const = some bytes := by
  obtain ⟨r, hr, hfound⟩ := given
  obtain ⟨r', hr', h⟩ := Option.bind_eq_some_iff.1 h
  obtain rfl := Option.some.inj (hr.symm.trans hr')
  obtain ⟨const, hconst, h⟩ := Option.bind_eq_some_iff.1 h
  rw [Record.optional?_of_find? hfound (by simp)] at hconst
  obtain ⟨bytes, hbytes, rfl⟩ := Option.map_eq_some_iff.1 hconst
  iterate 3 obtain ⟨_, -, h⟩ := Option.bind_eq_some_iff.1 h
  cases h
  exact ⟨bytes, hbytes, rfl⟩

end BytesRules

namespace FieldRules

/-- The fields of all rules. -/
def fields : List String :=
  ["required", "string", "bytes", "bool", "enum", "int32", "sint32", "sfixed32", "int64", "sint64",
    "sfixed64", "uint32", "fixed32", "uint64", "fixed64", "float", "double", "repeated", "map"]

variable {w inner : Written} {text : String} {rules : FieldRules}

theorem bytes_of_decode? (given : w.Gives fields "bytes" inner) (hnull : inner ≠ .null)
    (h : decode? w = some rules) :
    ∃ own, BytesRules.decode? inner = some own ∧ rules.bytes = some own := by
  obtain ⟨r, hr, hfound⟩ := given
  rw [decode?] at h
  obtain ⟨r', hr', h⟩ := Option.bind_eq_some_iff.1 h
  obtain rfl := Option.some.inj (hr.symm.trans hr')
  iterate 2 obtain ⟨_, -, h⟩ := Option.bind_eq_some_iff.1 h
  obtain ⟨bytes, hbytes, h⟩ := Option.bind_eq_some_iff.1 h
  rw [Record.optional?_of_find? hfound hnull] at hbytes
  obtain ⟨own, hown, rfl⟩ := Option.map_eq_some_iff.1 hbytes
  iterate 16 obtain ⟨_, -, h⟩ := Option.bind_eq_some_iff.1 h
  cases h
  exact ⟨own, hown, rfl⟩

/-- Rules that are read with a constant have read its text, and their bytes are written as it. -/
theorem const_of_decode? (outer : w.Gives fields "bytes" inner)
    (given : inner.Gives BytesRules.fields "const" (.str text)) (h : decode? w = some rules) :
    ∃ own bytes, rules.bytes = some own ∧ own.const = some bytes ∧
      Base64.decode? text.toList = some bytes ∧ String.ofList (Base64.encode bytes) = text := by
  have hnull : inner ≠ .null := by
    rintro rfl
    obtain ⟨r, hr, -⟩ := given
    cases hr
  obtain ⟨own, hown, hbytes⟩ := bytes_of_decode? outer hnull h
  obtain ⟨bytes, hread, hconst⟩ := BytesRules.const_of_decode? given hown
  refine ⟨own, bytes, hbytes, hconst, hread, ?_⟩
  rw [Base64.encode_of_decode? hread, String.ofList_toList]

/-- Rules with nothing but a constant of bytes. -/
def bytesConst (bytes : List UInt8) : FieldRules := { bytes := some { const := some bytes } }

/-- Rules with nothing but a constant are read if its text is base64. -/
theorem decode?_bytes_const (text : String) :
    decode? (.obj [(some "bytes", .obj [(some "const", .str text)])]) =
      (Base64.decode? text.toList).map bytesConst := by
  have hinner : BytesRules.decode? (.obj [(some "const", .str text)]) =
      (Base64.decode? text.toList).map fun bytes => { const := some bytes } := by
    change ((Base64.decode? text.toList).map some).bind _ = _
    cases Base64.decode? text.toList with
    | none => rfl
    | some bytes => rfl
  rw [decode?]
  change ((BytesRules.decode? (.obj [(some "const", .str text)])).map some).bind _ = _
  rw [hinner]
  cases Base64.decode? text.toList with
  | none => rfl
  | some bytes => rfl

/-! ## Rules that are written -/

theorem get?_const_withRules {own : BytesRules} {bytes : List UInt8} (hown : rules.bytes = some own)
    (hconst : own.const = some bytes) (enum : Option EnumType) (members : Members) :
    ((Json.obj members).withRules rules .bytes enum).get? "const" =
      some (.str (String.ofList (Base64.encode bytes))) := by
  have hkeywords : rules.keywords .bytes enum = [] ++
      ("const", .str (String.ofList (Base64.encode bytes))) ::
        (keyword "minByteLength" Json.ofSize own.minLength ++
          keyword "maxByteLength" Json.ofSize own.maxLength) := by
    rw [keywords, hown, Option.elim_some, BytesRules.keywords, hconst]
    rfl
  rw [Json.withRules, hkeywords]
  -- the keywords for lengths have other names
  have hlengths : (keyword "minByteLength" Json.ofSize own.minLength ++
      keyword "maxByteLength" Json.ofSize own.maxLength).map Prod.fst ⊆
        ["minByteLength", "maxByteLength"] :=
    keys_append_subset (keys_keyword_subset (by decide)) (keys_keyword_subset (by decide))
  exact Members.get?_putAll_last fun hkey => absurd (hlengths hkey) (by decide)

theorem get?_const_encode {own : BytesRules} {bytes : List UInt8} (hown : rules.bytes = some own)
    (hconst : own.const = some bytes) :
    (rules.encode.get? "bytes").bind (·.get? "const") =
      some (.str (String.ofList (Base64.encode bytes))) := by
  have hinner : own.encode.get? "const" = some (.str (String.ofList (Base64.encode bytes))) := by
    rw [BytesRules.encode, hconst]
    refine Json.get?_ofOptional ?_ (.head _)
    exact (by decide : BytesRules.fields.Nodup)
  have houter : rules.encode.get? "bytes" = some own.encode := by
    cases rules
    cases hown
    rw [encode]
    refine Json.get?_ofOptional ?_ (.tail _ (.tail _ (.head _)))
    exact (by decide : fields.Nodup)
  rw [houter, Option.bind_some, hinner]

/-- **Constants of bytes keep their text.** Whatever the other rules are: a text that is not base64
is not read, and one that is read is put into a schema, and written again, just as it was given, for
no other text has the same bytes. Alone, a constant is read exactly if its text is base64. -/
theorem bytes_const_kept (outer : w.Gives fields "bytes" inner)
    (given : inner.Gives BytesRules.fields "const" (.str text)) :
    (∀ bytes, Base64.decode? (Base64.encode bytes) = some bytes) ∧
    (∀ cs bytes, Base64.decode? cs = some bytes ↔ Base64.Spells cs bytes) ∧
    (∀ cs ds bytes, Base64.decode? cs = some bytes → Base64.decode? ds = some bytes → cs = ds) ∧
    ((¬ ∃ bytes, Base64.Spells text.toList bytes) → decode? w = none) ∧
    (∀ rules, decode? w = some rules →
      (∃ own bytes, rules.bytes = some own ∧ own.const = some bytes ∧
        Base64.Spells text.toList bytes) ∧
      (∀ members enum,
        ((Json.obj members).withRules rules .bytes enum).get? "const" = some (.str text)) ∧
      (rules.encode.get? "bytes").bind (·.get? "const") = some (.str text)) ∧
    ((∃ rules, decode? (.obj [(some "bytes", .obj [(some "const", .str text)])]) = some rules) ↔
      ∃ bytes, Base64.Spells text.toList bytes) := by
  refine ⟨Base64.decode?_encode, fun _ _ => Base64.decode?_eq_some_iff, fun cs ds bytes hc hd => ?_,
    fun hnot => ?_, fun rules h => ?_, ?_⟩
  · exact (Base64.encode_of_decode? hc).symm.trans (Base64.encode_of_decode? hd)
  · refine Option.eq_none_iff_forall_ne_some.2 fun rules h => hnot ?_
    obtain ⟨-, bytes, -, -, hread, -⟩ := const_of_decode? outer given h
    exact ⟨bytes, Base64.decode?_eq_some_iff.1 hread⟩
  · obtain ⟨own, bytes, hown, hconst, hread, htext⟩ := const_of_decode? outer given h
    refine ⟨⟨own, bytes, hown, hconst, Base64.decode?_eq_some_iff.1 hread⟩,
      fun members enum => ?_, ?_⟩
    · rw [get?_const_withRules hown hconst, htext]
    · rw [get?_const_encode hown hconst, htext]
  · rw [decode?_bytes_const]
    constructor
    · rintro ⟨rules, h⟩
      obtain ⟨bytes, hread, -⟩ := Option.map_eq_some_iff.1 h
      exact ⟨bytes, Base64.decode?_eq_some_iff.1 hread⟩
    · rintro ⟨bytes, hspells⟩
      rw [Base64.decode?_eq_some_iff.2 hspells]
      exact ⟨bytesConst bytes, rfl⟩

/-- Three bytes stay `AAEC` beside a rule for their length. Where the bits that a character leaves
over are not zero, as in `AB==`, nothing is read. -/
theorem bytes_const_kept_three :
    let own (text : String) : Written := .obj
      [(some "min_len", .num (.int ⟨3, by decide, by decide⟩)), (some "const", .str text)]
    let all (text : String) : Written :=
      .obj [(some "required", .bool true), (some "bytes", own text)]
    (∃ rules, decode? (all "AAEC") = some rules ∧
      ((Json.obj []).withRules rules .bytes none).get? "const" = some (.str "AAEC") ∧
      (rules.encode.get? "bytes").bind (·.get? "const") = some (.str "AAEC")) ∧
    decode? (all "AB==") = none := by
  intro own all
  have houter (text : String) : (all text).Gives fields "bytes" (own text) := ⟨_, rfl, rfl⟩
  have hgiven (text : String) : (own text).Gives BytesRules.fields "const" (.str text) :=
    ⟨_, rfl, rfl⟩
  constructor
  · let read : BytesRules :=
      { const := some [0, 1, 2], minLength := some ⟨3, by decide, by decide⟩ }
    have hread : decode? (all "AAEC") = some { required := true, bytes := some read } := by
      rw [decode?]
      rfl
    obtain ⟨-, -, -, -, hkept, -⟩ := bytes_const_kept (houter "AAEC") (hgiven "AAEC")
    obtain ⟨-, hschema, htext⟩ := hkept _ hread
    exact ⟨_, hread, hschema [] none, htext⟩
  · obtain ⟨-, hiff, -, hnone, -⟩ := bytes_const_kept (houter "AB==") (hgiven "AB==")
    refine hnone fun ⟨bytes, hspells⟩ => ?_
    cases (hiff _ _).2 hspells

end FieldRules

end MessageSchema
