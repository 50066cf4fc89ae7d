import MessageSchema.CommandLine.Command
import MessageSchema.Proofs.Files

/-!
# Sources

A source has a descriptor set (`Command.Has`), or there is none to be had (`Command.Unread`), or
what it has is no pool (`Command.Unfit`). A file that cannot be read and one that holds no
descriptor set are told apart by the exit code; what a server answers is read while it is fetched,
so that there a wrong answer is as good as none.
-/

namespace MessageSchema

namespace Command

variable {m : Machine} {source : String}

/-! ## Paths -/

/-- A text that stands in a file is read if that is not refused. -/
theorem readSource_of_find {path text : String} {place : Place}
    (hfind : m.find path = .ok (place, .file text.toUTF8))
    (hallowed : m.refuses (.read place) = none) : readSource m path = .ok text := by
  unfold readSource
  simp only [hfind, hallowed, Machine.textOf_file_toUTF8]
  rfl

theorem exitCode_of_readSource {path : String} {cause : LoadError}
    (h : readSource m path = .error cause) : cause.exitCode = 3 := by
  unfold readSource at h
  cases hfind : m.find path with
  | error e =>
    rw [hfind] at h
    cases h
    rfl
  | ok found =>
    simp only [hfind] at h
    cases hrefused : m.refuses (.read found.1) with
    | some e =>
      rw [hrefused] at h
      cases h
      rfl
    | none =>
      rw [hrefused] at h
      cases htext : Machine.textOf found.2 with
      | error e =>
        rw [htext] at h
        cases h
        rfl
      | ok content =>
        rw [htext] at h
        cases h

theorem networkFor?_of_not_isUrl (h : isUrl source = false) :
    networkFor? m source = none :=
  if_neg (Bool.eq_false_iff.1 h)

theorem load_of_not_isUrl [DecimalRounding] (h : isUrl source = false) :
    load m source = (readSource m source).bind Pool.read := by
  unfold load
  rw [networkFor?_of_not_isUrl h]

/-! ## What a source has -/

variable [DecimalRounding]

/-- What a source has cannot be had: its file cannot be read, or its server does not answer, or not
with a descriptor set. -/
inductive Unread (m : Machine) (source : String) : Prop
  | file {cause : LoadError} (here : networkFor? m source = none)
      (h : readSource m source = .error cause)
  | unanswered {network : Network} {reason : String} (there : networkFor? m source = some network)
      (h : network.fetch source = .error reason)
  | answer {network : Network} {content : String} (there : networkFor? m source = some network)
      (answered : network.fetch source = .ok content) (h : DescriptorSet.read? content = none)

/-- A source has a descriptor set. -/
inductive Has (m : Machine) (source : String) (set : DescriptorSet) : Prop
  | file {content : String} (here : networkFor? m source = none)
      (readable : readSource m source = .ok content) (h : DescriptorSet.read? content = some set)
  | answer {network : Network} {content : String} (there : networkFor? m source = some network)
      (answered : network.fetch source = .ok content) (h : DescriptorSet.read? content = some set)

/-- What a source has is no pool: its file holds no descriptor set, or its set is not sound. -/
inductive Unfit (m : Machine) (source : String) : Prop
  | file {content : String} (here : networkFor? m source = none)
      (readable : readSource m source = .ok content) (h : DescriptorSet.read? content = none)
  | set {set : DescriptorSet} {cause : DescriptorError} (has : Has m source set)
      (h : Pool.ofSet set = .error cause)

/-- The source has a pool. -/
def Loads (m : Machine) (source : String) (pool : Pool) : Prop := load m source = .ok pool

theorem Has.load_eq {set : DescriptorSet} (h : Has m source set) :
    load m source = (Pool.ofSet set).mapError .invalidSet := by
  unfold load
  cases h with
  | file here readable h =>
    rw [here]
    simp only [readable, Except.bind, Pool.read, h]
  | answer there answered h =>
    rw [there]
    simp only [fetchSet, answered, h, Except.bind]

/-- Where nothing can be had, the exit code is three. -/
theorem Unread.load_eq (h : Unread m source) :
    ∃ cause, load m source = .error cause ∧ cause.exitCode = 3 := by
  unfold load
  cases h with
  | @file cause here h =>
    exact ⟨cause, by simp only [here, h, Except.bind], exitCode_of_readSource h⟩
  | @unanswered network reason there h =>
    exact ⟨.network source reason, by simp only [there, fetchSet, h, Except.bind], rfl⟩
  | @answer network _ there answered h =>
    exact ⟨.network source (network.unexpected source),
      by simp only [there, fetchSet, answered, h, Except.bind], rfl⟩

/-- Where there is no pool, the exit code is two. -/
theorem Unfit.load_eq (h : Unfit m source) :
    ∃ cause, load m source = .error cause ∧ cause.exitCode = 2 := by
  cases h with
  | file here readable h =>
    refine ⟨.invalidJson, ?_, rfl⟩
    unfold load
    rw [here]
    simp only [readable, Except.bind, Pool.read, h]
  | @set set cause has h =>
    refine ⟨.invalidSet cause, ?_, rfl⟩
    rw [has.load_eq, h]
    rfl

theorem Unread.exitCode {cause : LoadError} (h : Unread m source)
    (failed : load m source = .error cause) : cause.exitCode = 3 := by
  obtain ⟨_, hsame, hcode⟩ := h.load_eq
  cases failed.symm.trans hsame
  exact hcode

theorem Unfit.exitCode {cause : LoadError} (h : Unfit m source)
    (failed : load m source = .error cause) : cause.exitCode = 2 := by
  obtain ⟨_, hsame, hcode⟩ := h.load_eq
  cases failed.symm.trans hsame
  exact hcode

/-- Every source has a descriptor set, or it is known why not. -/
theorem unread_or_unfit_or_has (m : Machine) (source : String) :
    Unread m source ∨ Unfit m source ∨ ∃ set, Has m source set := by
  cases hplace : networkFor? m source with
  | none =>
    cases hread : readSource m source with
    | error cause => exact .inl (.file hplace hread)
    | ok content =>
      cases hset : DescriptorSet.read? content with
      | none => exact .inr (.inl (.file hplace hread hset))
      | some set => exact .inr (.inr ⟨set, .file hplace hread hset⟩)
  | some network =>
    cases hfetch : network.fetch source with
    | error reason => exact .inl (.unanswered hplace hfetch)
    | ok content =>
      cases hset : DescriptorSet.read? content with
      | none => exact .inl (.answer hplace hfetch hset)
      | some set => exact .inr (.inr ⟨set, .answer hplace hfetch hset⟩)

theorem unread_or_unfit_of_load {cause : LoadError} (h : load m source = .error cause) :
    Unread m source ∨ Unfit m source := by
  rcases unread_or_unfit_or_has m source with hunread | hunfit | ⟨set, has⟩
  · exact .inl hunread
  · exact .inr hunfit
  · cases hset : Pool.ofSet set with
    | error cause => exact .inr (.set has hset)
    | ok pool =>
      rw [has.load_eq, hset] at h
      cases h

end Command

end MessageSchema
