import MessageSchema.CommandLine.Machine
import Mathlib.Data.List.Infix

/-!
# Writing a file

A write puts a text at one place and leaves all other places as they are (`Machine.node?_of_write`),
and the text is then in the file that the path leads to (`Machine.readText_of_write`). Both rest on
what a walk goes through: above the place where it ends, everything is a directory
(`Machine.Grounded`), and a write makes no directory anything else.
-/

namespace MessageSchema

namespace FileSystem

/-! ## Files by their places -/

section Put

variable {place other : Place} {content : ByteArray} {entries : List (Place × Node)}
  {files : FileSystem}

theorem lookup_putFile_self :
    (putFile place content entries).lookup place = some (.file content) := by
  induction entries with
  | nil => exact List.lookup_cons_self
  | cons entry rest ih =>
    obtain ⟨name, node⟩ := entry
    rw [putFile]
    split
    · exact List.lookup_cons_self
    · next hne => rw [List.lookup_cons, beq_eq_false_iff_ne.2 (Ne.symm hne), ih]

theorem lookup_putFile_of_ne (h : other ≠ place) :
    (putFile place content entries).lookup other = entries.lookup other := by
  induction entries with
  | nil => rw [putFile, List.lookup_cons, beq_eq_false_iff_ne.2 h]
  | cons entry rest ih =>
    obtain ⟨name, node⟩ := entry
    rw [putFile]
    split
    · next heq => rw [List.lookup_cons, List.lookup_cons, heq, beq_eq_false_iff_ne.2 h]
    · rw [List.lookup_cons, List.lookup_cons, ih]

theorem any_putFile (place : Place) (content : ByteArray) (entries : List (Place × Node))
    (p : Place → Bool) :
    (putFile place content entries).any (fun entry => p entry.1) =
      (entries.any (fun entry => p entry.1) || p place) := by
  induction entries with
  | nil => rw [putFile, List.any_cons, List.any_nil, Bool.or_false, Bool.false_or]
  | cons entry rest ih =>
    obtain ⟨name, node⟩ := entry
    rw [putFile]
    split
    · next heq =>
      rw [List.any_cons, List.any_cons, heq]
      cases p place <;> simp
    · rw [List.any_cons, List.any_cons, ih, Bool.or_assoc]

theorem node?_put_self (h : place ≠ []) :
    (files.put place content).node? place = some (.file content) := by
  unfold node? put
  rw [if_neg h, lookup_putFile_self]

/-- Another place keeps what it has if it is not above the file, or was a directory already. -/
theorem node?_put_of_ne (hne : other ≠ place)
    (h : other <+: place → files.node? other = some .directory) :
    (files.put place content).node? other = files.node? other := by
  have hany := any_putFile place content files.entries (List.isPrefixOf other)
  unfold node? put at *
  simp only
  split
  · rfl
  next hroot =>
  rw [lookup_putFile_of_ne hne]
  split
  · rfl
  next hmissing =>
  rw [hany]
  by_cases habove : other <+: place
  · have hbefore := h habove
    rw [if_neg hroot, hmissing] at hbefore
    simp only at hbefore
    rw [hbefore, List.isPrefixOf_iff_prefix.2 habove, Bool.or_true, if_pos rfl]
  · rw [Bool.eq_false_iff.2 (mt List.isPrefixOf_iff_prefix.1 habove), Bool.or_false]

end Put

end FileSystem

namespace Machine

open FileSystem

variable {m changed : Machine} {path text : String} {place next last : Place}

theorem node?_of_prefix_home (h : place <+: m.home) : m.node? place = some .directory :=
  if_pos (List.isPrefixOf_iff_prefix.2 h)

theorem node?_of_not_prefix_home (h : ¬ place <+: m.home) : m.node? place = m.files.node? place :=
  if_neg (mt List.isPrefixOf_iff_prefix.1 h)

/-! ## Walks -/

/-- Whatever is above the place is a directory. -/
def Grounded (m : Machine) (place : Place) : Prop :=
  ∀ above, above <+: place → above ≠ place → m.node? above = some .directory

/-- One only steps on from a directory. -/
theorem node?_of_step {name : String} (h : m.step place name = .ok next) :
    m.node? place = some .directory := by
  unfold step at h
  split at h
  · cases h
  · cases h
  · next hnode => exact hnode

theorem grounded_dropLast (grounded : m.Grounded place) : m.Grounded place.dropLast := by
  intro above habove hne
  refine grounded above (habove.trans (List.dropLast_prefix _)) ?_
  rintro rfl
  exact hne (habove.eq_of_length (Nat.le_antisymm habove.length_le (by simp)))

theorem Grounded.of_step {name : String} (grounded : m.Grounded place)
    (h : m.step place name = .ok next) : m.Grounded next := by
  have hnode := node?_of_step h
  unfold step at h
  rw [hnode] at h
  simp only at h
  split at h
  · cases h
    exact grounded
  split at h
  · cases h
  split at h
  · cases h
    exact grounded
  split at h
  · cases h
    exact grounded_dropLast grounded
  split at h
  · cases h
  · cases h
    intro above habove hne
    rcases List.prefix_concat_iff.1 habove with heq | hprefix
    · exact absurd heq hne
    · by_cases heq : above = place
      · rw [heq]
        exact hnode
      · exact grounded above hprefix heq

theorem walk_cons_eq_ok_iff {name : String} {rest : List String} :
    m.walk place (name :: rest) = .ok last ↔
      ∃ next, m.step place name = .ok next ∧ m.walk next rest = .ok last := by
  rw [walk]
  cases m.step place name with
  | error e =>
    constructor
    · intro h; cases h
    · rintro ⟨_, h, -⟩; cases h
  | ok next =>
    constructor
    · exact fun h => ⟨next, rfl, h⟩
    · rintro ⟨_, h, hrest⟩
      cases h
      exact hrest

theorem walk_append_eq_ok_iff {first second : List String} :
    m.walk place (first ++ second) = .ok last ↔
      ∃ middle, m.walk place first = .ok middle ∧ m.walk middle second = .ok last := by
  induction first generalizing place with
  | nil =>
    constructor
    · exact fun h => ⟨place, rfl, h⟩
    · rintro ⟨_, h, hrest⟩
      cases h
      exact hrest
  | cons name rest ih =>
    simp only [List.cons_append, walk_cons_eq_ok_iff, ih]
    constructor
    · rintro ⟨next, hstep, middle, hfirst, hsecond⟩
      exact ⟨middle, ⟨next, hstep, hfirst⟩, hsecond⟩
    · rintro ⟨middle, ⟨next, hstep, hfirst⟩, hsecond⟩
      exact ⟨next, hstep, middle, hfirst, hsecond⟩

theorem Grounded.of_walk {names : List String} :
    ∀ {place last : Place}, m.Grounded place → m.walk place names = .ok last →
      m.Grounded last := by
  induction names with
  | nil =>
    intro place last grounded h
    cases h
    exact grounded
  | cons name rest ih =>
    intro place last grounded h
    obtain ⟨next, hstep, hrest⟩ := walk_cons_eq_ok_iff.1 h
    exact ih (grounded.of_step hstep) hrest

theorem grounded_of_start (h : m.start path = .ok place) : m.Grounded place := by
  unfold start at h
  split at h
  · cases h
  split at h
  · cases h
  split at h
  · cases h
    intro above habove hne
    exact absurd (List.prefix_nil.1 habove) hne
  · cases h
    exact fun above habove _ => node?_of_prefix_home habove

/-- A walk goes the same way where its directories are still directories. -/
theorem walk_of_directories (hrefuses : changed.refuses = m.refuses)
    (hkept : ∀ place, m.node? place = some .directory → changed.node? place = some .directory)
    {names : List String} : ∀ {place last : Place}, m.walk place names = .ok last →
      changed.walk place names = .ok last := by
  induction names with
  | nil => exact id
  | cons name rest ih =>
    intro place last h
    obtain ⟨next, hstep, hrest⟩ := walk_cons_eq_ok_iff.1 h
    refine walk_cons_eq_ok_iff.2 ⟨next, ?_, ih hrest⟩
    have hnode := node?_of_step hstep
    unfold step at hstep ⊢
    rw [hnode] at hstep
    rw [hkept _ hnode, hrefuses]
    exact hstep

/-! ## Where a file is written -/

/-- Where a path leads that a file can be written at: the end of a walk over the whole path, where
there is no directory. -/
structure Target (m : Machine) (path : String) (place : Place) : Prop where
  walked : ∃ origin, m.start path = .ok origin ∧ m.walk origin (names path) = .ok place
  free : m.node? place ≠ some .directory

theorem target_eq_ok (h : m.target path = .ok place) : m.Target path place := by
  unfold target at h
  cases hstart : m.start path with
  | error e => rw [hstart] at h; cases h
  | ok origin =>
  simp only [hstart, bind, Except.bind] at h
  split at h
  · cases h
  next last before hparts =>
  cases hwalk : m.walk origin before.reverse with
  | error e => rw [hwalk] at h; cases h
  | ok parent =>
  simp only [hwalk] at h
  cases hstep : m.step parent last with
  | error e => rw [hstep] at h; cases h
  | ok final =>
  simp only [hstep] at h
  split at h
  · cases h
  next hlast =>
  split at h
  · cases h
  next hfree =>
  cases h
  push Not at hlast
  -- the path ends in a name, so that no part of it was passed over
  have hnames : names path = before.reverse ++ [last] := by
    cases hr : (names path).reverse with
    | nil =>
      rw [hr] at hparts
      cases hparts
    | cons final others =>
      have hfinal : final ≠ "" := by
        rintro rfl
        exact hlast.1 (by rw [← List.head?_reverse, hr, List.head?_cons])
      rw [hr, List.dropWhile_cons_of_neg (by simpa using hfinal)] at hparts
      rw [← List.reverse_reverse (names path), hr, hparts, List.reverse_cons]
  refine ⟨⟨origin, hstart, ?_⟩, hfree⟩
  rw [hnames, walk_append_eq_ok_iff]
  exact ⟨parent, hwalk, walk_cons_eq_ok_iff.2 ⟨_, hstep, rfl⟩⟩

theorem Target.grounded (h : m.Target path place) : m.Grounded place := by
  obtain ⟨origin, hstart, hwalk⟩ := h.walked
  exact (grounded_of_start hstart).of_walk hwalk

/-! ## Writing -/

theorem write_eq_ok_iff : m.write path text = .ok changed ↔
    ∃ place, m.target path = .ok place ∧ m.refuses (.write place text) = none ∧
      changed = { m with files := m.files.put place text.toUTF8 } := by
  unfold write
  cases m.target path with
  | error e =>
    constructor
    · intro h; cases h
    · rintro ⟨_, h, -⟩; cases h
  | ok place =>
    simp only [bind, Except.bind]
    constructor
    · intro h
      split at h
      · cases h
      · next hallowed =>
        cases h
        exact ⟨place, rfl, hallowed, rfl⟩
    · rintro ⟨_, h, hallowed, rfl⟩
      cases h
      rw [hallowed]
      rfl

/-- **A write changes one file**: there is the text at the place that the path leads to, and at any
other place there is what was there before. -/
theorem node?_of_write (htarget : m.target path = .ok place)
    (h : m.write path text = .ok changed) :
    changed.node? place = some (.file text.toUTF8) ∧
      ∀ other, other ≠ place → changed.node? other = m.node? other := by
  obtain ⟨_, hsame, -, hchanged⟩ := write_eq_ok_iff.1 h
  cases htarget.symm.trans hsame
  have hfiles : changed.files = m.files.put place text.toUTF8 := by rw [hchanged]
  have hhome : changed.home = m.home := by rw [hchanged]
  have htarget := target_eq_ok htarget
  have houtside : ¬ place <+: m.home := fun habove => htarget.free (node?_of_prefix_home habove)
  constructor
  · rw [node?_of_not_prefix_home (hhome ▸ houtside), hfiles]
    refine node?_put_self ?_
    rintro rfl
    exact houtside List.nil_prefix
  · intro other hother
    by_cases habove : other <+: m.home
    · rw [node?_of_prefix_home (hhome ▸ habove), node?_of_prefix_home habove]
    · have hbefore := node?_of_not_prefix_home habove
      rw [node?_of_not_prefix_home (hhome ▸ habove), hfiles, hbefore]
      -- what is above the place was a directory before
      exact node?_put_of_ne hother fun hprefix =>
        hbefore.symm.trans (htarget.grounded other hprefix hother)

theorem fromUTF8?_toUTF8 (text : String) : String.fromUTF8? text.toUTF8 = some text := by
  have hvalid : text.toUTF8.IsValidUTF8 := text.isValidUTF8
  unfold String.fromUTF8?
  rw [dif_pos hvalid]
  rfl

@[simp] theorem textOf_file_toUTF8 (text : String) : textOf (.file text.toUTF8) = .ok text := by
  simp only [textOf, fromUTF8?_toUTF8]

/-- What was written to a path stands there. -/
theorem readText_of_write (h : m.write path text = .ok changed) :
    changed.readText path = .ok text := by
  obtain ⟨place, htarget, -, hchanged⟩ := write_eq_ok_iff.1 h
  obtain ⟨hfile, hothers⟩ := node?_of_write htarget h
  obtain ⟨⟨origin, hstart, hwalk⟩, hfree⟩ := target_eq_ok htarget
  have hkept : ∀ other, m.node? other = some .directory →
      changed.node? other = some .directory := by
    intro other hnode
    have hne : other ≠ place := by
      rintro rfl
      exact hfree hnode
    exact (hothers other hne).trans hnode
  have hrefuses : changed.refuses = m.refuses := by rw [hchanged]
  have hsame : changed.start path = m.start path := by rw [hchanged]; rfl
  have hfound : changed.find path = .ok (place, .file text.toUTF8) := by
    unfold find
    simp only [hsame, hstart, walk_of_directories hrefuses hkept hwalk, bind, Except.bind, hfile]
  unfold readText
  simp only [hfound, bind, Except.bind, textOf_file_toUTF8]

end Machine

end MessageSchema
