import ForbiddenCalls.Discovery.Walk
import Mathlib.Data.List.Basic

/-!
# What a walk finds

A walk goes down from the directory where it starts, carries along the ignore files of the
directories that it enters, and leaves out what they ignore.  Here the entries that it
yields are described without the walk: an entry is *reached* if there is a way to it from the
start on which nothing is ignored (`Walk.Reaches`), and the walk yields exactly the entries
that are reached, but for the directories that it enters (`Walk.mem_entries_iff`).
-/

namespace ForbiddenCalls

namespace Entry

/-- A property of entries holds of a directory if it holds of the entries in it. -/
theorem induction {motive : Entry → Prop} (file : ∀ bytes, motive (.file bytes))
    (link : ∀ target, motive (.link target)) (barred : ∀ reason, motive (.barred reason))
    (dir : ∀ entries, (∀ p ∈ entries, motive p.2) → motive (.dir entries)) : ∀ e, motive e
  | .file bytes => file bytes
  | .link target => link target
  | .barred reason => barred reason
  | .dir entries => dir entries fun p _hp => induction file link barred dir p.2
termination_by e => sizeOf e
decreasing_by
  have hlist := List.sizeOf_lt_of_mem _hp
  have hpair : sizeOf p = 1 + sizeOf p.1 + sizeOf p.2 := rfl
  simp only [Entry.dir.sizeOf_spec]
  omega

end Entry

namespace Walk

variable {w : Walk} {levels : List IgnoreLevel} {trail : Trail} {e : Entry}
  {found : Trail × Entry}

/-- The ignore files of the directories above the start of the walk. -/
def outerLevels (w : Walk) : List IgnoreLevel :=
  (above w.startTrail).map fun t => w.level (.above t) t

/-- The ignore files that count in a directory of the walk: its own come first. -/
def levelsIn (w : Walk) (levels : List IgnoreLevel) (trail : Trail) : List IgnoreLevel :=
  w.level (.inside (w.pathOf trail)) trail :: levels

/-- An entry is reached if the walk starts there, or if the directory that it is in is
reached and the ignore files on the way do not ignore it. -/
inductive Reaches (w : Walk) : List IgnoreLevel → Trail → Entry → Prop
  | start {e : Entry} : w.fs.entryAt? w.startTrail = some e →
      Reaches w w.outerLevels w.startTrail e
  | enter {levels : List IgnoreLevel} {trail : Trail} {entries : List (String × Entry)}
      {name : String} {e : Entry} : Reaches w levels trail (.dir entries) → (name, e) ∈ entries →
      w.ignores (w.levelsIn levels trail) (name :: trail) e = false →
      Reaches w (w.levelsIn levels trail) (name :: trail) e

/-! ## One directory -/

theorem entriesAmong_eq_flatMap (w : Walk) (levels : List IgnoreLevel) (trail : Trail)
    (entries : List (String × Entry)) :
    w.entriesAmong levels trail entries = entries.flatMap fun p =>
      if w.ignores levels (p.1 :: trail) p.2 then []
      else w.entriesIn levels (p.1 :: trail) p.2 := by
  induction entries with
  | nil => rw [entriesAmong, List.flatMap_nil]
  | cons p entries ih => rw [entriesAmong, List.flatMap_cons, ih]

/-- What is found in a directory is found at one of its entries that is not ignored. -/
theorem mem_entriesIn_dir {entries : List (String × Entry)} :
    found ∈ w.entriesIn levels trail (.dir entries) ↔
      ∃ name e, (name, e) ∈ entries ∧
        w.ignores (w.levelsIn levels trail) (name :: trail) e = false ∧
        found ∈ w.entriesIn (w.levelsIn levels trail) (name :: trail) e := by
  rw [entriesIn, ← levelsIn, entriesAmong_eq_flatMap, List.mem_flatMap]
  constructor
  · rintro ⟨⟨name, e⟩, hmem, hfound⟩
    split at hfound
    · exact absurd hfound List.not_mem_nil
    · next hkept => exact ⟨name, e, hmem, Bool.eq_false_iff.2 hkept, hfound⟩
  · rintro ⟨name, e, hmem, hkept, hfound⟩
    refine ⟨(name, e), hmem, ?_⟩
    rwa [if_neg (Bool.eq_false_iff.1 hkept)]

/-- An entry that is not a directory to enter is all that is found at it. -/
theorem mem_entriesIn_of_not_dir (h : ∀ entries, e ≠ .dir entries) :
    found ∈ w.entriesIn levels trail e ↔ found = (trail, e) := by
  cases e with
  | dir entries => exact absurd rfl (h entries)
  | file bytes => rw [entriesIn, List.mem_singleton]
  | link target => rw [entriesIn, List.mem_singleton]
  | barred reason => rw [entriesIn, List.mem_singleton]

/-! ## All directories -/

theorem Reaches.of_mem_entriesIn_of_not_dir (h : w.Reaches levels trail e)
    (hdir : ∀ entries, e ≠ .dir entries) (hfound : found ∈ w.entriesIn levels trail e) :
    (∃ levels, w.Reaches levels found.1 found.2) ∧ ∀ entries, found.2 ≠ .dir entries := by
  obtain rfl := (mem_entriesIn_of_not_dir hdir).1 hfound
  exact ⟨⟨levels, h⟩, hdir⟩

/-- What is found at an entry that is reached is reached.  Directories to enter are not
found. -/
theorem Reaches.of_mem_entriesIn (h : w.Reaches levels trail e)
    (hfound : found ∈ w.entriesIn levels trail e) :
    (∃ levels, w.Reaches levels found.1 found.2) ∧ ∀ entries, found.2 ≠ .dir entries := by
  induction e using Entry.induction generalizing levels trail with
  | file bytes => exact h.of_mem_entriesIn_of_not_dir nofun hfound
  | link target => exact h.of_mem_entriesIn_of_not_dir nofun hfound
  | barred reason => exact h.of_mem_entriesIn_of_not_dir nofun hfound
  | dir entries ih =>
    obtain ⟨name, e, hmem, hkept, hfound⟩ := mem_entriesIn_dir.1 hfound
    exact ih (name, e) hmem (.enter h hmem hkept) hfound

/-- What is found at an entry that is reached is found by the walk. -/
theorem Reaches.entriesIn_subset (h : w.Reaches levels trail e) :
    w.entriesIn levels trail e ⊆ w.entries := by
  induction h with
  | start hstart =>
    intro found hfound
    rw [entries, hstart]
    exact hfound
  | enter _ hmem hkept ih =>
    intro found hfound
    exact ih (mem_entriesIn_dir.2 ⟨_, _, hmem, hkept, hfound⟩)

/-- **A walk yields the entries that are reached**, but for the directories it enters. -/
theorem mem_entries_iff :
    (trail, e) ∈ w.entries ↔
      (∃ levels, w.Reaches levels trail e) ∧ ∀ entries, e ≠ .dir entries := by
  constructor
  · intro h
    unfold entries at h
    split at h
    · next start hstart => exact (Reaches.start hstart).of_mem_entriesIn h
    · exact absurd h List.not_mem_nil
  · rintro ⟨⟨levels, h⟩, hdir⟩
    exact h.entriesIn_subset ((mem_entriesIn_of_not_dir hdir).2 rfl)

end Walk

/-! ## Directories without ignore files -/

namespace FileSystem

variable {fs : FileSystem} {trail : Trail} {e : Entry} {p : FilePath} {name : String}

@[simp] theorem entryAt?_standingAt (fs : FileSystem) (here trail : Trail) :
    (fs.standingAt here).entryAt? trail = fs.entryAt? trail := rfl

@[simp] theorem cwd_standingAt (fs : FileSystem) (here : Trail) :
    (fs.standingAt here).cwd = here := rfl

/-- Nothing lies at the end of a trail whose last name is not used. -/
theorem entryAt?_cons_eq_none (he : fs.entryAt? trail = some e) (h : e.child? name = none) :
    fs.entryAt? (name :: trail) = none := by
  rw [entryAt?] at he ⊢
  rw [List.reverse_cons, Entry.descend?_append, he, Option.bind_some, Entry.descend?, h,
    Option.bind_none]

/-- A relative path whose first name is not used in the working directory leads nowhere. -/
theorem locate_eq_notFound (he : fs.entryAt? trail = some e) (hdir : e.isDir = true)
    (hfirst : p.pieces.head? = some name) (hname : Component.ofSegment? name = some (.name name))
    (hrelative : p.isAbsolute = false) (h : e.child? name = none) :
    (fs.standingAt trail).locate p = .error .notFound := by
  obtain ⟨rest, hpieces⟩ := List.head?_eq_some_iff.1 hfirst
  have htext : p.text ≠ "" := by
    intro hempty
    rw [FilePath.pieces, hempty] at hpieces
    obtain ⟨rfl, -⟩ := List.cons.inj (hpieces : [""] = name :: rest)
    exact nomatch hname
  have hunused := entryAt?_cons_eq_none he h
  have hfollow : (fs.standingAt trail).follow maxLinks trail (name :: rest) =
      (fs.standingAt trail).follow maxLinks (name :: trail) rest := by
    rw [follow, entryAt?_standingAt, he]
    simp only [hdir, if_true, hname, h]
  rw [locate, resolve, if_neg htext, startOf, hrelative, if_neg Bool.false_ne_true, hpieces,
    cwd_standingAt, hfollow]
  cases rest with
  | nil => simp [follow, hunused, bind, Except.bind]
  | cons s rest => simp [follow, hunused, bind, Except.bind]

end FileSystem

/-- A directory holds none of the files that tell a walk what to ignore. -/
structure Entry.Plain (e : Entry) : Prop where
  isDir : e.isDir = true
  search : e.child? ".ignore" = none
  shared : e.child? ".gitignore" = none
  control : e.child? ".git" = none

namespace Walk

variable {w : Walk} {levels : List IgnoreLevel} {trail : Trail} {e : Entry}

theorem ignoreFile_eq_nil {fs : FileSystem} {p : FilePath}
    (h : fs.locate p = .error .notFound) : ignoreFile fs p = [] := by
  have hbytes : fs.readBytes p = .error .notFound := by
    rw [FileSystem.readBytes, h]
    rfl
  rw [ignoreFile, hbytes]

/-- A directory that holds no ignore files adds none. -/
theorem level_of_plain (he : w.fs.entryAt? trail = some e) (h : e.Plain) (base : IgnoreBase) :
    w.level base trail = ⟨base, [], [], []⟩ := by
  have hmissing : ∀ {p : FilePath} {name : String}, p.pieces.head? = some name →
      Component.ofSegment? name = some (.name name) → p.isAbsolute = false →
      e.child? name = none → (w.fs.standingAt trail).locate p = .error .notFound :=
    FileSystem.locate_eq_notFound he h.isDir
  have hsearch : (w.fs.standingAt trail).locate ⟨".ignore"⟩ = .error .notFound :=
    hmissing (by decide +kernel) (by decide) (by decide +kernel) h.search
  have hshared : (w.fs.standingAt trail).locate ⟨".gitignore"⟩ = .error .notFound :=
    hmissing (by decide +kernel) (by decide) (by decide +kernel) h.shared
  have hcontrol : (w.fs.standingAt trail).locate controlName = .error .notFound :=
    hmissing (by decide +kernel) (by decide) (by decide +kernel) h.control
  have hexcludes : (w.fs.standingAt trail).locate (controlName.join excludesName) =
      .error .notFound :=
    hmissing (by decide +kernel) (by decide) (by decide +kernel) h.control
  have hlocal : localFile w.fs trail = [] := by
    have hfile : (w.fs.standingAt trail).isFile controlName = false := by
      rw [FileSystem.isFile, hcontrol]
    simp only [localFile, hfile, Bool.false_eq_true, if_false, ignoreFile_eq_nil hexcludes]
  simp only [level, ignoreFile_eq_nil hsearch, ignoreFile_eq_nil hshared, hlocal, ite_self]

/-- Where there are no ignore files nothing is ignored. -/
theorem ignores_eq_false (h : ∀ l ∈ levels, ∃ base, l = ⟨base, [], [], []⟩) :
    w.ignores levels trail e = false := by
  have hverdict : verdict? levels trail (w.pathOf trail) e.isDir = none := by
    rw [verdict?, List.findSome?_eq_none_iff]
    intro file hfile
    rw [List.findSome?_eq_none_iff]
    intro l hl
    obtain ⟨base, rfl⟩ := h l hl
    simp only [List.mem_cons, List.not_mem_nil, or_false] at hfile
    rcases hfile with rfl | rfl | rfl <;> rfl
  rw [ignores, hverdict]
  rfl

end Walk

end ForbiddenCalls
