import ForbiddenCalls.Discovery.Basic
import ForbiddenCalls.Proofs.DirectoryWalk
import ForbiddenCalls.Proofs.Results
import ForbiddenCalls.Proofs.StableSort

/-!
# Which files are collected

A search takes the files that it is given and those that it finds below the directories that
it is given.  It collects each of them once, in the order of the paths and in one spelling.
So what is collected depends on the set of the given paths only, and is put together from
what is collected for each (`Discovery.collect_iff`).

Paths are compared by their components throughout: `FilePath.same` says that two spellings
are one path, and `Discovered.Has` that a path is among the collected files in one of its
spellings.
-/

namespace ForbiddenCalls

/-! ## Spellings -/

namespace FilePath

variable {p q : FilePath} {ps qs : List FilePath}

theorem same_iff : p.same q = true ↔ p.components = q.components := beq_iff_eq

instance : Std.TransCmp order := inferInstanceAs (Std.TransCmp (compareOn components))

/-- Paths in strictly increasing order are no two spellings of one path. -/
theorem not_same_of_order (h : p.order q = .lt) : p.same q = false := by
  refine Bool.eq_false_iff.2 fun hsame => ?_
  exact nomatch (order_eq_eq.2 (same_iff.1 hsame)).symm.trans h

/-- Lists of paths in strictly increasing order have the same components if they have the
same paths. -/
theorem map_components_eq (hps : ps.Pairwise fun p q => p.order q = .lt)
    (hqs : qs.Pairwise fun p q => p.order q = .lt)
    (h : ∀ p, (∃ f ∈ ps, f.same p = true) ↔ ∃ f ∈ qs, f.same p = true) :
    ps.map components = qs.map components := by
  have hirrefl : ∀ {a b : List Component}, compare a b = .lt → a ≠ b := fun hlt heq =>
    nomatch (Std.compare_eq_iff_eq.2 heq).symm.trans hlt
  have hmem : ∀ p : FilePath, p.components ∈ ps.map components ↔
      p.components ∈ qs.map components := by
    simpa only [same_iff, ← List.mem_map] using h
  have hperm : (ps.map components).Perm (qs.map components) := by
    refine (List.perm_ext_iff_of_nodup (List.pairwise_map.2 (hps.imp hirrefl))
      (List.pairwise_map.2 (hqs.imp hirrefl))).2 fun a => ⟨fun ha => ?_, fun ha => ?_⟩
    · obtain ⟨p, -, rfl⟩ := List.mem_map.1 ha
      exact (hmem p).1 ha
    · obtain ⟨p, -, rfl⟩ := List.mem_map.1 ha
      exact (hmem p).2 ha
  have hps' : (ps.map components).Pairwise fun a b => compare a b = .lt := List.pairwise_map.2 hps
  have hqs' : (qs.map components).Pairwise fun a b => compare a b = .lt := List.pairwise_map.2 hqs
  refine hperm.eq_of_pairwise (fun a b _ _ hab hba => ?_) hps' hqs'
  exact absurd hba (Std.OrientedCmp.not_lt_of_lt hab)

end FilePath

/-- A path leads neither to a file nor to a directory. -/
def FileSystem.LeadsNowhere (fs : FileSystem) (p : FilePath) : Prop :=
  fs.isFile p = false ∧ fs.isDir p = false

namespace Discovered

/-- Whether a path is among the collected files, in one of its spellings. -/
def Has (found : Discovered) (p : FilePath) : Prop := ∃ f ∈ found.files, f.same p = true

/-- The same files in the same order, but for their spellings, and the same failures, but for
how often each is recorded. -/
structure Agrees (found other : Discovered) : Prop where
  files : found.files.map FilePath.components = other.files.map FilePath.components
  unreadable : ∀ x, x ∈ found.unreadable ↔ x ∈ other.unreadable

end Discovered

namespace Discovery

variable {d : Discovery} {fs : FileSystem} {paths : List FilePath} {p q root : FilePath}
  {start : Trail} {found part : Discovered} {e : DiscoveryError}

/-! ## One spelling for each path -/

theorem firstSpellings_sublist (ps : List FilePath) : (firstSpellings ps).Sublist ps := by
  induction ps using firstSpellings.induct with
  | case1 => rw [firstSpellings]
  | case2 p => rw [firstSpellings]
  | case3 p q rest hsame ih =>
    rw [firstSpellings, if_pos hsame]
    exact ih.trans ((List.sublist_cons_self q rest).cons_cons p)
  | case4 p q rest hsame ih =>
    rw [firstSpellings, if_neg hsame]
    exact ih.cons_cons p

theorem exists_mem_firstSpellings_iff {ps : List FilePath} :
    (∃ f ∈ firstSpellings ps, f.same p = true) ↔ ∃ f ∈ ps, f.same p = true := by
  induction ps using firstSpellings.induct with
  | case1 => rw [firstSpellings]
  | case2 f => rw [firstSpellings]
  | case3 f g rest hsame ih =>
    rw [firstSpellings, if_pos hsame, ih]
    simp only [List.exists_mem_cons_iff, FilePath.same_iff, FilePath.same_iff.1 hsame]
    rw [← or_assoc, or_self]
  | case4 f g rest hsame ih =>
    rw [firstSpellings, if_neg hsame, List.exists_mem_cons_iff, ih]
    exact (List.exists_mem_cons_iff (fun f => f.same p = true) f (g :: rest)).symm

/-- In a sorted list the spellings of one path are neighbours. -/
theorem pairwise_firstSpellings {ps : List FilePath}
    (h : ps.Pairwise fun p q => (p.order q).isLE = true) :
    (firstSpellings ps).Pairwise fun p q => p.order q = .lt := by
  induction ps using firstSpellings.induct with
  | case1 => rw [firstSpellings]; exact .nil
  | case2 p => rw [firstSpellings]; exact List.pairwise_singleton _ p
  | case3 p q rest hsame ih =>
    rw [firstSpellings, if_pos hsame]
    exact ih (h.sublist ((List.sublist_cons_self q rest).cons_cons p))
  | case4 p q rest hsame ih =>
    rw [firstSpellings, if_neg hsame, List.pairwise_cons]
    -- in a sorted list only one path in two spellings keeps this from being strict
    have hpq : p.order q = .lt := by
      refine Ordering.isLE_iff_eq_lt_or_eq_eq.1 (List.rel_of_pairwise_cons h List.mem_cons_self)
        |>.resolve_right fun heq => hsame ?_
      exact FilePath.same_iff.2 (FilePath.order_eq_eq.1 heq)
    refine ⟨fun r hr => ?_, ih h.of_cons⟩
    rcases List.mem_cons.1 ((firstSpellings_sublist _).subset hr) with rfl | hr
    · exact hpq
    · exact Std.TransCmp.lt_of_lt_of_isLE hpq (List.rel_of_pairwise_cons h.of_cons hr)

theorem pairwise_sortedPaths (ps : List FilePath) :
    (sortedPaths ps).Pairwise fun p q => p.order q = .lt :=
  pairwise_firstSpellings (pairwise_sortBy FilePath.order ps)

theorem exists_mem_sortedPaths_iff {ps : List FilePath} :
    (∃ f ∈ sortedPaths ps, f.same p = true) ↔ ∃ f ∈ ps, f.same p = true := by
  rw [sortedPaths, exists_mem_firstSpellings_iff]
  simp only [List.mem_mergeSort]

/-! ## One path -/

/-- The walk from the directory that a path leads to. -/
def walkFrom (d : Discovery) (fs : FileSystem) (root : FilePath) (start : Trail) : Walk :=
  ⟨fs, root, start, d.versionControl⟩

/-- A file below a directory is kept if a walk from there reaches it and no exclude pattern
accepts its path below the directory, with or without a slash in front. -/
def KeptBelow (d : Discovery) (fs : FileSystem) (root f : FilePath) : Prop :=
  ∃ start, fs.dirTrail? root = some start ∧ ∃ levels trail entry,
    (d.walkFrom fs root start).Reaches levels trail entry ∧
    (d.walkFrom fs root start).leadsToFile trail entry = true ∧
    f = (d.walkFrom fs root start).pathOf trail ∧
    ∀ g ∈ d.exclude, g.accepts (start.below trail) = false ∧
      g.accepts ("/" ++ start.below trail) = false

/-- A file is found below a directory if it is kept there and has one of the extensions. -/
structure FoundBelow (d : Discovery) (fs : FileSystem) (root f : FilePath) : Prop where
  kept : d.KeptBelow fs root f
  nonempty : f.dottedExtension ≠ ""
  wanted : f.dottedExtension ∈ d.extensions

theorem wants_iff :
    d.wants p = true ↔ p.dottedExtension ≠ "" ∧ p.dottedExtension ∈ d.extensions := by
  rw [wants, Bool.and_eq_true, bne_iff_ne, List.contains_iff_mem]

theorem excludes_eq_false_iff {relative : String} : d.excludes relative = false ↔
    ∀ g ∈ d.exclude, g.accepts relative = false ∧ g.accepts ("/" ++ relative) = false := by
  simp only [excludes, List.any_eq_false, Bool.or_eq_true, not_or, Bool.not_eq_true]

theorem takes_iff {w : Walk} {trail : Trail} {entry : Entry} :
    d.takes w trail entry = true ↔ w.leadsToFile trail entry = true ∧
      d.wants (w.pathOf trail) = true ∧ d.excludes (w.startTrail.below trail) = false := by
  rw [takes, Bool.and_eq_true, Bool.and_eq_true, Bool.not_eq_true', and_assoc]

/-- A walk never enters what leads to a file. -/
theorem ne_dir_of_leadsToFile {w : Walk} {trail : Trail} {entry : Entry}
    (h : w.leadsToFile trail entry = true) (entries : List (String × Entry)) :
    entry ≠ .dir entries := by
  rintro rfl
  exact nomatch h

theorem mem_files_among_iff (hstart : fs.dirTrail? root = some start) {f : FilePath} :
    f ∈ (d.among (d.walkFrom fs root start)).files ↔ d.FoundBelow fs root f := by
  simp only [among, List.mem_map, List.mem_filter, Prod.exists, takes_iff, wants_iff,
    excludes_eq_false_iff, Walk.mem_entries_iff]
  constructor
  · rintro ⟨trail, entry, ⟨⟨⟨levels, hreach⟩, -⟩, hfile, ⟨hext, hwanted⟩, hkept⟩, rfl⟩
    exact ⟨⟨start, hstart, levels, trail, entry, hreach, hfile, rfl, hkept⟩, hext, hwanted⟩
  · rintro ⟨⟨start', hstart', levels, trail, entry, hreach, hfile, rfl, hkept⟩, hext, hwanted⟩
    obtain rfl := Option.some.inj (hstart.symm.trans hstart')
    exact ⟨trail, entry, ⟨⟨⟨levels, hreach⟩, ne_dir_of_leadsToFile hfile⟩, hfile,
      ⟨hext, hwanted⟩, hkept⟩, rfl⟩

theorem isDir_of_dirTrail? (h : fs.dirTrail? p = some start) : fs.isDir p = true := by
  rw [FileSystem.isDir, h, Option.isSome_some]

/-- What leads to a directory does not lead to a file. -/
theorem isFile_of_dirTrail? (h : fs.dirTrail? p = some start) : fs.isFile p = false := by
  unfold FileSystem.dirTrail? at h
  unfold FileSystem.isFile
  split at h
  · next trail entry hlocate =>
    cases entry with
    | file bytes => exact nomatch h
    | link target => rw [hlocate]
    | dir entries => rw [hlocate]
    | barred reason => rw [hlocate]
  · exact nomatch h

theorem look_of_isFile (h : fs.isFile p = true) : d.look fs p = .ok { files := [p] } :=
  if_pos h

theorem look_of_dirTrail (h : fs.dirTrail? p = some start) :
    d.look fs p = .ok (d.among (d.walkFrom fs p start)) := by
  rw [look, isFile_of_dirTrail? h, if_neg Bool.false_ne_true, h, walkFrom]

theorem look_of_leadsNowhere (h : fs.LeadsNowhere p) : d.look fs p = .error (.missing p) := by
  have hdir : fs.dirTrail? p = none :=
    Option.isNone_iff_eq_none.1 (Option.isSome_eq_false_iff.1 h.2)
  rw [look, h.1, if_neg Bool.false_ne_true, hdir]

/-- A path leads to a file, to a directory, or nowhere. -/
theorem leads_cases (fs : FileSystem) (p : FilePath) :
    fs.isFile p = true ∨ (∃ start, fs.dirTrail? p = some start) ∨ fs.LeadsNowhere p := by
  cases hfile : fs.isFile p with
  | true => exact .inl rfl
  | false =>
    cases hdir : fs.isDir p with
    | true => exact .inr (.inl (Option.isSome_iff_exists.1 hdir))
    | false => exact .inr (.inr ⟨hfile, hdir⟩)

theorem look_eq_error_iff : d.look fs p = .error e ↔ fs.LeadsNowhere p ∧ e = .missing p := by
  rcases leads_cases fs p with h | ⟨start, h⟩ | h
  · rw [look_of_isFile h, FileSystem.LeadsNowhere, h]
    exact iff_of_false nofun nofun
  · rw [look_of_dirTrail h, FileSystem.LeadsNowhere, isDir_of_dirTrail? h]
    exact iff_of_false nofun nofun
  · rw [look_of_leadsNowhere h, Except.error.injEq, eq_comm]
    exact (and_iff_right h).symm

theorem exists_look_eq_ok_iff : (∃ part, d.look fs p = .ok part) ↔ ¬ fs.LeadsNowhere p := by
  constructor
  · rintro ⟨part, hpart⟩ h
    exact nomatch hpart.symm.trans (look_of_leadsNowhere h)
  · intro h
    cases hlook : d.look fs p with
    | ok part => exact ⟨part, rfl⟩
    | error e => exact absurd (look_eq_error_iff.1 hlook).1 h

/-- A file is reached from a path if it is that path, or is found below it. -/
inductive ReachedFrom (d : Discovery) (fs : FileSystem) (q : FilePath) : FilePath → Prop
  | itself : fs.isFile q = true → ReachedFrom d fs q q
  | below {f : FilePath} : d.FoundBelow fs q f → ReachedFrom d fs q f

/-- **A path has the files that are reached from it.** -/
theorem mem_files_iff_of_look (h : d.look fs q = .ok part) {f : FilePath} :
    f ∈ part.files ↔ d.ReachedFrom fs q f := by
  rcases leads_cases fs q with hfile | ⟨start, hstart⟩ | hnowhere
  · obtain rfl := Except.ok.inj ((look_of_isFile hfile).symm.trans h)
    constructor
    · intro hf
      obtain rfl := List.mem_singleton.1 hf
      exact .itself hfile
    · rintro (_ | ⟨⟨start, hstart, -⟩, -, -⟩)
      · exact List.mem_cons_self
      · exact nomatch hfile.symm.trans (isFile_of_dirTrail? hstart)
  · obtain rfl := Except.ok.inj ((look_of_dirTrail hstart).symm.trans h)
    rw [mem_files_among_iff hstart]
    constructor
    · exact .below
    · rintro (hfile | hbelow)
      · exact nomatch hfile.symm.trans (isFile_of_dirTrail? hstart)
      · exact hbelow
  · exact nomatch (look_of_leadsNowhere hnowhere).symm.trans h

/-- A path has itself for a file, or the files that are found below it. -/
theorem has_iff_of_look (h : d.look fs q = .ok part) :
    part.Has p ↔
      fs.isFile q = true ∧ q.same p = true ∨ ∃ f, d.FoundBelow fs q f ∧ f.same p = true := by
  simp only [Discovered.Has, mem_files_iff_of_look h]
  constructor
  · rintro ⟨f, hfile | hbelow, hsame⟩
    · exact .inl ⟨hfile, hsame⟩
    · exact .inr ⟨f, hbelow, hsame⟩
  · rintro (⟨hfile, hsame⟩ | ⟨f, hbelow, hsame⟩)
    · exact ⟨q, .itself hfile, hsame⟩
    · exact ⟨f, .below hbelow, hsame⟩

/-! ## All paths -/

/-- What is found for some paths, put together. -/
def merged (parts : List Discovered) : Discovered where
  files := sortedPaths (parts.flatMap Discovered.files)
  unreadable := Failure.sorted (parts.flatMap Discovered.unreadable)

theorem collect_eq_ok_iff :
    d.collect fs paths = .ok found ↔
      ∃ parts, paths.mapM (d.look fs) = .ok parts ∧ merged parts = found := by
  unfold collect
  cases paths.mapM (d.look fs) <;> simp [bind, Except.bind, pure, Except.pure, merged]

theorem collect_eq_error_iff :
    d.collect fs paths = .error e ↔ paths.mapM (d.look fs) = .error e := by
  unfold collect
  cases paths.mapM (d.look fs) <;> simp [bind, Except.bind, pure, Except.pure]

/-- There is a result if every path leads to a file or a directory. -/
theorem exists_collect_eq_ok_iff :
    (∃ found, d.collect fs paths = .ok found) ↔ ∀ q ∈ paths, ¬ fs.LeadsNowhere q := by
  simp only [collect_eq_ok_iff, exists_comm (α := Discovered), ← exists_look_eq_ok_iff (d := d),
    ← exists_mapM_eq_ok_iff]
  exact ⟨fun ⟨parts, _, h, _⟩ => ⟨parts, h⟩, fun ⟨parts, h⟩ => ⟨parts, _, h, rfl⟩⟩

theorem has_merged_iff {parts : List Discovered} :
    (merged parts).Has p ↔ ∃ part ∈ parts, part.Has p := by
  rw [Discovered.Has, merged, exists_mem_sortedPaths_iff]
  simp only [Discovered.Has, List.mem_flatMap]
  constructor
  · rintro ⟨f, ⟨part, hpart, hf⟩, hsame⟩
    exact ⟨part, hpart, f, hf, hsame⟩
  · rintro ⟨part, hpart, f, hf, hsame⟩
    exact ⟨f, ⟨part, hpart, hf⟩, hsame⟩

theorem pairwise_files_of_collect (h : d.collect fs paths = .ok found) :
    found.files.Pairwise fun p q => p.order q = .lt := by
  obtain ⟨parts, -, rfl⟩ := collect_eq_ok_iff.1 h
  exact pairwise_sortedPaths _

/-- What was found for some path is what was found for one of the paths. -/
theorem exists_part_iff {parts : List Discovered} (hparts : paths.mapM (d.look fs) = .ok parts)
    (P : Discovered → Prop) :
    (∃ part ∈ parts, P part) ↔ ∃ q ∈ paths, ∃ part, d.look fs q = .ok part ∧ P part := by
  simp only [mem_iff_of_mapM_eq_ok hparts]
  constructor
  · rintro ⟨part, ⟨q, hq, hlook⟩, hpart⟩
    exact ⟨q, hq, part, hlook, hpart⟩
  · rintro ⟨q, hq, part, hlook, hpart⟩
    exact ⟨part, ⟨q, hq, hlook⟩, hpart⟩

/-- What is collected comes from one of the paths. -/
theorem has_iff_of_collect (h : d.collect fs paths = .ok found) :
    found.Has p ↔ ∃ q ∈ paths, ∃ part, d.look fs q = .ok part ∧ part.Has p := by
  obtain ⟨parts, hparts, rfl⟩ := collect_eq_ok_iff.1 h
  rw [has_merged_iff, exists_part_iff hparts]

theorem mem_unreadable_iff_of_collect (h : d.collect fs paths = .ok found) {x : Failure} :
    x ∈ found.unreadable ↔ ∃ q ∈ paths, ∃ part, d.look fs q = .ok part ∧ x ∈ part.unreadable := by
  obtain ⟨parts, hparts, rfl⟩ := collect_eq_ok_iff.1 h
  rw [merged, Failure.sorted, List.mem_mergeSort, List.mem_flatMap, exists_part_iff hparts]

/-- What is collected depends on the set of the paths. -/
theorem agrees_of_mem_iff {others : List FilePath} {other : Discovered}
    (hfound : d.collect fs paths = .ok found) (hother : d.collect fs others = .ok other)
    (h : ∀ p, p ∈ others ↔ p ∈ paths) : other.Agrees found where
  files := FilePath.map_components_eq (pairwise_files_of_collect hother)
    (pairwise_files_of_collect hfound) fun p => by
      change other.Has p ↔ found.Has p
      rw [has_iff_of_collect hother, has_iff_of_collect hfound]
      simp only [h]
  unreadable x := by
    rw [mem_unreadable_iff_of_collect hother, mem_unreadable_iff_of_collect hfound]
    simp only [h]

/-- **Which files are collected.**  The search fails with the first path that leads neither to
a file nor to a directory, and only then.  Otherwise the files are strictly increasing in
the order of paths.  They are the given files, whatever they are called, and those that are
found below one of the given directories.  So the order and the repetition of the given paths
do not matter, and what is collected for two lists of paths is what is collected for each. -/
theorem collect_iff (d : Discovery) (fs : FileSystem) (paths : List FilePath) :
    (∀ e, d.collect fs paths = .error e ↔
      ∃ before p after, paths = before ++ p :: after ∧ fs.LeadsNowhere p ∧ e = .missing p ∧
        ∀ q ∈ before, ¬ fs.LeadsNowhere q) ∧
    ∀ found, d.collect fs paths = .ok found →
      (found.files.Pairwise fun p q => p.order q = .lt ∧ p.same q = false) ∧
      (∀ p, found.Has p ↔ ∃ q ∈ paths,
        fs.isFile q = true ∧ q.same p = true ∨ ∃ f, d.FoundBelow fs q f ∧ f.same p = true) ∧
      (∀ others, (∀ p, p ∈ others ↔ p ∈ paths) →
        ∃ other, d.collect fs others = .ok other ∧ other.Agrees found) ∧
      (∀ more foundMore, d.collect fs more = .ok foundMore →
        ∃ both, d.collect fs (paths ++ more) = .ok both ∧
          (∀ p, both.Has p ↔ found.Has p ∨ foundMore.Has p) ∧
          ∀ x, x ∈ both.unreadable ↔ x ∈ found.unreadable ∨ x ∈ foundMore.unreadable) := by
  refine ⟨fun e => ?_, fun found hfound => ⟨?_, fun p => ?_, fun others h => ?_, ?_⟩⟩
  · simp only [collect_eq_error_iff, mapM_eq_error_iff, look_eq_error_iff, exists_look_eq_ok_iff,
      and_assoc]
  · exact (pairwise_files_of_collect hfound).imp fun hlt => ⟨hlt, FilePath.not_same_of_order hlt⟩
  · rw [has_iff_of_collect hfound]
    refine exists_congr fun q => and_congr_right fun hq => ?_
    have hleads : ¬ fs.LeadsNowhere q := exists_collect_eq_ok_iff.1 ⟨found, hfound⟩ q hq
    obtain ⟨part, hpart⟩ := exists_look_eq_ok_iff.2 hleads
    rw [← has_iff_of_look hpart, hpart]
    simp only [Except.ok.injEq, exists_eq_left']
  · obtain ⟨other, hother⟩ := exists_collect_eq_ok_iff.2 fun q hq =>
      exists_collect_eq_ok_iff.1 ⟨found, hfound⟩ q ((h q).1 hq)
    exact ⟨other, hother, agrees_of_mem_iff hfound hother h⟩
  · intro more foundMore hmore
    obtain ⟨both, hboth⟩ := exists_collect_eq_ok_iff.2 (List.forall_mem_append.2
      ⟨exists_collect_eq_ok_iff.1 ⟨found, hfound⟩, exists_collect_eq_ok_iff.1 ⟨foundMore, hmore⟩⟩)
    refine ⟨both, hboth, fun p => ?_, fun x => ?_⟩
    · rw [has_iff_of_collect hboth, has_iff_of_collect hfound, has_iff_of_collect hmore]
      simp only [List.mem_append, or_and_right, exists_or]
    · rw [mem_unreadable_iff_of_collect hboth, mem_unreadable_iff_of_collect hfound,
        mem_unreadable_iff_of_collect hmore]
      simp only [List.mem_append, or_and_right, exists_or]

/-! ## A small tree -/

/-- A tree with two files in a directory. -/
def sourceTree : FileSystem :=
  { root := .dir [("src", .dir [("A.java", .file .empty), ("notes.txt", .file .empty)])] }

theorem dirTrail?_sourceTree : sourceTree.dirTrail? ⟨"src"⟩ = some ["src"] := by
  have hpieces : FilePath.pieces ⟨"src"⟩ = ["src"] := by decide +kernel
  have hrelative : FilePath.isAbsolute ⟨"src"⟩ = false := by decide +kernel
  simp [FileSystem.dirTrail?, FileSystem.locate, FileSystem.resolve, hpieces, FileSystem.follow,
    FileSystem.entryAt?, sourceTree, Entry.descend?, Entry.child?, Entry.entries,
    FileSystem.startOf, hrelative, Entry.isDir, Component.ofSegment?, bind, Except.bind]

theorem isFile_sourceTree : sourceTree.isFile ⟨"src/notes.txt"⟩ = true := by
  have hpieces : FilePath.pieces ⟨"src/notes.txt"⟩ = ["src", "notes.txt"] := by decide +kernel
  have hrelative : FilePath.isAbsolute ⟨"src/notes.txt"⟩ = false := by decide +kernel
  simp [FileSystem.isFile, FileSystem.locate, FileSystem.resolve, hpieces, FileSystem.follow,
    FileSystem.entryAt?, sourceTree, Entry.descend?, Entry.child?, Entry.entries,
    FileSystem.startOf, hrelative, List.lookup_cons, Entry.isDir, Component.ofSegment?, bind,
    Except.bind]

theorem leadsNowhere_sourceTree : sourceTree.LeadsNowhere ⟨"lib"⟩ := by
  have hlocate : sourceTree.locate ⟨"lib"⟩ = .error .notFound :=
    @FileSystem.locate_eq_notFound sourceTree [] sourceTree.root ⟨"lib"⟩ "lib" rfl rfl
      (by decide +kernel) (by decide) (by decide +kernel) (by decide)
  constructor
  · rw [FileSystem.isFile, hlocate]
  · rw [FileSystem.isDir, FileSystem.dirTrail?, hlocate, Option.isSome_none]

/-- A walk through the directory reaches the first file, however the directory is spelled. -/
theorem reaches_sourceTree (d : Discovery) (root : FilePath) :
    ∃ levels, (d.walkFrom sourceTree root ["src"]).Reaches levels ["A.java", "src"]
      (.file .empty) := by
  set w := d.walkFrom sourceTree root ["src"]
  have hroot : w.fs.entryAt? [] = some sourceTree.root := rfl
  have hsrc : w.fs.entryAt? ["src"] =
      some (.dir [("A.java", .file .empty), ("notes.txt", .file .empty)]) := by rfl
  have houter : w.outerLevels = [⟨.above [], [], [], []⟩] :=
    congrArg (· :: []) (Walk.level_of_plain hroot ⟨rfl, by decide, by decide, by decide⟩ _)
  have hinner : w.level (.inside (w.pathOf ["src"])) ["src"] =
      ⟨.inside (w.pathOf ["src"]), [], [], []⟩ :=
    Walk.level_of_plain hsrc ⟨rfl, by decide, by decide, by decide⟩ _
  refine ⟨_, .enter (.start hsrc) List.mem_cons_self (Walk.ignores_eq_false ?_)⟩
  rw [Walk.levelsIn, houter, hinner]
  simp

/-- The search for sources in Java. -/
def javaFiles : Discovery := { extensions := [".java"] }

theorem keptBelow_sourceTree {d : Discovery} (h : d.exclude = []) :
    d.KeptBelow sourceTree ⟨"src"⟩ ⟨"src/A.java"⟩ := by
  obtain ⟨levels, hreach⟩ := reaches_sourceTree d ⟨"src"⟩
  have hpath : ∀ versionControl, FilePath.mk "src/A.java" =
      Walk.pathOf ⟨sourceTree, ⟨"src"⟩, ["src"], versionControl⟩ ["A.java", "src"] := by
    decide +kernel
  exact ⟨["src"], dirTrail?_sourceTree, levels, _, _, hreach, rfl, hpath d.versionControl,
    by rw [h]; exact nofun⟩

/-- The instance of a directory with a given file in it, and that of a path that leads
nowhere. -/
theorem collect_iff_sourceTree :
    (∃ found, javaFiles.collect sourceTree [⟨"src/notes.txt"⟩, ⟨"src"⟩] = .ok found ∧
      found.Has ⟨"src//A.java"⟩ ∧ found.Has ⟨"src/notes.txt"⟩) ∧
    javaFiles.collect sourceTree [⟨"src"⟩, ⟨"lib"⟩] = .error (.missing ⟨"lib"⟩) := by
  have hsrc : ¬ sourceTree.LeadsNowhere ⟨"src"⟩ := fun h =>
    nomatch (isDir_of_dirTrail? dirTrail?_sourceTree).symm.trans h.2
  constructor
  · cases hcollect : javaFiles.collect sourceTree [⟨"src/notes.txt"⟩, ⟨"src"⟩] with
    | error e =>
      obtain ⟨before, p, after, hpaths, hnowhere, -⟩ :=
        ((collect_iff javaFiles sourceTree _).1 e).1 hcollect
      have hmem : p ∈ [FilePath.mk "src/notes.txt", ⟨"src"⟩] := by
        rw [hpaths]
        exact List.mem_append_right before List.mem_cons_self
      rcases List.mem_pair.1 hmem with rfl | rfl
      · exact nomatch isFile_sourceTree.symm.trans hnowhere.1
      · exact absurd hnowhere hsrc
    | ok found =>
      obtain ⟨-, hhas, -⟩ := (collect_iff javaFiles sourceTree _).2 found hcollect
      have hfound : javaFiles.FoundBelow sourceTree ⟨"src"⟩ ⟨"src/A.java"⟩ :=
        ⟨keptBelow_sourceTree rfl, by decide +kernel, by decide +kernel⟩
      refine ⟨found, rfl, (hhas _).2 ⟨⟨"src"⟩, ?_, .inr ⟨_, hfound, ?_⟩⟩,
        (hhas _).2 ⟨⟨"src/notes.txt"⟩, ?_, .inl ⟨isFile_sourceTree, ?_⟩⟩⟩
      · exact List.mem_cons_of_mem _ List.mem_cons_self
      · decide +kernel
      · exact List.mem_cons_self
      · exact FilePath.same_self _
  · exact ((collect_iff javaFiles sourceTree _).1 _).2
      ⟨[⟨"src"⟩], ⟨"lib"⟩, [], rfl, leadsNowhere_sourceTree, rfl, List.forall_mem_singleton.2 hsrc⟩

end Discovery

end ForbiddenCalls
