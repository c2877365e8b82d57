import ForbiddenCalls.Proofs.CollectedFiles
import ForbiddenCalls.Proofs.LexicalPaths
import Mathlib.Data.List.Pairwise

/-!
# Files that are listed twice

A file is named by the path that it was reached from, and two files are taken for one if their
paths have the same components.  So a file can be reached from two paths and be listed under
both.  In a tree without links the names of the two can be compared: they lead to one place,
and from a directory to a file below it a walk adds names only.  Hence the file is listed once
if and only if one of the two paths is spelled below the other
(`FilePath.components_eq_iff_spelledBelow`).

* `Discovery.ReachedFrom.leads`: what such a file is called, and where it leads.
* `Discovery.files_distinct_iff`: when no two of the collected files are one file.
* `Discovery.files_repeated_sourceTree`: a directory in two spellings.
-/

namespace ForbiddenCalls

/-! ## One walk -/

namespace Walk

variable {w : Walk} {levels : List IgnoreLevel} {trail : Trail} {e : Entry}

/-- What a walk reaches lies at the end of names below its start, and these names lead there. -/
theorem Reaches.exists_names (h : w.Reaches levels trail e) (hfree : w.fs.root.LinkFree) :
    ∃ names : List String, trail = names.reverse ++ w.startTrail ∧
      (∀ s ∈ names, IsEntryName s) ∧ w.fs.entryAt? trail = some e ∧
      ∀ links, w.fs.follow links w.startTrail names = .ok trail := by
  induction h with
  | start he =>
    refine ⟨[], rfl, nofun, he, fun links => ?_⟩
    rw [FileSystem.follow]
  | @enter levels trail entries name e _ hmem _ ih =>
    obtain ⟨names, htrail, hnames, hdir, hfollow⟩ := ih
    have hdirFree := FileSystem.linkFree_entryAt? hfree hdir
    have hname : IsEntryName name := hdirFree.isEntryName hmem
    have hstand : ∃ d, w.fs.entryAt? trail = some d ∧ d.isDir = true := ⟨_, hdir, rfl⟩
    refine ⟨names ++ [name], ?_, ?_, ?_, fun links => ?_⟩
    · rw [List.reverse_append, htrail]
      rfl
    · intro s hs
      rcases List.mem_append.1 hs with hs | hs
      · exact hnames s hs
      · rwa [List.mem_singleton.1 hs]
    · exact FileSystem.entryAt?_cons hdir (hdirFree.child?_eq hmem)
    · refine (FileSystem.follow_append_eq_ok_iff hfree).2 ⟨trail, hfollow links, ?_⟩
      refine (FileSystem.follow_cons_eq_ok_iff hfree).2 ⟨hstand, ?_⟩
      rw [hname.ofSegment?, FileSystem.follow]
      rfl

/-- The path of what lies at the end of names below the start of a walk. -/
theorem pathOf_eq_join (w : Walk) {names : List String} (hne : names ≠ []) :
    w.pathOf (names.reverse ++ w.startTrail) = w.start.join ⟨"/".intercalate names⟩ := by
  have hlength : (names.reverse ++ w.startTrail).length = names.length + w.startTrail.length := by
    rw [List.length_append, List.length_reverse]
  have hpos : 0 < names.length := List.length_pos_iff.2 hne
  have hbelow : Trail.below w.startTrail (names.reverse ++ w.startTrail) =
      "/".intercalate names := by
    rw [Trail.below, hlength, Nat.add_sub_cancel, List.take_left' List.length_reverse,
      List.reverse_reverse]
  rw [pathOf, hlength, if_neg (by omega), hbelow]

/-- **What a walk reaches is called after its start**, and its path leads to it. -/
theorem Reaches.leads (h : w.Reaches levels trail e) (hfree : w.fs.root.LinkFree)
    (hstart : w.fs.resolve w.start = .ok w.startTrail) :
    (w.pathOf trail).SpelledBelow w.start ∧ w.fs.locate (w.pathOf trail) = .ok (trail, e) := by
  obtain ⟨names, rfl, hnames, he, hfollow⟩ := h.exists_names hfree
  have htext := FileSystem.text_ne_of_resolve hstart
  by_cases hne : names = []
  · subst hne
    have hroot : w.pathOf ([].reverse ++ w.startTrail) = w.start := by
      rw [pathOf]
      exact if_pos rfl
    rw [hroot]
    exact ⟨.refl _, FileSystem.locate_eq_ok_iff.2 ⟨hstart, he⟩⟩
  · have hrelative := FilePath.isAbsolute_intercalate hne hnames
    have hpieces := FilePath.pieces_intercalate hne hnames
    rw [pathOf_eq_join w hne]
    refine ⟨⟨names, ?_⟩, FileSystem.locate_eq_ok_iff.2 ⟨?_, he⟩⟩
    · rw [FilePath.components_join htext hrelative, hpieces,
        filterMap_ofSegment?_of_isEntryName hnames]
    · refine FileSystem.resolve_join hfree hstart hrelative ?_
      rw [hpieces]
      exact hfollow _

end Walk

/-! ## Several paths -/

namespace Discovery

variable {d : Discovery} {fs : FileSystem} {paths : List FilePath} {p q f g : FilePath}
  {found : Discovered}

/-- **What a file is called, and where it leads.**  A file is spelled below the path that it is
reached from, and leads where its components say. -/
theorem ReachedFrom.leads (h : d.ReachedFrom fs q f) (hfree : fs.root.LinkFree) :
    f.SpelledBelow q ∧ ∃ bytes, fs.locate f = .ok (f.placeFrom fs.cwd, .file bytes) := by
  have hplace : ∀ {p : FilePath} {trail : Trail} {bytes : ByteArray},
      fs.locate p = .ok (trail, .file bytes) → trail = p.placeFrom fs.cwd := by
    intro p trail bytes hlocate
    exact FileSystem.resolve_eq hfree (FileSystem.locate_eq_ok_iff.1 hlocate).1
  cases h with
  | itself hfile =>
    obtain ⟨trail, bytes, hlocate⟩ := FileSystem.exists_locate_of_isFile hfile
    obtain rfl := hplace hlocate
    exact ⟨.refl q, bytes, hlocate⟩
  | below hbelow =>
    obtain ⟨start, hstart, levels, trail, entry, hreach, hfile, rfl, -⟩ := hbelow.kept
    obtain ⟨dir, hdir, -⟩ := FileSystem.exists_locate_of_dirTrail? hstart
    obtain ⟨hbelow, hlocate⟩ := hreach.leads hfree (FileSystem.locate_eq_ok_iff.1 hdir).1
    have hentry := (FileSystem.locate_eq_ok_iff.1 hlocate).2
    cases entry with
    | file bytes =>
      have htrail := hplace hlocate
      exact ⟨hbelow, bytes, htrail ▸ hlocate⟩
    | link target => exact absurd rfl ((FileSystem.linkFree_entryAt? hfree hentry).ne_link target)
    | dir entries => exact nomatch hfile
    | barred reason => exact nomatch hfile

/-- What is collected was reached from one of the paths. -/
theorem exists_reachedFrom_of_mem (h : d.collect fs paths = .ok found) (hf : f ∈ found.files) :
    ∃ q ∈ paths, d.ReachedFrom fs q f := by
  obtain ⟨parts, hparts, rfl⟩ := collect_eq_ok_iff.1 h
  have hall := List.mem_mergeSort.1 ((firstSpellings_sublist _).subset hf)
  obtain ⟨part, hpart, hf⟩ := List.mem_flatMap.1 hall
  obtain ⟨q, hq, hlook⟩ := (mem_iff_of_mapM_eq_ok hparts).1 hpart
  exact ⟨q, hq, (mem_files_iff_of_look hlook).1 hf⟩

/-- What is reached from one of the paths is collected in one of its spellings. -/
theorem exists_mem_of_reachedFrom (h : d.collect fs paths = .ok found) (hq : q ∈ paths)
    (hf : d.ReachedFrom fs q f) : ∃ g ∈ found.files, g.components = f.components := by
  have hleads : ¬ fs.LeadsNowhere q := exists_collect_eq_ok_iff.1 ⟨found, h⟩ q hq
  obtain ⟨part, hlook⟩ := exists_look_eq_ok_iff.2 hleads
  have hpart : part.Has f := ⟨f, (mem_files_iff_of_look hlook).2 hf, FilePath.same_self f⟩
  obtain ⟨g, hg, hsame⟩ := (has_iff_of_collect h).2 ⟨q, hq, part, hlook, hpart⟩
  exact ⟨g, hg, FilePath.same_iff.1 hsame⟩

/-- No two of some files are one file. -/
def Distinct (fs : FileSystem) (files : List FilePath) : Prop :=
  files.Pairwise fun f g => fs.resolve f ≠ fs.resolve g

theorem ReachedFrom.resolve_eq (h : d.ReachedFrom fs q f) (hfree : fs.root.LinkFree) :
    fs.resolve f = .ok (f.placeFrom fs.cwd) := by
  obtain ⟨-, bytes, hlocate⟩ := h.leads hfree
  exact (FileSystem.locate_eq_ok_iff.1 hlocate).1

/-- The collected files are distinct if a file has one path only, from wherever it is reached. -/
theorem distinct_iff_components_eq (hfree : fs.root.LinkFree)
    (h : d.collect fs paths = .ok found) :
    Distinct fs found.files ↔ ∀ p ∈ paths, ∀ q ∈ paths, ∀ f g, d.ReachedFrom fs p f →
      d.ReachedFrom fs q g → fs.resolve f = fs.resolve g → f.components = g.components := by
  constructor
  · intro hdistinct p hp q hq f g hf hg hsame
    obtain ⟨f', hf', hfComponents⟩ := exists_mem_of_reachedFrom h hp hf
    obtain ⟨g', hg', hgComponents⟩ := exists_mem_of_reachedFrom h hq hg
    obtain ⟨_, -, hreachF⟩ := exists_reachedFrom_of_mem h hf'
    obtain ⟨_, -, hreachG⟩ := exists_reachedFrom_of_mem h hg'
    have hsame' : fs.resolve f' = fs.resolve g' := by
      rw [hreachF.resolve_eq hfree, hreachG.resolve_eq hfree,
        FilePath.placeFrom_eq_of_components_eq fs.cwd hfComponents,
        FilePath.placeFrom_eq_of_components_eq fs.cwd hgComponents,
        ← hf.resolve_eq hfree, ← hg.resolve_eq hfree, hsame]
    have hsymm : Std.Symm fun f g : FilePath => fs.resolve f ≠ fs.resolve g :=
      ⟨fun _ _ => Ne.symm⟩
    have hone : f' = g' := by
      by_contra hne
      exact List.Pairwise.forall hdistinct hf' hg' hne hsame'
    rw [← hfComponents, ← hgComponents, hone]
  · intro hone
    refine (pairwise_files_of_collect h).imp_of_mem fun {f g} hf hg hlt hsame => ?_
    obtain ⟨p, hp, hreachF⟩ := exists_reachedFrom_of_mem h hf
    obtain ⟨q, hq, hreachG⟩ := exists_reachedFrom_of_mem h hg
    have heq := FilePath.order_eq_eq.2 (hone p hp q hq f g hreachF hreachG hsame)
    exact nomatch heq.symm.trans hlt

/-- **When every file is collected once.**  In a tree without links every collected path leads to
a file, and to where its components say.  No two of them lead to the same file if and only if of
any two given paths that a file is reached from, one is spelled below the other.  That is so
where all the given paths are spelled below one path, say all with names only, or all with `.`
in front of names. -/
theorem files_distinct_iff (hfree : fs.root.LinkFree) (h : d.collect fs paths = .ok found) :
    (∀ f ∈ found.files, ∃ bytes, fs.locate f = .ok (f.placeFrom fs.cwd, .file bytes)) ∧
    (Distinct fs found.files ↔ ∀ p ∈ paths, ∀ q ∈ paths, ∀ f g, d.ReachedFrom fs p f →
      d.ReachedFrom fs q g → fs.resolve f = fs.resolve g →
        p.SpelledBelow q ∨ q.SpelledBelow p) ∧
    ((∃ root : FilePath, ∀ q ∈ paths, q.SpelledBelow root) → Distinct fs found.files) := by
  refine ⟨fun f hf => ?_, ?_, ?_⟩
  · obtain ⟨q, -, hreach⟩ := exists_reachedFrom_of_mem h hf
    exact (hreach.leads hfree).2
  · rw [distinct_iff_components_eq hfree h]
    refine forall₂_congr fun p _ => forall₂_congr fun q _ => forall₄_congr fun f g hf hg => ?_
    refine forall_congr' fun hsame => ?_
    rw [hf.resolve_eq hfree, hg.resolve_eq hfree, Except.ok.injEq] at hsame
    exact FilePath.components_eq_iff_spelledBelow (hf.leads hfree).1 (hg.leads hfree).1 hsame
  · rintro ⟨root, hroot⟩
    rw [distinct_iff_components_eq hfree h]
    intro p hp q hq f g hf hg hsame
    rw [hf.resolve_eq hfree, hg.resolve_eq hfree, Except.ok.injEq] at hsame
    exact FilePath.components_eq_of_placeFrom_eq ((hf.leads hfree).1.trans (hroot p hp))
      ((hg.leads hfree).1.trans (hroot q hq)) hsame

/-! ## A directory in two spellings -/

theorem not_leadsNowhere_of_dirTrail? {start : Trail} (h : fs.dirTrail? p = some start) :
    ¬ fs.LeadsNowhere p := by
  intro hnowhere
  have hdir := (isDir_of_dirTrail? h).symm.trans hnowhere.2
  contradiction

theorem linkFree_sourceTree : sourceTree.root.LinkFree := by
  have hfile : ∀ p ∈ [("A.java", Entry.file .empty), ("notes.txt", Entry.file .empty)],
      p.2.LinkFree := by
    intro p hp
    rcases List.mem_pair.1 hp with rfl | rfl
    · exact .file _
    · exact .file _
  have hnames : ∀ p ∈ [("A.java", Entry.file .empty), ("notes.txt", Entry.file .empty)],
      IsEntryName p.1 := by
    intro p hp
    rcases List.mem_pair.1 hp with rfl | rfl
    · exact ⟨by decide, by decide +kernel⟩
    · exact ⟨by decide, by decide +kernel⟩
  refine .dir (List.nodup_singleton _) ?_ ?_
  · exact List.forall_mem_singleton.2 ⟨by decide, by decide +kernel⟩
  · refine List.forall_mem_singleton.2 (.dir ?_ hnames hfile)
    simp only [List.map_cons, List.map_nil]
    decide

/-- The instance of a directory and a file in it that are both given. -/
theorem files_distinct_iff_sourceTree :
    sourceTree.root.LinkFree ∧
    ∃ found, javaFiles.collect sourceTree [⟨"src/notes.txt"⟩, ⟨"src"⟩] = .ok found ∧
      Distinct sourceTree found.files := by
  have hleads : ∀ q ∈ [FilePath.mk "src/notes.txt", ⟨"src"⟩], ¬ sourceTree.LeadsNowhere q := by
    intro q hq
    rcases List.mem_pair.1 hq with rfl | rfl
    · intro hnowhere
      have hfile := isFile_sourceTree.symm.trans hnowhere.1
      contradiction
    · exact not_leadsNowhere_of_dirTrail? dirTrail?_sourceTree
  obtain ⟨found, hfound⟩ := (exists_collect_eq_ok_iff (d := javaFiles)).2 hleads
  obtain ⟨-, -, hdistinct⟩ := files_distinct_iff linkFree_sourceTree hfound
  refine ⟨linkFree_sourceTree, found, hfound, hdistinct ⟨⟨""⟩, fun q hq => ?_⟩⟩
  rcases List.mem_pair.1 hq with rfl | rfl
  · exact ⟨["src", "notes.txt"], by decide +kernel⟩
  · exact ⟨["src"], by decide +kernel⟩

theorem dirTrail?_sourceTree_here : sourceTree.dirTrail? ⟨"./src"⟩ = some ["src"] := by
  have hpieces : FilePath.pieces ⟨"./src"⟩ = [".", "src"] := by decide +kernel
  have hrelative : FilePath.isAbsolute ⟨"./src"⟩ = false := by decide +kernel
  simp [FileSystem.dirTrail?, FileSystem.locate, FileSystem.resolve, hpieces, FileSystem.follow,
    FileSystem.entryAt?, sourceTree, Entry.descend?, Entry.child?, Entry.entries,
    FileSystem.startOf, hrelative, Entry.isDir, Component.ofSegment?, bind, Except.bind]

/-- A file in the directory is reached from both spellings of it. -/
theorem reachedFrom_sourceTree {root f : FilePath} (hroot : sourceTree.dirTrail? root = some ["src"])
    (hpath : f = (javaFiles.walkFrom sourceTree root ["src"]).pathOf ["A.java", "src"])
    (hext : f.dottedExtension = ".java") : javaFiles.ReachedFrom sourceTree root f := by
  obtain ⟨levels, hreach⟩ := reaches_sourceTree javaFiles root
  refine .below ⟨⟨["src"], hroot, levels, _, _, hreach, rfl, hpath, nofun⟩, ?_, ?_⟩
  · rw [hext]
    decide
  · rw [hext]
    exact List.mem_cons_self

/-- **A directory that is given in two spellings** has its files collected twice. -/
theorem files_repeated_sourceTree :
    sourceTree.root.LinkFree ∧
    (∀ q ∈ [FilePath.mk "src", ⟨"./src"⟩], q.isAbsolute = false) ∧
    ∃ found, javaFiles.collect sourceTree [⟨"src"⟩, ⟨"./src"⟩] = .ok found ∧
      ¬ Distinct sourceTree found.files := by
  have hleads : ∀ q ∈ [FilePath.mk "src", ⟨"./src"⟩], ¬ sourceTree.LeadsNowhere q := by
    intro q hq
    rcases List.mem_pair.1 hq with rfl | rfl
    · exact not_leadsNowhere_of_dirTrail? dirTrail?_sourceTree
    · exact not_leadsNowhere_of_dirTrail? dirTrail?_sourceTree_here
  obtain ⟨found, hfound⟩ := (exists_collect_eq_ok_iff (d := javaFiles)).2 hleads
  refine ⟨linkFree_sourceTree, ?_, found, hfound, fun hdistinct => ?_⟩
  · intro q hq
    rcases List.mem_pair.1 hq with rfl | rfl
    · decide +kernel
    · decide +kernel
  · have hplain : javaFiles.ReachedFrom sourceTree ⟨"src"⟩ ⟨"src/A.java"⟩ :=
      reachedFrom_sourceTree dirTrail?_sourceTree (by decide +kernel) (by decide +kernel)
    have hhere : javaFiles.ReachedFrom sourceTree ⟨"./src"⟩ ⟨"./src/A.java"⟩ :=
      reachedFrom_sourceTree dirTrail?_sourceTree_here (by decide +kernel) (by decide +kernel)
    have hsame : sourceTree.resolve ⟨"src/A.java"⟩ = sourceTree.resolve ⟨"./src/A.java"⟩ := by
      rw [hplain.resolve_eq linkFree_sourceTree, hhere.resolve_eq linkFree_sourceTree]
      have hplace : FilePath.placeFrom sourceTree.cwd ⟨"src/A.java"⟩ =
          FilePath.placeFrom sourceTree.cwd ⟨"./src/A.java"⟩ := by decide +kernel
      rw [hplace]
    have hone := (distinct_iff_components_eq linkFree_sourceTree hfound).1 hdistinct _
      List.mem_cons_self _ (List.mem_cons_of_mem _ List.mem_cons_self) _ _ hplain hhere hsame
    exact absurd hone (by decide +kernel)

end Discovery

end ForbiddenCalls
