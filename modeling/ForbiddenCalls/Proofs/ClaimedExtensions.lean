import ForbiddenCalls.Proofs.CollectedFiles
import ForbiddenCalls.Proofs.Examination
import ForbiddenCalls.Syntax.Language
import Mathlib.Data.List.Induction

/-!
# Extensions from the search to the language

Whether a file is of interest is asked in four places: by the search for files, which asks for
the extensions of the analyzer, by the analyzer, which joins the extensions of its adapters,
by an adapter, which lists what its languages claim, and once more by the adapter when it
looks for the language of a unit.  The answers agree.

* `Analyzer.exists_handles_iff`: an adapter handles a unit if the analyzer lists its extension.
* `Language.Agrees`: what an adapter lists, what it handles and which language it takes.
* `Analyzer.extensions_agree`: what is found below a directory is what is kept there and
  handled by an adapter, and none of it is refused for its extension.
-/

namespace ForbiddenCalls

/-! ## First occurrences -/

section Firsts

variable {α : Type} [BEq α] [LawfulBEq α] {xs : List α} {x : α}

/-- Puts an entry at the end of a list, unless it is there already. -/
def appendNew (known : List α) (x : α) : List α :=
  if known.contains x then known else known ++ [x]

theorem mem_appendNew {known : List α} {y : α} : x ∈ appendNew known y ↔ x ∈ known ∨ x = y := by
  rw [appendNew]
  split
  · next hknown =>
    rw [List.contains_iff_mem] at hknown
    exact ⟨.inl, fun h => h.elim id fun heq => heq ▸ hknown⟩
  · rw [List.mem_append, List.mem_singleton]

theorem mem_foldl_appendNew : x ∈ xs.foldl appendNew [] ↔ x ∈ xs := by
  induction xs using List.reverseRecOn with
  | nil => exact Iff.rfl
  | append_singleton xs y ih =>
    rw [List.foldl_concat, mem_appendNew, ih, List.mem_append, List.mem_singleton]

/-- Every entry is listed once, in the order of the first occurrences. -/
theorem pairwise_foldl_appendNew (xs : List α) :
    (xs.foldl appendNew []).Pairwise fun x y => xs.idxOf x < xs.idxOf y := by
  induction xs using List.reverseRecOn with
  | nil => exact .nil
  | append_singleton xs z ih =>
    have hmem : ∀ {x}, x ∈ xs.foldl appendNew [] → (xs ++ [z]).idxOf x = xs.idxOf x := fun hx =>
      List.idxOf_append_of_mem (mem_foldl_appendNew.1 hx)
    have hold : (xs.foldl appendNew []).Pairwise fun x y =>
        (xs ++ [z]).idxOf x < (xs ++ [z]).idxOf y :=
      ih.imp_of_mem fun hx hy hlt => by rwa [hmem hx, hmem hy]
    rw [List.foldl_concat, appendNew]
    split
    · exact hold
    · next hnew =>
      rw [List.contains_iff_mem, mem_foldl_appendNew] at hnew
      refine List.pairwise_append.2 ⟨hold, List.pairwise_singleton _ z, fun x hx y hy => ?_⟩
      obtain rfl := List.mem_singleton.1 hy
      rw [hmem hx, List.idxOf_append_of_notMem hnew]
      have hlt := List.idxOf_lt_length_of_mem (mem_foldl_appendNew.1 hx)
      omega

end Firsts

/-! ## One adapter -/

namespace Language

variable {ls more : List Language} {l : Language} {u : SourceUnit} {e : String}

/-- The extensions are claimed one after the other. -/
theorem claimedExtensions_eq (ls : List Language) :
    claimedExtensions ls = (ls.flatMap Language.extensions).foldl appendNew [] :=
  List.foldl_flatMap.symm

theorem mem_claimedExtensions_iff : e ∈ claimedExtensions ls ↔ ∃ l ∈ ls, e ∈ l.extensions := by
  rw [claimedExtensions_eq, mem_foldl_appendNew, List.mem_flatMap]

theorem handles_adapter_iff :
    (adapter ls).handles u = true ↔ ∃ l ∈ ls, u.extension ∈ l.extensions := by
  rw [Adapter.handles, List.contains_iff_mem]
  exact mem_claimedExtensions_iff

/-- The claimant of an extension is the earliest language that claims it. -/
theorem claimant?_eq_some_iff : claimant? ls e = some l ↔
    ∃ before after, ls = before ++ l :: after ∧ e ∈ l.extensions ∧
      ∀ l' ∈ before, e ∉ l'.extensions := by
  rw [claimant?, List.find?_eq_some_iff_append, List.contains_iff_mem]
  simp only [Bool.not_eq_true', ← Bool.not_eq_true, List.contains_iff_mem]
  constructor
  · rintro ⟨hclaims, before, after, hls, hbefore⟩
    exact ⟨before, after, hls, hclaims, hbefore⟩
  · rintro ⟨before, after, hls, hclaims, hbefore⟩
    exact ⟨hclaims, before, after, hls, hbefore⟩

/-- A unit that is handled has a claimant. -/
theorem exists_claimant (h : (adapter ls).handles u = true) :
    ∃ l, claimant? ls u.extension = some l := by
  obtain ⟨l, hl, hclaims⟩ := handles_adapter_iff.1 h
  refine Option.isSome_iff_exists.1 (List.find?_isSome.2 ⟨l, hl, ?_⟩)
  exact List.contains_iff_mem.2 hclaims

theorem traverse_of_claimant (h : claimant? ls u.extension = some l) (text : String) :
    (adapter ls).traverse u text = l.callSites u.path text := by
  simp only [adapter, h]

theorem claimant?_append (h : claimant? ls e = some l) : claimant? (ls ++ more) e = some l := by
  rw [claimant?] at h ⊢
  rw [List.find?_append, h, Option.some_or]

/-- A language refuses a text for its syntax only. -/
theorem malformed_of_callSites {file : FilePath} {text : String} {e : ParseError}
    (h : l.callSites file text = .error e) :
    ∃ line column reason, e = .malformed line column reason := by
  obtain ⟨fault, -, rfl⟩ := callSites_eq_error_iff.1 h
  exact ⟨_, _, _, rfl⟩

theorem malformed_of_traverse (hhandles : (adapter ls).handles u = true) {text : String}
    {e : ParseError} (h : (adapter ls).traverse u text = .error e) :
    ∃ line column reason, e = .malformed line column reason := by
  obtain ⟨l, hl⟩ := exists_claimant hhandles
  rw [traverse_of_claimant hl] at h
  exact malformed_of_callSites h

/-- **The adapter for a list of languages** lists every extension that one of them claims,
once and in the order of the claims.  It handles the units with these extensions, and each of
them goes to the earliest claimant, whatever other languages follow. -/
structure Agrees (ls : List Language) : Prop where
  mem_extensions_iff : ∀ e, e ∈ (adapter ls).extensions ↔ ∃ l ∈ ls, e ∈ l.extensions
  pairwise_extensions : (adapter ls).extensions.Pairwise fun e e' =>
    (ls.flatMap Language.extensions).idxOf e < (ls.flatMap Language.extensions).idxOf e'
  handles_iff : ∀ u, (adapter ls).handles u = true ↔ ∃ l ∈ ls, u.extension ∈ l.extensions
  earliest : ∀ u, (adapter ls).handles u = true → ∃ before l after, ls = before ++ l :: after ∧
    u.extension ∈ l.extensions ∧ (∀ l' ∈ before, u.extension ∉ l'.extensions) ∧
    ∀ text, (adapter ls).traverse u text = l.callSites u.path text
  append : ∀ u, (adapter ls).handles u = true → ∀ more,
    (adapter (ls ++ more)).handles u = true ∧
    ∀ text, (adapter (ls ++ more)).traverse u text = (adapter ls).traverse u text

theorem agrees (ls : List Language) : Agrees ls where
  mem_extensions_iff _ := mem_claimedExtensions_iff
  pairwise_extensions := by
    have hpairwise := pairwise_foldl_appendNew (ls.flatMap Language.extensions)
    rwa [← claimedExtensions_eq] at hpairwise
  handles_iff _ := handles_adapter_iff
  earliest u h := by
    obtain ⟨l, hl⟩ := exists_claimant h
    obtain ⟨before, after, hls, hclaims, hbefore⟩ := claimant?_eq_some_iff.1 hl
    exact ⟨before, l, after, hls, hclaims, hbefore, traverse_of_claimant hl⟩
  append u h more := by
    obtain ⟨l, hl⟩ := exists_claimant h
    obtain ⟨l', hl', hclaims⟩ := handles_adapter_iff.1 h
    refine ⟨handles_adapter_iff.2 ⟨l', List.mem_append_left more hl', hclaims⟩, fun text => ?_⟩
    rw [traverse_of_claimant hl, traverse_of_claimant (claimant?_append hl)]

end Language

/-! ## All adapters -/

theorem FilePath.dottedExtension_eq_of_same {p q : FilePath} (h : p.same q = true) :
    p.dottedExtension = q.dottedExtension := by
  rw [dottedExtension, dottedExtension, fileName?, fileName?, same_iff.1 h]

/-! The messages of the failures are told apart by their beginnings. -/

theorem ParseError.take_message_unsupported (e : String) :
    (message (.unsupported e)).toList.take 3 = ['u', 'n', 's'] := by
  change ("unsupported language for extension `" ++ e ++ "`").toList.take 3 = _
  simp

theorem ParseError.take_message_tooLarge (size limit : Nat) :
    (message (.tooLarge size limit)).toList.take 3 = ['f', 'i', 'l'] := by
  change ("file is " ++ toString size ++ " bytes, over the " ++ toString limit ++
    " byte limit").toList.take 3 = _
  simp

theorem take_unreadable (reason : String) :
    ("unreadable: " ++ reason).toList.take 3 = ['u', 'n', 'r'] := by
  simp

namespace Analyzer

variable {a : Analyzer} {u : SourceUnit} {d : Discovery} {lss : List (List Language)}

theorem mem_extensions_iff {e : String} :
    e ∈ a.extensions ↔ ∃ x ∈ a.adapters, e ∈ x.extensions := by
  rw [extensions, NameSet.mem_toList, NameSet.mem_ofList, List.mem_flatMap]

/-- An adapter handles a unit if the analyzer lists its extension. -/
theorem exists_handles_iff :
    (∃ x ∈ a.adapters, x.handles u = true) ↔ u.path.dottedExtension ∈ a.extensions := by
  simp only [mem_extensions_iff, Adapter.handles, List.contains_iff_mem, SourceUnit.extension]

/-- A unit does not fail for its extension, if an adapter handles it and refuses it for its
syntax only. -/
theorem FailsWith.ne_unsupported {f : Failure} (h : a.FailsWith u f)
    (hsupported : ¬ a.Unsupported u)
    (hrefused : ∀ e, a.Refused u e → ∃ line column reason, e = .malformed line column reason)
    (e : String) : parseFailure u (.unsupported e) ≠ f := by
  intro heq
  have hmessage : f.message.toList.take 3 = ['u', 'n', 's'] := by
    rw [← heq]
    exact ParseError.take_message_unsupported e
  -- a failure for another reason has another message, or a place
  cases h with
  | unsupported hunsupported => exact hsupported hunsupported
  | unmeasured _ _ => exact nomatch (take_unreadable _).symm.trans hmessage
  | oversized _ _ _ => exact nomatch (ParseError.take_message_tooLarge _ _).symm.trans hmessage
  | unread _ _ _ _ => exact nomatch (take_unreadable _).symm.trans hmessage
  | malformed _ _ _ => exact nomatch congrArg Failure.location heq
  | refused _ _ hr hnone =>
    obtain ⟨line, column, reason, rfl⟩ := hrefused _ hr
    exact nomatch hnone

/-- Adapters for languages never fail a unit that one of them handles for its extension. -/
theorem outcome_ne_unsupported (hadapters : a.adapters = lss.map Language.adapter)
    (h : ∃ x ∈ a.adapters, x.handles u = true) (e : String) :
    (a.examine u).outcome ≠ .error (parseFailure u (.unsupported e)) := by
  obtain ⟨x, hx, hhandles⟩ := h
  have hsupported : ¬ a.Unsupported u := fun hunsupported =>
    nomatch hhandles.symm.trans (hunsupported x hx)
  have hrefused : ∀ e, a.Refused u e → ∃ line column reason, e = .malformed line column reason := by
    rintro e ⟨y, text, hy, -, htraverse⟩
    have hmem : y ∈ lss.map Language.adapter := hadapters ▸ List.mem_of_find?_eq_some hy
    obtain ⟨ls, -, rfl⟩ := List.mem_map.1 hmem
    have hfirst := List.find?_some hy
    exact Language.malformed_of_traverse hfirst htraverse
  rcases a.examine_cases u with ⟨y, calls, -, hok⟩ | ⟨f, hf, herror⟩
  · rw [hok]
    exact nofun
  · rw [herror]
    intro heq
    exact hf.ne_unsupported hsupported hrefused e (Except.error.inj heq).symm

/-- A unit is found below a directory if it is kept there and an adapter handles it. -/
theorem exists_foundBelow_iff (hadapters : a.adapters = lss.map Language.adapter)
    (hnonempty : ∀ ls ∈ lss, ∀ l ∈ ls, "" ∉ l.extensions)
    (hextensions : d.extensions = a.extensions) {fs : FileSystem} {root : FilePath} :
    (∃ f, d.FoundBelow fs root f ∧ f.same u.path = true) ↔
      (∃ f, d.KeptBelow fs root f ∧ f.same u.path = true) ∧
        ∃ x ∈ a.adapters, x.handles u = true := by
  rw [exists_handles_iff]
  have hne : ∀ e ∈ a.extensions, e ≠ "" := by
    rintro e he rfl
    obtain ⟨x, hx, hclaimed⟩ := mem_extensions_iff.1 he
    rw [hadapters] at hx
    obtain ⟨ls, hls, rfl⟩ := List.mem_map.1 hx
    obtain ⟨l, hl, hempty⟩ := Language.mem_claimedExtensions_iff.1 hclaimed
    exact hnonempty ls hls l hl hempty
  constructor
  · rintro ⟨f, hf, hsame⟩
    have hwanted := hf.wanted
    rw [hextensions, FilePath.dottedExtension_eq_of_same hsame] at hwanted
    exact ⟨⟨f, hf.kept, hsame⟩, hwanted⟩
  · rintro ⟨⟨f, hkept, hsame⟩, hlisted⟩
    rw [← FilePath.dottedExtension_eq_of_same hsame] at hlisted
    exact ⟨f, ⟨hkept, hne _ hlisted, hextensions ▸ hlisted⟩, hsame⟩

/-- **The search, the analyzer, its adapters and their languages agree on extensions.**  Let
the adapters be for lists of languages, none of which claims the empty extension, and let the
search ask for the extensions of the analyzer.  What a walk finds below a directory is what
it keeps there and an adapter handles, so a collected file is one that was given or one that
is handled, and a kept file that is handled is collected.  An adapter never refuses the
extension of a unit that it handles, so no such unit fails for its extension. -/
theorem extensions_agree (hadapters : a.adapters = lss.map Language.adapter)
    (hnonempty : ∀ ls ∈ lss, ∀ l ∈ ls, "" ∉ l.extensions)
    (hextensions : d.extensions = a.extensions) :
    (∀ fs root start, fs.dirTrail? root = some start → ∀ u : SourceUnit,
      (∃ f ∈ (d.among (d.walkFrom fs root start)).files, f.same u.path = true) ↔
        (∃ f, d.KeptBelow fs root f ∧ f.same u.path = true) ∧
          ∃ x ∈ a.adapters, x.handles u = true) ∧
    (∀ fs paths found, d.collect fs paths = .ok found →
      (∀ u : SourceUnit, u.path ∈ found.files →
        (∃ q ∈ paths, fs.isFile q = true ∧ q.same u.path = true) ∨
          ∃ x ∈ a.adapters, x.handles u = true) ∧
      ∀ u : SourceUnit, (∃ root ∈ paths, d.KeptBelow fs root u.path) →
        (∃ x ∈ a.adapters, x.handles u = true) → found.Has u.path) ∧
    (∀ u : SourceUnit, (∃ x ∈ a.adapters, x.handles u = true) → ∀ e,
      (a.examine u).outcome ≠ .error (parseFailure u (.unsupported e))) ∧
    (∀ x ∈ a.adapters, ∀ u : SourceUnit, x.handles u = true → ∀ text e,
      x.traverse u text ≠ .error (.unsupported e)) ∧
    ∀ ls, Language.Agrees ls := by
  have hfound : ∀ {fs root} {u : SourceUnit},
      (∃ f, d.FoundBelow fs root f ∧ f.same u.path = true) ↔
        (∃ f, d.KeptBelow fs root f ∧ f.same u.path = true) ∧
          ∃ x ∈ a.adapters, x.handles u = true :=
    exists_foundBelow_iff hadapters hnonempty hextensions
  refine ⟨fun fs root start hstart u => ?_, fun fs paths found hcollect => ⟨?_, ?_⟩,
    fun u h => outcome_ne_unsupported hadapters h, fun x hx u hhandles text e htraverse => ?_,
    Language.agrees⟩
  · simp only [Discovery.mem_files_among_iff hstart, hfound]
  · intro u hu
    have hhas : found.Has u.path := ⟨u.path, hu, FilePath.same_self _⟩
    obtain ⟨q, hq, part, hlook, hpart⟩ := (Discovery.has_iff_of_collect hcollect).1 hhas
    rcases (Discovery.has_iff_of_look hlook).1 hpart with ⟨hfile, hsame⟩ | hbelow
    · exact .inl ⟨q, hq, hfile, hsame⟩
    · exact .inr (hfound.1 hbelow).2
  · rintro u ⟨root, hroot, hkept⟩ hhandles
    obtain ⟨f, hf⟩ := hfound.2 ⟨⟨u.path, hkept, FilePath.same_self _⟩, hhandles⟩
    have hleads : ¬ fs.LeadsNowhere root :=
      Discovery.exists_collect_eq_ok_iff.1 ⟨found, hcollect⟩ root hroot
    obtain ⟨part, hlook⟩ := Discovery.exists_look_eq_ok_iff.2 hleads
    exact (Discovery.has_iff_of_collect hcollect).2
      ⟨root, hroot, part, hlook, (Discovery.has_iff_of_look hlook).2 (.inr ⟨f, hf⟩)⟩
  · rw [hadapters] at hx
    obtain ⟨ls, -, rfl⟩ := List.mem_map.1 hx
    obtain ⟨line, column, reason, heq⟩ := Language.malformed_of_traverse hhandles htraverse
    exact nomatch heq

/-- An analyzer with two adapters, which both claim the extension of Java. -/
def sourceAnalyzer : Analyzer where
  registry := .empty
  adapters := [[Java.language default, Kotlin.language default], [Java.language default]].map
    Language.adapter
  maxFileBytes := 100

/-- The search for the files of this analyzer. -/
def sourceSearch : Discovery := { extensions := sourceAnalyzer.extensions }

/-- The instance of a directory with a source and another file. -/
theorem extensions_agree_sourceTree :
    let walk := sourceSearch.walkFrom Discovery.sourceTree ⟨"src"⟩ ["src"]
    (∃ f ∈ (sourceSearch.among walk).files, f.same ⟨"src/A.java"⟩ = true) ∧
      ¬ ∃ f ∈ (sourceSearch.among walk).files, f.same ⟨"src/notes.txt"⟩ = true := by
  intro walk
  have hnonempty : ∀ ls ∈ [[Java.language default, Kotlin.language default],
      [Java.language default]], ∀ l ∈ ls, "" ∉ l.extensions := by decide
  obtain ⟨hfound, -⟩ := extensions_agree (a := sourceAnalyzer) (d := sourceSearch) rfl hnonempty rfl
  have hiff := hfound Discovery.sourceTree ⟨"src"⟩ ["src"] Discovery.dirTrail?_sourceTree
  constructor
  · refine (hiff (.ofText ⟨"src/A.java"⟩ "")).2 ⟨⟨_, Discovery.keptBelow_sourceTree rfl,
      FilePath.same_self _⟩, _, List.mem_cons_self, ?_⟩
    exact Language.handles_adapter_iff.2 ⟨_, List.mem_cons_self, by decide +kernel⟩
  · intro h
    obtain ⟨-, hhandles⟩ := (hiff (.ofText ⟨"src/notes.txt"⟩ "")).1 h
    revert hhandles
    decide +kernel

end Analyzer

end ForbiddenCalls
