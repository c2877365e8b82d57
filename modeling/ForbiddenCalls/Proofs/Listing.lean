import ForbiddenCalls.Proofs.StableSort
import ForbiddenCalls.Report.FindingLog

/-!
# The listing of a run

A log is written by reports and read as a sorted list.  In between it keeps the
first finding of each key.  This file says the same without a log: the list of a
log is `Finding.firsts` of the reported findings, and its results are these,
sorted.

* `FindingLog.toList_reportAll`: what a log holds after a list of reports.
* `FindingLog.results_reportAll`: the results of a run that reports a list.
* `Finding.listing_congr`, `Finding.listing_congr_ruleId`: the results do not depend
  on how the findings of different files, or of different rules, follow each other.
* `Finding.listing_filter`, `Finding.listing_map`: what selections by rule, and changes
  that leave rule and location, do to the results.
-/

namespace ForbiddenCalls

/-- Among entries with pairwise different values of `f`, one is known by its value. -/
theorem filter_eq_singleton {α β : Type*} [DecidableEq β] {f : α → β} {l : List α} {a : α}
    (hnodup : (l.map f).Nodup) (ha : a ∈ l) : l.filter (fun b => f b = f a) = [a] := by
  induction l with
  | nil => exact absurd ha List.not_mem_nil
  | cons b l ih =>
    rw [List.map_cons, List.nodup_cons] at hnodup
    rcases List.mem_cons.1 ha with rfl | ha
    · have hnone : l.filter (fun b => f b = f a) = [] := by
        refine List.filter_eq_nil_iff.2 fun b hb heq => hnodup.1 ?_
        exact List.mem_map.2 ⟨b, hb, of_decide_eq_true heq⟩
      rw [List.filter_cons_of_pos (by simp), hnone]
    · have hne : f b ≠ f a := fun heq => hnodup.1 (heq ▸ List.mem_map_of_mem ha)
      rw [List.filter_cons_of_neg (by simpa using hne), ih hnodup.2 ha]

/-- The findings that a list of matches stands for. -/
def findingsOf (ms : List (CallSite × Rule)) : List Finding :=
  ms.map fun m => m.2.finding m.1

theorem findingsOf_cons (m : CallSite × Rule) (ms : List (CallSite × Rule)) :
    findingsOf (m :: ms) = m.2.finding m.1 :: findingsOf ms := rfl

namespace Finding

/-! ## The first finding of each key -/

/-- The first finding of each key, in order. -/
def firsts : List Finding → List Finding
  | [] => []
  | f :: fs => f :: (firsts fs).filter fun g => g.key != f.key

theorem firsts_sublist (fs : List Finding) : (firsts fs).Sublist fs := by
  induction fs with
  | nil => exact List.Sublist.refl []
  | cons f fs ih => exact (List.filter_sublist.trans ih).cons_cons f

theorem mem_of_mem_firsts {f : Finding} {fs : List Finding} (h : f ∈ firsts fs) : f ∈ fs :=
  (firsts_sublist fs).subset h

/-- No key is lost. -/
theorem exists_mem_firsts {f : Finding} {fs : List Finding} (h : f ∈ fs) :
    ∃ g ∈ firsts fs, g.key = f.key := by
  induction fs with
  | nil => exact absurd h List.not_mem_nil
  | cons e fs ih =>
    by_cases hkey : f.key = e.key
    · exact ⟨e, List.mem_cons_self, hkey.symm⟩
    · have hf : f ∈ fs := (List.mem_cons.1 h).resolve_left fun heq => hkey (heq ▸ rfl)
      obtain ⟨g, hg, hgf⟩ := ih hf
      refine ⟨g, List.mem_cons_of_mem e (List.mem_filter.2 ⟨hg, ?_⟩), hgf⟩
      simpa [hgf] using hkey

/-- The keys of the first findings are those of all findings. -/
theorem mem_map_key_firsts {fs : List Finding} {key : Key} :
    key ∈ (firsts fs).map Finding.key ↔ key ∈ fs.map Finding.key := by
  constructor
  · exact fun h => ((firsts_sublist fs).map Finding.key).subset h
  · intro h
    obtain ⟨f, hf, rfl⟩ := List.mem_map.1 h
    obtain ⟨g, hg, hgf⟩ := exists_mem_firsts hf
    exact hgf ▸ List.mem_map_of_mem hg

/-- No key is there twice. -/
theorem nodup_firsts (fs : List Finding) : ((firsts fs).map key).Nodup := by
  induction fs with
  | nil => exact List.nodup_nil
  | cons f fs ih =>
    rw [firsts, List.map_cons, List.nodup_cons]
    refine ⟨?_, ih.sublist (List.filter_sublist.map key)⟩
    rintro hmem
    obtain ⟨g, hg, hgf⟩ := List.mem_map.1 hmem
    exact absurd hgf (by simpa using (List.mem_filter.1 hg).2)

/-- Where the keys are pairwise different already, nothing is dropped. -/
theorem firsts_eq_self {fs : List Finding} (h : (fs.map key).Nodup) : firsts fs = fs := by
  induction fs with
  | nil => rfl
  | cons f fs ih =>
    rw [List.map_cons, List.nodup_cons] at h
    have hkeep : fs.filter (fun g => g.key != f.key) = fs := by
      refine List.filter_eq_self.2 fun g hg => ?_
      have hne : g.key ≠ f.key := fun heq => h.1 (heq ▸ List.mem_map_of_mem hg)
      simpa using hne
    rw [firsts, ih h.2, hkeep]

/-- A selection by key may be made before or after. -/
theorem filter_firsts {p : Finding → Bool} (hp : ∀ f g : Finding, f.key = g.key → p f = p g)
    (fs : List Finding) : (firsts fs).filter p = firsts (fs.filter p) := by
  induction fs with
  | nil => rfl
  | cons f fs ih =>
    by_cases hf : p f = true
    · rw [firsts, List.filter_cons_of_pos hf, List.filter_cons_of_pos hf, firsts, ← ih,
        List.filter_comm]
    · -- what has the key of a finding that is not selected is not selected either
      have hskip : ∀ g ∈ firsts fs, (p g && g.key != f.key) = p g := by
        intro g _
        by_cases hkey : g.key = f.key
        · rw [hp g f hkey]
          simp [hf]
        · simp [hkey]
      rw [firsts, List.filter_cons_of_neg hf, List.filter_cons_of_neg hf, ← ih, List.filter_filter]
      exact List.filter_congr hskip

/-! ## The order of the listing -/

/-- The place where a finding starts, up to the spelling of its path. -/
def start (f : Finding) : List Component × Nat × Nat × Nat :=
  ⟨f.location.file.components, f.location.line, f.location.column, f.location.offset⟩

/-- The order of the places where findings start. -/
def startOrder : Finding → Finding → Ordering :=
  compareLex (compareOn fun f => f.location.file)
    (compareLex (compareOn fun f => f.location.line)
      (compareLex (compareOn fun f => f.location.column) (compareOn fun f => f.location.offset)))

theorem startOrder_eq_eq {f g : Finding} : startOrder f g = .eq ↔ f.start = g.start := by
  have hfile : compare f.location.file g.location.file = .eq ↔
      f.location.file.components = g.location.file.components := FilePath.order_eq_eq
  simp only [startOrder, compareLex_eq_eq, compareOn, Std.compare_eq_iff_eq, hfile, start,
    Prod.mk.injEq]

/-- Findings are listed by the place where they start, then by rule. -/
theorem order_eq (f g : Finding) :
    order f g = (startOrder f g).then (compare f.ruleId g.ruleId) := by
  simp only [order, startOrder, compareLex, compareOn, Ordering.then_assoc]

/-- Two findings tie when they have one rule and start at one place. -/
theorem order_eq_eq {f g : Finding} :
    order f g = .eq ↔ f.start = g.start ∧ f.ruleId = g.ruleId := by
  rw [order_eq, Ordering.then_eq_eq, startOrder_eq_eq, Std.compare_eq_iff_eq]

/-- The findings that are listed for a list of reported ones. -/
def listing (fs : List Finding) : List Finding := sortBy order (firsts fs)

theorem mem_listing {f : Finding} {fs : List Finding} : f ∈ listing fs ↔ f ∈ firsts fs :=
  mem_sortBy

/-- The keys of a listing are those of the reported findings. -/
theorem mem_map_key_listing {fs : List Finding} {key : Key} :
    key ∈ (listing fs).map Finding.key ↔ key ∈ fs.map Finding.key :=
  ((perm_sortBy order (firsts fs)).map Finding.key).mem_iff.trans mem_map_key_firsts

theorem nodup_listing (fs : List Finding) : ((listing fs).map key).Nodup :=
  ((perm_sortBy order (firsts fs)).map key).nodup_iff.2 (nodup_firsts fs)

/-- The findings of one file, in any spelling of its path. -/
def inFile (file : List Component) (f : Finding) : Bool := f.location.file.components == file

/-- **The listing is known class by class**, for every division of the findings into
classes in which findings that share a key, or tie, are in one class. -/
theorem listing_congr_of {γ : Type*} [BEq γ] [LawfulBEq γ] {class? : Finding → γ}
    (hkey : ∀ f g : Finding, f.key = g.key → class? f = class? g)
    (htie : ∀ f g : Finding, order f g = .eq → class? f = class? g) {fs gs : List Finding}
    (h : ∀ c, (fs.filter fun f => class? f == c) = gs.filter fun f => class? f == c) :
    listing fs = listing gs := by
  refine (sortBy_eq_sortBy_iff order).2 fun x => ?_
  have hclass : ∀ es : List Finding, es.filter (tied order x) =
      (es.filter fun f => class? f == class? x).filter (tied order x) := by
    intro es
    rw [List.filter_filter]
    refine List.filter_congr fun f _ => ?_
    by_cases hf : tied order x f = true
    · simp [hf, htie x f (tied_iff.1 hf)]
    · simp [hf]
  have hfirsts : ∀ es : List Finding, (firsts es).filter (fun f => class? f == class? x) =
      firsts (es.filter fun f => class? f == class? x) := fun es =>
    filter_firsts (fun f g hfg => by rw [hkey f g hfg]) es
  rw [hclass (firsts fs), hclass (firsts gs), hfirsts, hfirsts, h]

/-- Findings that tie are in one file, so how the findings of different files
follow each other leaves no trace in the listing. -/
theorem listing_congr {fs gs : List Finding}
    (h : ∀ file, fs.filter (inFile file) = gs.filter (inFile file)) :
    listing fs = listing gs :=
  listing_congr_of (fun _ _ hfg => congrArg (fun key => key.place.file) hfg)
    (fun _ _ heq => congrArg Prod.fst (order_eq_eq.1 heq).1) h

/-- Nor does it show how the findings of different rules follow each other. -/
theorem listing_congr_ruleId {fs gs : List Finding}
    (h : ∀ id, (fs.filter fun f => f.ruleId == id) = gs.filter fun f => f.ruleId == id) :
    listing fs = listing gs :=
  listing_congr_of (fun _ _ hfg => congrArg Key.ruleId hfg) (fun _ _ heq => (order_eq_eq.1 heq).2) h

/-- **Selections by rule** may be made before or after listing. -/
theorem listing_filter (p : String → Bool) (fs : List Finding) :
    listing (fs.filter fun f => p f.ruleId) = (listing fs).filter fun f => p f.ruleId := by
  have hkey : ∀ f g : Finding, f.key = g.key → p f.ruleId = p g.ruleId := fun f g hfg =>
    congrArg (fun key => p key.ruleId) hfg
  rw [listing, listing, ← filter_firsts hkey, sortBy_filter]

/-- The first finding of each key, after a change that leaves the keys. -/
theorem firsts_map {g : Finding → Finding} (hg : ∀ f, (g f).key = f.key) (fs : List Finding) :
    firsts (fs.map g) = (firsts fs).map g := by
  induction fs with
  | nil => rfl
  | cons f fs ih =>
    rw [List.map_cons, firsts, ih, List.filter_map, firsts, List.map_cons]
    refine congrArg (fun es => g f :: es.map g) (List.filter_congr fun e _ => ?_)
    rw [Function.comp_apply, hg, hg]

/-- **Changes that leave rule and location** may be made before or after listing. -/
theorem listing_map {g : Finding → Finding} (hrule : ∀ f, (g f).ruleId = f.ruleId)
    (hlocation : ∀ f, (g f).location = f.location) (fs : List Finding) :
    listing (fs.map g) = (listing fs).map g := by
  have hkey : ∀ f, (g f).key = f.key := fun f => by rw [key, key, hrule, hlocation]
  have horder : ∀ f f', order (g f) (g f') = order f f' := by
    intro f f'
    simp only [order, compareLex, compareOn, hrule, hlocation]
  rw [listing, listing, firsts_map hkey, sortBy_map order horder]

end Finding

namespace FindingLog

/-! ## What a log holds -/

/-- **What a log holds after a list of reports**: what it held, and behind that the
first finding of each new key. -/
theorem toList_reportAll (log : FindingLog) (ms : List (CallSite × Rule)) :
    (log.reportAll ms).toList =
      log.toList ++ (Finding.firsts (findingsOf ms)).filter
        fun f => f.key ∉ log.toList.map Finding.key := by
  induction ms generalizing log with
  | nil => simp [findingsOf, Finding.firsts]
  | cons m ms ih =>
    rw [reportAll_cons, ih, report, toList_record, findingsOf_cons, Finding.firsts]
    by_cases h : (m.2.finding m.1).key ∈ log.toList.map Finding.key
    · rw [if_pos h, List.filter_cons_of_neg (by simpa using h), List.filter_filter]
      refine congrArg (log.toList ++ ·) (List.filter_congr fun f _ => ?_)
      by_cases hkey : f.key = (m.2.finding m.1).key
      · rw [hkey]
        simpa using h
      · simp [hkey]
    · rw [if_neg h, List.filter_cons_of_pos (by simpa using h), List.append_assoc,
        List.singleton_append, List.filter_filter]
      refine congrArg (fun fs => log.toList ++ (m.2.finding m.1 :: fs))
        (List.filter_congr fun f _ => ?_)
      rw [List.map_append, List.map_singleton, Bool.eq_iff_iff]
      simp only [decide_eq_true_eq, List.mem_append, List.mem_singleton, not_or, Bool.and_eq_true,
        bne_iff_ne]

theorem toList_reportAll_empty (ms : List (CallSite × Rule)) :
    (empty.reportAll ms).toList = Finding.firsts (findingsOf ms) := by
  rw [toList_reportAll, toList_empty, List.nil_append]
  exact List.filter_eq_self.2 fun f _ => by simp

/-- **The results of a run** are the listing of what was reported. -/
theorem results_reportAll (ms : List (CallSite × Rule)) :
    (empty.reportAll ms).results = Finding.listing (findingsOf ms) := by
  have h : (empty.reportAll ms).results = sortBy Finding.order (empty.reportAll ms).toList := rfl
  rw [h, toList_reportAll_empty, Finding.listing]

end FindingLog

end ForbiddenCalls
