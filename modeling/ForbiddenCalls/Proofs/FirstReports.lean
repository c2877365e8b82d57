import ForbiddenCalls.Proofs.Listing
import ForbiddenCalls.Proofs.LogExample
import Mathlib.Data.Finset.Card
import Mathlib.Data.Finset.Dedup

/-!
# What a log answers

A log keeps a set of the keys that it has seen and a list of findings.  From outside it is
known by three answers: whether a report was taken, how many findings there are, and the
results at the end.  All three can be read off the list of the reports, without the set and
without the list of the log.

A report is taken when no report before it had its key, so the findings of a log are those of
the reports that were the first of their key, and there are as many as there are keys.  The
results are these findings in order, and where the order does not tell two of them apart, the
one whose key was reported earlier comes first.

* `Finding.ListedBefore`, `Finding.order_eq_lt_iff`: the order of findings, told without a
  comparison.
* `Finding.mem_firsts_iff`, `Finding.pairwise_firsts`, `Finding.length_firsts`: which findings
  are the first of their key, in which order they stand, and how many there are.
* `ListsFirsts`: what the results are, given the reports.  There is one such list
  (`ListsFirsts.eq`).
* `FindingLog.reportAll_answers`: the answers of a log after every list of reports.
-/

namespace ForbiddenCalls

variable {f : Finding} {fs : List Finding} {ms : List (CallSite × Rule)}

/-- What a match is reported under: the id of the rule and the place of the call. -/
def matchKey (m : CallSite × Rule) : Finding.Key := ⟨m.2.id.text, m.1.location.place⟩

/-- The keys of a list of reports. -/
def keysOf (ms : List (CallSite × Rule)) : List Finding.Key := ms.map matchKey

/-- When a key was first reported, as the number of reports before. -/
def firstReport (ms : List (CallSite × Rule)) (key : Finding.Key) : Nat := (keysOf ms).idxOf key

theorem map_key_findingsOf (ms : List (CallSite × Rule)) :
    (findingsOf ms).map Finding.key = keysOf ms := by
  rw [findingsOf, List.map_map]
  rfl

/-! ## The order of findings -/

namespace Component

/-- The order of the components of a path: the root, `.`, `..`, then the names, which come in
the order of texts. -/
def Before : Component → Component → Prop
  | root, b => b ≠ root
  | here, b => b ≠ root ∧ b ≠ here
  | up, b => ∃ s, b = name s
  | name s, b => ∃ t, b = name t ∧ s < t

theorem compare_eq_lt_iff {a b : Component} : compare a b = .lt ↔ Before a b := by
  have hcompare : compare a b = (compare a.rank b.rank).then (compare a.nameText b.nameText) := rfl
  have hname : compare a.nameText b.nameText = .lt ↔ a.nameText < b.nameText :=
    compareOfLessAndEq_eq_lt
  rw [hcompare, Ordering.then_eq_lt, Nat.compare_eq_lt, Std.compare_eq_iff_eq, hname]
  cases a <;> cases b <;> simp [Before, rank, nameText]

/-- Lists of components compare as their first components that differ, and a list comes before
the lists that continue it. -/
theorem compare_list_eq_lt_iff {as bs : List Component} :
    compare as bs = .lt ↔ List.Lex Before as bs := by
  induction as generalizing bs with
  | nil => cases bs <;> simp
  | cons a as ih =>
    cases bs with
    | nil => simp
    | cons b bs =>
      rw [List.compare_cons_cons, Ordering.then_eq_lt, compare_eq_lt_iff, Std.compare_eq_iff_eq,
        ih, List.cons_lex_cons_iff]

end Component

namespace Finding

/-- One finding before another one: the first of file, line, column, offset and rule in which
they differ decides. -/
inductive ListedBefore (f g : Finding) : Prop where
  | file : List.Lex Component.Before f.location.file.components g.location.file.components →
      ListedBefore f g
  | line : f.location.file.components = g.location.file.components →
      f.location.line < g.location.line → ListedBefore f g
  | column : f.location.file.components = g.location.file.components →
      f.location.line = g.location.line → f.location.column < g.location.column →
      ListedBefore f g
  | offset : f.location.file.components = g.location.file.components →
      f.location.line = g.location.line → f.location.column = g.location.column →
      f.location.offset < g.location.offset → ListedBefore f g
  | rule : f.start = g.start → f.ruleId < g.ruleId → ListedBefore f g

/-- Two findings tie when none of these tells them apart. -/
def TiesWith (f g : Finding) : Prop := f.start = g.start ∧ f.ruleId = g.ruleId

theorem order_eq_lt_iff {f g : Finding} : order f g = .lt ↔ ListedBefore f g := by
  have hfile : compare f.location.file g.location.file =
      compare f.location.file.components g.location.file.components := rfl
  have hrule : compare f.ruleId g.ruleId = .lt ↔ f.ruleId < g.ruleId := compareOfLessAndEq_eq_lt
  simp only [order, compareLex, compareOn, Ordering.then_eq_lt, hfile,
    Component.compare_list_eq_lt_iff, Nat.compare_eq_lt, Std.compare_eq_iff_eq, hrule]
  constructor
  · rintro (h | ⟨hfile, h | ⟨hline, h | ⟨hcolumn, h | ⟨hoffset, h⟩⟩⟩⟩)
    · exact .file h
    · exact .line hfile h
    · exact .column hfile hline h
    · exact .offset hfile hline hcolumn h
    · exact .rule (by simp only [start, hfile, hline, hcolumn, hoffset]) h
  · rintro (h | ⟨hfile, h⟩ | ⟨hfile, hline, h⟩ | ⟨hfile, hline, hcolumn, h⟩ | ⟨hstart, h⟩)
    · exact .inl h
    · exact .inr ⟨hfile, .inl h⟩
    · exact .inr ⟨hfile, .inr ⟨hline, .inl h⟩⟩
    · exact .inr ⟨hfile, .inr ⟨hline, .inr ⟨hcolumn, .inl h⟩⟩⟩
    · simp only [start, Prod.mk.injEq] at hstart
      obtain ⟨hfile, hline, hcolumn, hoffset⟩ := hstart
      exact .inr ⟨hfile, .inr ⟨hline, .inr ⟨hcolumn, .inr ⟨hoffset, h⟩⟩⟩⟩

theorem isLE_order_iff {f g : Finding} :
    (order f g).isLE = true ↔ f.ListedBefore g ∨ f.TiesWith g := by
  rw [Ordering.isLE_iff_eq_lt_or_eq_eq, order_eq_lt_iff, order_eq_eq, TiesWith]

end Finding

/-! ## The first finding of each key -/

namespace Finding

/-- A finding is the first of its key when none before it has the key. -/
theorem mem_firsts_iff :
    f ∈ firsts fs ↔ ∃ before after, fs = before ++ f :: after ∧ f.key ∉ before.map key := by
  induction fs with
  | nil => simp [firsts]
  | cons g fs ih =>
    rw [firsts, List.mem_cons, List.mem_filter, ih]
    constructor
    · rintro (rfl | ⟨⟨before, after, rfl, hnew⟩, hkey⟩)
      · exact ⟨[], fs, rfl, List.not_mem_nil⟩
      · refine ⟨g :: before, after, rfl, ?_⟩
        rw [List.map_cons, List.mem_cons, not_or]
        exact ⟨by simpa using hkey, hnew⟩
    · rintro ⟨_ | ⟨e, before⟩, after, heq, hnew⟩
      · exact .inl (List.cons.inj heq).1.symm
      · obtain ⟨rfl, rfl⟩ := List.cons.inj heq
        rw [List.map_cons, List.mem_cons, not_or] at hnew
        exact .inr ⟨⟨before, after, rfl, hnew.2⟩, by simpa using hnew.1⟩

/-- The first findings stand in the order in which their keys occur. -/
theorem pairwise_firsts (fs : List Finding) :
    (firsts fs).Pairwise fun f g => (fs.map key).idxOf f.key < (fs.map key).idxOf g.key := by
  induction fs with
  | nil => exact List.Pairwise.nil
  | cons e fs ih =>
    have hnext : ∀ g ∈ (firsts fs).filter fun g => g.key != e.key,
        ((e :: fs).map key).idxOf g.key = (fs.map key).idxOf g.key + 1 := by
      intro g hg
      have hne : g.key ≠ e.key := by simpa using (List.mem_filter.1 hg).2
      rw [List.map_cons, List.idxOf_cons_ne _ hne.symm]
    rw [firsts, List.pairwise_cons]
    constructor
    · intro g hg
      rw [hnext g hg, List.map_cons, List.idxOf_cons_self]
      omega
    · refine (ih.filter _).imp_of_mem fun {f g} hf hg hlt => ?_
      rw [hnext f hf, hnext g hg]
      omega

/-- There are as many first findings as keys. -/
theorem length_firsts (fs : List Finding) : (firsts fs).length = (fs.map key).toFinset.card := by
  have hkeys : ((firsts fs).map key).toFinset = (fs.map key).toFinset := by
    ext key
    rw [List.mem_toFinset, List.mem_toFinset, mem_map_key_firsts]
  rw [← hkeys, List.toFinset_card_of_nodup (nodup_firsts fs), List.length_map]

end Finding

/-! ## The answers of a log -/

/-- What the message of a rule may name: the method of the call, its owner and its receiver.
An owner that is not known and a receiver that is not there are named by the empty text. -/
def CallSite.named (c : CallSite) : MessageArgs where
  method := c.method
  owner := match c.owner with
    | .resolved type => type
    | .unresolved => ""
  receiver := match c.receiver with
    | some receiver => receiver
    | none => ""

theorem Rule.messageFor_eq (r : Rule) (c : CallSite) : r.messageFor c = r.message.render c.named := by
  rw [messageFor, CallSite.named]
  cases c.owner <;> cases c.receiver <;> rfl

/-- A list holds, in the order of findings, what the first report of each key stands for. -/
structure ListsFirsts (ms : List (CallSite × Rule)) (fs : List Finding) : Prop where
  /-- There is one finding for each key that was reported, and no other. -/
  count_key : ∀ key, (fs.map Finding.key).count key = if key ∈ keysOf ms then 1 else 0
  /-- It is about the first call that was reported under the key. -/
  isFirst : ∀ f ∈ fs, ∃ before c r after, ms = before ++ (c, r) :: after ∧
    matchKey (c, r) ∉ keysOf before ∧
    f = { ruleId := r.id.text, severity := r.severity, location := c.location,
          message := r.message.render c.named }
  /-- The list is sorted by file, line, column, offset and rule. -/
  sorted : fs.Pairwise fun f g => f.ListedBefore g ∨ f.TiesWith g
  /-- Ties are settled by the order in which the keys were first reported. -/
  stable : fs.Pairwise fun f g => f.TiesWith g → firstReport ms f.key < firstReport ms g.key

/-- The first findings of a list of reports are those of the first reports. -/
theorem mem_firsts_findingsOf_iff :
    f ∈ Finding.firsts (findingsOf ms) ↔ ∃ before c r after, ms = before ++ (c, r) :: after ∧
      matchKey (c, r) ∉ keysOf before ∧
      f = { ruleId := r.id.text, severity := r.severity, location := c.location,
            message := r.message.render c.named } := by
  rw [Finding.mem_firsts_iff]
  constructor
  · rintro ⟨before, after, heq, hnew⟩
    obtain ⟨ms₁, ms₂, rfl, rfl, hms₂⟩ := List.map_eq_append_iff.1 heq
    obtain ⟨⟨c, r⟩, ms₃, rfl, rfl, -⟩ := List.map_eq_cons_iff.1 hms₂
    refine ⟨ms₁, c, r, ms₃, rfl, ?_, ?_⟩
    · rwa [← map_key_findingsOf]
    · rw [← r.messageFor_eq c]
      rfl
  · rintro ⟨before, c, r, after, rfl, hnew, rfl⟩
    rw [← r.messageFor_eq c]
    refine ⟨findingsOf before, findingsOf after, ?_, ?_⟩
    · rw [findingsOf, List.map_append]
      rfl
    · rwa [map_key_findingsOf]

/-- The listing of what was reported is the list of the first reports. -/
theorem listsFirsts_listing (ms : List (CallSite × Rule)) :
    ListsFirsts ms (Finding.listing (findingsOf ms)) where
  count_key key := by
    have hmem : key ∈ (Finding.listing (findingsOf ms)).map Finding.key ↔ key ∈ keysOf ms := by
      rw [Finding.mem_map_key_listing, map_key_findingsOf]
    rw [(Finding.nodup_listing _).count]
    exact if_congr hmem rfl rfl
  isFirst f hf := mem_firsts_findingsOf_iff.1 (Finding.mem_listing.1 hf)
  sorted := (pairwise_sortBy Finding.order _).imp fun h => Finding.isLE_order_iff.1 h
  stable := by
    have hfirsts := Finding.pairwise_firsts (findingsOf ms)
    rw [map_key_findingsOf] at hfirsts
    exact (pairwise_tied_sortBy Finding.order hfirsts).imp fun h htie => h (Finding.order_eq_eq.2 htie)

namespace ListsFirsts

theorem nodup_keys (h : ListsFirsts ms fs) : (fs.map Finding.key).Nodup := by
  refine List.nodup_iff_count_le_one.2 fun key => ?_
  rw [h.count_key]
  split <;> omega

theorem mem_keys_iff (h : ListsFirsts ms fs) {key : Finding.Key} :
    key ∈ fs.map Finding.key ↔ key ∈ keysOf ms := by
  rw [← List.count_pos_iff, h.count_key]
  split <;> simp [*]

/-- A listed finding is the first of its key, and the first of each key is listed. -/
theorem mem_iff (h : ListsFirsts ms fs) : f ∈ fs ↔ f ∈ Finding.firsts (findingsOf ms) := by
  have hfirst : ∀ g ∈ fs, g ∈ Finding.firsts (findingsOf ms) := fun g hg =>
    mem_firsts_findingsOf_iff.2 (h.isFirst g hg)
  refine ⟨hfirst f, fun hf => ?_⟩
  have hkey : f.key ∈ fs.map Finding.key := by
    rw [h.mem_keys_iff, ← map_key_findingsOf, ← Finding.mem_map_key_firsts]
    exact List.mem_map_of_mem hf
  obtain ⟨g, hg, hgf⟩ := List.mem_map.1 hkey
  have heq := List.inj_on_of_nodup_map (Finding.nodup_firsts (findingsOf ms)) (hfirst g hg) hf hgf
  rwa [← heq]

/-- **There is one such list.** -/
theorem eq {gs : List Finding} (h : ListsFirsts ms fs) (h' : ListsFirsts ms gs) : fs = gs := by
  have hperm : fs.Perm gs :=
    (List.perm_ext_iff_of_nodup h.nodup_keys.of_map h'.nodup_keys.of_map).2 fun f => by
      rw [h.mem_iff, h'.mem_iff]
  refine hperm.eq_of_pairwise ?_ (h.sorted.and h.stable) (h'.sorted.and h'.stable)
  rintro f g - - ⟨hfg, hearlier⟩ ⟨hgf, hlater⟩
  rcases hfg with hbefore | htie
  · have hgt : Finding.order g f = .gt :=
      Std.OrientedCmp.gt_of_lt (Finding.order_eq_lt_iff.2 hbefore)
    have hle := Finding.isLE_order_iff.2 hgf
    rw [hgt] at hle
    contradiction
  · have hfirst := hearlier htie
    have hsecond := hlater ⟨htie.1.symm, htie.2.symm⟩
    omega

end ListsFirsts

namespace FindingLog

/-- A report is taken when its key is new. -/
theorem fst_report_iff {c : CallSite} {r : Rule} :
    ((empty.reportAll ms).report c r).1 = true ↔ matchKey (c, r) ∉ keysOf ms := by
  rw [report, fst_record, toList_reportAll_empty, decide_eq_true_eq, Finding.mem_map_key_firsts,
    map_key_findingsOf]
  rfl

theorem size_reportAll (ms : List (CallSite × Rule)) :
    (empty.reportAll ms).size = (keysOf ms).toFinset.card := by
  rw [← length_toList, toList_reportAll_empty, Finding.length_firsts, map_key_findingsOf]

/-- **The answers of a log**, after every list of reports: the next report is taken exactly when
no report had its key, there are as many findings as there were keys, and the results list
the first report of each key. -/
theorem reportAll_answers (ms : List (CallSite × Rule)) :
    (∀ c r, ((empty.reportAll ms).report c r).1 = true ↔ matchKey (c, r) ∉ keysOf ms) ∧
      (empty.reportAll ms).size = (keysOf ms).toFinset.card ∧
      ListsFirsts ms (empty.reportAll ms).results := by
  refine ⟨fun _ _ => fst_report_iff, size_reportAll ms, ?_⟩
  rw [results_reportAll]
  exact listsFirsts_listing ms

/-- A rule whose message names all that a message may name. -/
def namingRule : Rule :=
  { logRule with
    message := ⟨"{owner}.{method} on {receiver}",
      [.hole .owner, .text ".", .hole .method, .text " on ", .hole .receiver]⟩ }

/-- Two reports about one place, which name its file in two spellings, and one about another
file, of a call without an owner and a receiver. -/
def threeReports : List (CallSite × Rule) :=
  [(logCall ⟨"src/B.java"⟩ 5, namingRule),
    ({ logCall ⟨"src//B.java"⟩ 5 with receiver := some "log" }, namingRule),
    ({ logCall ⟨"src/A.java"⟩ 5 with receiver := none, owner := .unresolved }, namingRule)]

/-- What is listed for the three reports. -/
def twoFindings : List Finding :=
  [⟨"NoLog", .error, ⟨⟨"src/A.java"⟩, 1, 1, 0, 5⟩, ".d on "⟩,
    ⟨"NoLog", .error, ⟨⟨"src/B.java"⟩, 1, 1, 0, 5⟩, "android.util.Log.d on Log"⟩]

theorem listsFirsts_twoFindings : ListsFirsts threeReports twoFindings where
  count_key key := by
    have hnodup : (twoFindings.map Finding.key).Nodup := by decide
    have hsubset : twoFindings.map Finding.key ⊆ keysOf threeReports := by decide
    have hsubset' : keysOf threeReports ⊆ twoFindings.map Finding.key := by decide
    have hmem : key ∈ twoFindings.map Finding.key ↔ key ∈ keysOf threeReports :=
      ⟨fun h => hsubset h, fun h => hsubset' h⟩
    rw [hnodup.count]
    exact if_congr hmem rfl rfl
  isFirst := by
    intro f hf
    rcases List.mem_cons.1 hf with rfl | hf
    · exact ⟨threeReports.take 2, _, _, [], rfl, by decide, by decide⟩
    · rw [List.mem_singleton.1 hf]
      exact ⟨[], _, _, threeReports.tail, rfl, List.not_mem_nil, by decide⟩
  sorted := by
    have hfirst : FilePath.components ⟨"src/A.java"⟩ = [.name "src", .name "A.java"] := by decide
    have hsecond : FilePath.components ⟨"src/B.java"⟩ = [.name "src", .name "B.java"] := by decide
    refine List.pairwise_pair.2 (.inl (.file ?_))
    rw [hfirst, hsecond]
    exact .cons (.rel ⟨"B.java", rfl, by decide⟩)
  stable := List.pairwise_pair.2 fun htie => absurd (congrArg Prod.fst htie.1) (by decide)

/-- The file that comes first is listed first, and of the reports about one place the first
one gives the message. -/
theorem reportAll_answers_threeReports :
    ((empty.reportAll threeReports).report (logCall ⟨"src/./A.java"⟩ 5) logRule).1 = false ∧
      (empty.reportAll threeReports).size = 2 ∧
      (empty.reportAll threeReports).results = twoFindings := by
  obtain ⟨htaken, hsize, hlists⟩ := reportAll_answers threeReports
  refine ⟨?_, ?_, hlists.eq listsFirsts_twoFindings⟩
  · rw [← Bool.not_eq_true, htaken]
    decide
  · rw [hsize]
    decide

end FindingLog

end ForbiddenCalls
