import ForbiddenCalls.Proofs.Listing
import ForbiddenCalls.Proofs.LogExample

/-!
# When the order of arrival shows

Two findings are kept apart by their rule and their whole location, the length of
the span included.  They are listed by the start of the location and then by rule,
so that two findings of one rule which start at one place and have different
lengths are both kept and tie.  For such a pair the listing shows which one was
reported first; for all others it does not.

* `Finding.listing_eq_of_perm`, `Finding.pairwise_of_listing_reverse`: the listing
  is the same for every order of arrival exactly when there is no such pair.
* `Finding.Aligned`: when the listing is ordered by the whole location and then by
  rule, which asks for more, because the length is not looked at before the rule.
* `results_perm_iff`: both, for the results of a log.
-/

namespace ForbiddenCalls

namespace Finding

/-- The order by file, line, column, offset, length and rule. -/
def placeOrder : Finding → Finding → Ordering :=
  compareLex startOrder
    (compareLex (compareOn fun f => f.location.length) (compareOn fun f => f.ruleId))

theorem placeOrder_eq (f g : Finding) :
    placeOrder f g = (startOrder f g).then
      ((compare f.location.length g.location.length).then (compare f.ruleId g.ruleId)) := rfl

/-! ## Independence of the order of arrival -/

theorem listing_eq_sortBy {fs : List Finding} (hkeys : (fs.map key).Nodup) :
    listing fs = sortBy order fs := by
  rw [listing, firsts_eq_self hkeys]

theorem listing_eq_of_perm {fs gs : List Finding} (hperm : gs.Perm fs)
    (hkeys : (fs.map key).Nodup)
    (h : fs.Pairwise fun f g => f.start = g.start → f.ruleId ≠ g.ruleId) :
    listing gs = listing fs := by
  have hkeys' : (gs.map key).Nodup := (hperm.map key).nodup_iff.2 hkeys
  rw [listing_eq_sortBy hkeys, listing_eq_sortBy hkeys']
  refine (sortBy_eq_of_perm order hperm.symm (h.imp fun hne heq => ?_)).symm
  obtain ⟨hstart, hrule⟩ := order_eq_eq.1 heq
  exact hne hstart hrule

theorem pairwise_of_listing_reverse {fs : List Finding} (hkeys : (fs.map key).Nodup)
    (h : listing fs.reverse = listing fs) :
    fs.Pairwise fun f g => f.start = g.start → f.ruleId ≠ g.ruleId := by
  have hkeys' : (fs.reverse.map key).Nodup := by
    rw [List.map_reverse, List.nodup_reverse]
    exact hkeys
  rw [listing_eq_sortBy hkeys, listing_eq_sortBy hkeys'] at h
  refine (pairwise_of_sortBy_reverse order (List.Nodup.of_map key hkeys) h).imp ?_
  intro f g hne hstart hrule
  exact hne (order_eq_eq.2 ⟨hstart, hrule⟩)

/-! ## The order by the whole location -/

theorem isLE_compare_text {s t : String} : (compare s t).isLE = true ↔ s ≤ t :=
  isLE_compareOfLessAndEq String.le_antisymm String.not_le String.le_total

/-- Of two findings that start at one place, the one whose rule comes first is not
the longer one, and their rules are different. -/
def Aligned (f g : Finding) : Prop :=
  f.start = g.start →
    (f.ruleId < g.ruleId ∧ f.location.length ≤ g.location.length) ∨
      (g.ruleId < f.ruleId ∧ g.location.length ≤ f.location.length)

theorem Aligned.symm {f g : Finding} (h : Aligned f g) : Aligned g f :=
  fun hstart => (h hstart.symm).symm

theorem Aligned.ruleId_ne {f g : Finding} (h : Aligned f g) (hstart : f.start = g.start) :
    f.ruleId ≠ g.ruleId := by
  rcases h hstart with ⟨hlt, -⟩ | ⟨hlt, -⟩
  · exact String.ne_of_lt hlt
  · exact (String.ne_of_lt hlt).symm

/-- What is listed in order and aligned is in order by the whole location. -/
theorem isLE_placeOrder_of_aligned {f g : Finding} (horder : (order f g).isLE = true)
    (h : Aligned f g) : (placeOrder f g).isLE = true := by
  rw [order_eq, Ordering.isLE_then_iff_or] at horder
  rw [placeOrder_eq, Ordering.isLE_then_iff_or]
  rcases horder with hlt | ⟨heq, hrule⟩
  · exact Or.inl hlt
  · refine Or.inr ⟨heq, ?_⟩
    rcases h (startOrder_eq_eq.1 heq) with ⟨hlt, hlen⟩ | ⟨hgt, -⟩
    · rw [Ordering.isLE_then_iff_or]
      rcases Nat.lt_or_eq_of_le hlen with hlen | hlen
      · exact Or.inl (Nat.compare_eq_lt.2 hlen)
      · exact Or.inr ⟨Nat.compare_eq_eq.2 hlen, hrule⟩
    · rw [isLE_compare_text] at hrule
      exact absurd hgt (String.not_lt.2 hrule)

/-- Findings that are in order by both orders and do not tie are aligned. -/
theorem aligned_of_isLE_placeOrder {f g : Finding} (horder : (order f g).isLE = true)
    (hplace : (placeOrder f g).isLE = true)
    (hne : f.start = g.start → f.ruleId ≠ g.ruleId) : Aligned f g := by
  intro hstart
  have heq : startOrder f g = .eq := startOrder_eq_eq.2 hstart
  rw [order_eq, heq, Ordering.eq_then, isLE_compare_text] at horder
  rw [placeOrder_eq, heq, Ordering.eq_then] at hplace
  have hlen := Nat.isLE_compare.1 (Ordering.isLE_left_of_isLE_then hplace)
  refine Or.inl ⟨?_, hlen⟩
  exact String.not_le.1 fun hle => hne hstart (String.le_antisymm horder hle)

/-- **When the listing is ordered by the whole location**: exactly when every two
findings are aligned, given that no two of them tie. -/
theorem pairwise_listing_iff {fs : List Finding} (hkeys : (fs.map key).Nodup)
    (hne : fs.Pairwise fun f g => f.start = g.start → f.ruleId ≠ g.ruleId) :
    ((listing fs).Pairwise fun f g => (placeOrder f g).isLE = true) ↔ fs.Pairwise Aligned := by
  have hsorted : (listing fs).Pairwise fun f g => (order f g).isLE = true :=
    pairwise_sortBy order (firsts fs)
  have hperm : (listing fs).Perm fs := by
    rw [listing_eq_sortBy hkeys]
    exact perm_sortBy order fs
  have hsymm : ∀ {f g : Finding}, Aligned f g → Aligned g f := Aligned.symm
  have hne' : (listing fs).Pairwise fun f g => f.start = g.start → f.ruleId ≠ g.ruleId :=
    hne.perm hperm.symm fun h hstart => (h hstart.symm).symm
  constructor
  · intro hplace
    refine List.Pairwise.perm ?_ hperm hsymm
    refine ((hsorted.and hplace).and hne').imp ?_
    rintro f g ⟨⟨horder, hplace⟩, hne⟩
    exact aligned_of_isLE_placeOrder horder hplace hne
  · intro haligned
    refine (hsorted.and (haligned.perm hperm.symm hsymm)).imp ?_
    rintro f g ⟨horder, haligned⟩
    exact isLE_placeOrder_of_aligned horder haligned

end Finding

/-! ## The results of a log -/

open FindingLog (empty)

/-- **When the order of arrival shows.**  For reports with pairwise different keys,
the results are the same for every order of arrival exactly when no two findings of
one rule start at one place; and they are, besides, always ordered by the whole
location and then by rule exactly when every two findings are aligned. -/
theorem results_perm_iff {ms : List (CallSite × Rule)}
    (hkeys : ((findingsOf ms).map Finding.key).Nodup) :
    ((∀ ms' : List (CallSite × Rule), ms'.Perm ms →
        (empty.reportAll ms').results = (empty.reportAll ms).results) ↔
      (findingsOf ms).Pairwise fun f g => f.start = g.start → f.ruleId ≠ g.ruleId) ∧
    ((∀ ms' : List (CallSite × Rule), ms'.Perm ms →
        (empty.reportAll ms').results = (empty.reportAll ms).results ∧
          (empty.reportAll ms').results.Pairwise
            fun f g => (Finding.placeOrder f g).isLE = true) ↔
      (findingsOf ms).Pairwise Finding.Aligned) := by
  simp only [FindingLog.results_reportAll]
  have hreverse : findingsOf ms.reverse = (findingsOf ms).reverse := List.map_reverse
  have hsame : (∀ ms' : List (CallSite × Rule), ms'.Perm ms →
        Finding.listing (findingsOf ms') = Finding.listing (findingsOf ms)) ↔
      (findingsOf ms).Pairwise fun f g => f.start = g.start → f.ruleId ≠ g.ruleId := by
    constructor
    · intro h
      have hturned := h ms.reverse ms.reverse_perm
      rw [hreverse] at hturned
      exact Finding.pairwise_of_listing_reverse hkeys hturned
    · intro h ms' hperm
      exact Finding.listing_eq_of_perm (hperm.map _) hkeys h
  refine ⟨hsame, ?_, ?_⟩
  · intro h
    have hne := hsame.1 fun ms' hperm => (h ms' hperm).1
    exact (Finding.pairwise_listing_iff hkeys hne).1 (h ms (List.Perm.refl ms)).2
  · intro haligned ms' hperm
    have hne := haligned.imp fun h => h.ruleId_ne
    have heq := hsame.2 hne ms' hperm
    exact ⟨heq, heq ▸ (Finding.pairwise_listing_iff hkeys hne).2 haligned⟩

/-- Two calls of one rule that differ in their length only, the longer one first. -/
def longFirst : List (CallSite × Rule) :=
  [(logCall ⟨"A.java"⟩ 5, logRule), (logCall ⟨"A.java"⟩ 3, logRule)]

theorem nodup_keys_longFirst : ((findingsOf longFirst).map Finding.key).Nodup := by
  simp [longFirst, findingsOf, Finding.key, Rule.finding, logCall, Location.place]

theorem results_perm_iff_longFirst :
    ((findingsOf longFirst).map Finding.key).Nodup ∧
    ((∀ ms' : List (CallSite × Rule), ms'.Perm longFirst →
        (empty.reportAll ms').results = (empty.reportAll longFirst).results) ↔
      (findingsOf longFirst).Pairwise fun f g => f.start = g.start → f.ruleId ≠ g.ruleId) ∧
    ((∀ ms' : List (CallSite × Rule), ms'.Perm longFirst →
        (empty.reportAll ms').results = (empty.reportAll longFirst).results ∧
          (empty.reportAll ms').results.Pairwise
            fun f g => (Finding.placeOrder f g).isLE = true) ↔
      (findingsOf longFirst).Pairwise Finding.Aligned) :=
  ⟨nodup_keys_longFirst, results_perm_iff nodup_keys_longFirst⟩

/-- **The order of arrival can show.**  Two calls of one rule that differ in their
length only are kept apart, and listed in the order of their reports. -/
theorem results_longFirst_ne :
    ((findingsOf longFirst).map Finding.key).Nodup ∧ longFirst.reverse.Perm longFirst ∧
      (empty.reportAll longFirst.reverse).results ≠ (empty.reportAll longFirst).results := by
  refine ⟨nodup_keys_longFirst, longFirst.reverse_perm, ?_⟩
  rw [FindingLog.results_reportAll, FindingLog.results_reportAll]
  intro h
  have hne := Finding.pairwise_of_listing_reverse nodup_keys_longFirst h
  exact List.rel_of_pairwise_cons hne List.mem_cons_self rfl rfl

end ForbiddenCalls
