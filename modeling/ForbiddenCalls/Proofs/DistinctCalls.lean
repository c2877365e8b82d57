import ForbiddenCalls.Proofs.KotlinLayout
import ForbiddenCalls.Proofs.NameResolution
import ForbiddenCalls.Proofs.NestedTrees
import ForbiddenCalls.Proofs.RuleDependence
import ForbiddenCalls.Proofs.ScheduleIndependence
import ForbiddenCalls.Proofs.Soundness
import Mathlib.Data.List.TakeWhile

/-!
# No call hides another one

A call is placed at the name of its method, not at its own start, and findings that agree in
rule and place are one finding.  Chained calls start at the same byte, and yet no two calls
of a file are placed alike: from the node of a call, a way without other calls leads down to
the name (`Extractor.Names`), in Java to a child and in Kotlin through the navigation.

* `Extractor.nodup_calls`: the calls of a file have pairwise different offsets.
* `Analyzer.no_call_hidden`: a run over files with different paths reports one finding for
  every node that is a call and every rule that it matches.
-/

namespace ForbiddenCalls

/-! ## Names of calls -/

namespace Extractor

/-- Where a node is placed, if it is a call. -/
def offset? (x : Extractor) (s : Source) (t : Tree) : Option Nat :=
  (x.callOf? s t).map RawCall.offset

/-- Every call has a node for the name of its method, which `callName?` tells.  The method is
the text of that node, but for signs in front; the call is placed there; and there is no other
call on the way down to it.  A node without children is no call. -/
structure Names (x : Extractor) (callName? : Tree → Option Tree) : Prop where
  exists_name : ∀ {s t c}, x.callOf? s t = some c → ∃ name, callName? t = some name ∧
    c.method.toList <:+ (name.text s).toList ∧ name.start = c.offset ∧
    Tree.Below (x.offset? s) t name
  of_no_children : ∀ {s t}, t.children = [] → x.callOf? s t = none

/-- The names of the calls in a tree are tokens. -/
def NamesTokens (x : Extractor) (callName? : Tree → Option Tree) (s : Source) (t : Tree) : Prop :=
  ∀ n ∈ t.nodes, (x.callOf? s n).isSome = true → ∀ name ∈ callName? n, name.IsToken

variable {x : Extractor} {callName? : Tree → Option Tree} {s : Source} {t : Tree} {c : RawCall}

instance : Decidable (x.NamesTokens callName? s t) :=
  inferInstanceAs (Decidable
    (∀ n ∈ t.nodes, (x.callOf? s n).isSome = true → ∀ name ∈ callName? n, name.IsToken))

theorem offset?_eq_none_iff : x.offset? s t = none ↔ x.callOf? s t = none := Option.map_eq_none_iff

theorem calls_facts (x : Extractor) (s : Source) (t : Tree) :
    (x.facts s t).calls = t.nodes.filterMap (x.callOf? s) := by
  rw [facts_eq, Tree.nodes, List.filterMap_map]
  rfl

/-- **No two calls are placed alike.** -/
theorem nodup_calls (hx : x.Names callName?) (hnested : t.Nested)
    (htokens : x.NamesTokens callName? s t) :
    ((x.facts s t).calls.map RawCall.offset).Nodup := by
  have hplaced : t.PlacedByTokens (x.offset? s) := by
    intro n hn o ho
    obtain ⟨c, hc, rfl⟩ := Option.map_eq_some_iff.1 ho
    obtain ⟨name, hname, -, hstart, hbelow⟩ := hx.exists_name hc
    have htoken : name.IsToken := htokens n hn (by rw [hc, Option.isSome_some]) name hname
    exact ⟨name, hbelow, htoken, offset?_eq_none_iff.2 (hx.of_no_children htoken.children_eq),
      hstart⟩
  rw [calls_facts, List.map_filterMap]
  exact Tree.nodup_offsets hnested hplaced

end Extractor

namespace Java

/-- The node of the name of the method, from a call. -/
def callName? (t : Tree) : Option Tree :=
  if t.kind = "method_invocation" then t.field? .name else none

/-- A call is placed at its name, and its method is the text of the name. -/
theorem exists_name_of_callOf? {s : Source} {t : Tree} {c : RawCall} (h : callOf? s t = some c) :
    ∃ name, callName? t = some name ∧ c = t.rawCall s name c.receiver c.method ∧
      name.text s = c.method := by
  unfold callOf? at h
  split at h
  · next hkind =>
    split at h
    · exact nomatch h
    · next name hname =>
      dsimp only at h
      split at h
      · obtain rfl := Option.some.inj h
        exact ⟨name, by rw [callName?, if_pos hkind, hname], rfl, rfl⟩
      · exact nomatch h
  · exact nomatch h

/-- The name is a child of the call. -/
theorem below_of_callName? {s : Source} {t name : Tree} (h : callName? t = some name) :
    Tree.Below (extractor.offset? s) t name := by
  unfold callName? at h
  split at h
  · exact .child (List.mem_of_find?_eq_some h)
  · exact nomatch h

/-- A call in Java knows the name of its method as one of its children. -/
theorem names : extractor.Names callName? where
  exists_name {s t c} h := by
    obtain ⟨name, hname, hcall, hmethod⟩ := exists_name_of_callOf? h
    have hsuffix : c.method.toList <:+ (name.text s).toList :=
      ⟨[], congrArg String.toList hmethod.symm⟩
    exact ⟨name, hname, hsuffix, (congrArg RawCall.offset hcall).symm, below_of_callName? hname⟩
  of_no_children {s t} h := by
    change callOf? s t = none
    rw [callOf?, Tree.field?, h, List.find?_nil]
    exact ite_self _

end Java

namespace Kotlin

/-- The node of the name of the method, from a call. -/
def callName? (t : Tree) : Option Tree :=
  if t.kind = "call_expression" then t.namedChildren.head?.bind calleeName? else none

variable {s : Source} {t callee name : Tree} {c : RawCall}

theorem mem_children_of_mem_namedChildren (h : name ∈ t.namedChildren) : name ∈ t.children :=
  List.mem_of_mem_filter h

theorem callOf?_eq_none_of_kind (h : t.kind ≠ "call_expression") : callOf? s t = none :=
  if_neg h

theorem offset?_eq_none_of_kind (h : t.kind ≠ "call_expression") :
    extractor.offset? s t = none :=
  Extractor.offset?_eq_none_iff.2 (callOf?_eq_none_of_kind h)

/-- The name of a member is a child of the navigation, or of a suffix in it. -/
theorem below_of_memberName? (h : memberName? t = some name) :
    Tree.Below (extractor.offset? s) t name := by
  unfold memberName? at h
  split at h
  · exact nomatch h
  · exact nomatch h
  · next receiver later _ hnamed =>
    split at h
    · exact nomatch h
    · next last hlast =>
      have hmem : last ∈ t.children := by
        refine mem_children_of_mem_namedChildren ?_
        rw [hnamed]
        exact List.mem_cons_of_mem receiver (List.mem_of_getLast? hlast)
      split at h
      · next hsuffix =>
        have hnocall : extractor.offset? s last = none :=
          offset?_eq_none_of_kind (by rw [hsuffix]; decide)
        exact .deeper hmem hnocall
          (.child (mem_children_of_mem_namedChildren (List.mem_of_getLast? h)))
      · obtain rfl := Option.some.inj h
        exact .child hmem

/-- The way from a call to the name of its method has no other call on it: a navigation and
a suffix are none. -/
theorem below_of_calleeName? (hcallee : callee ∈ t.children) (h : calleeName? callee = some name) :
    Tree.Below (extractor.offset? s) t name := by
  unfold calleeName? at h
  split at h
  · next hnavigation =>
    have hnocall : extractor.offset? s callee = none :=
      offset?_eq_none_of_kind (by rw [hnavigation]; decide)
    exact .deeper hcallee hnocall (below_of_memberName? h)
  · split at h
    · obtain rfl := Option.some.inj h
      exact .child hcallee
    · exact nomatch h

/-- The way down to the name starts at what is called. -/
theorem below_of_callName? (h : callName? t = some name) :
    Tree.Below (extractor.offset? s) t name := by
  unfold callName? at h
  split at h
  · obtain ⟨callee, hcallee, hname⟩ := Option.bind_eq_some_iff.1 h
    exact below_of_calleeName? (mem_children_of_mem_namedChildren (List.mem_of_head? hcallee)) hname
  · exact nomatch h

/-- The signs that can stand in front of the method in the text of the name: those of a
navigation, if there is one. -/
def signsBefore (c : RawCall) : List Char := if c.receiver.isSome then ['?', '.', ':'] else []

/-- Only signs are taken away from the name of a member. -/
theorem exists_withoutSigns (name : String) : ∃ front,
    name.toList = front ++ (withoutSigns name).toList ∧ front ⊆ ['?', '.', ':'] := by
  refine ⟨name.toList.takeWhile fun c => c == '?' || c == '.' || c == ':', ?_, fun c hc => ?_⟩
  · rw [withoutSigns, String.toList_ofList, List.takeWhile_append_dropWhile]
  · have hsign := List.mem_takeWhile_imp hc
    simpa [or_assoc] using hsign

/-- A call is placed at its name, and its method is the text of the name without signs. -/
theorem exists_name_of_callOf? (h : callOf? s t = some c) :
    ∃ name front, callName? t = some name ∧ c = t.rawCall s name c.receiver c.method ∧
      (name.text s).toList = front ++ c.method.toList ∧ front ⊆ signsBefore c := by
  unfold callOf? at h
  split at h
  · next hkind =>
    split at h
    · exact nomatch h
    · next callee hcallee =>
      have hcall : callName? t = calleeName? callee := by
        rw [callName?, if_pos hkind, hcallee, Option.bind_some]
      split at h
      · next hnavigation =>
        split at h
        · next receiver name _ hname =>
          dsimp only at h
          split at h
          · obtain rfl := Option.some.inj h
            obtain ⟨front, htext, hfront⟩ := exists_withoutSigns (name.text s)
            refine ⟨name, front, ?_, rfl, htext, hfront⟩
            rw [hcall, calleeName?, if_pos hnavigation, hname]
          · exact nomatch h
        · exact nomatch h
      · next hother =>
        split at h
        · next hplain =>
          dsimp only at h
          split at h
          · exact nomatch h
          · obtain rfl := Option.some.inj h
            refine ⟨callee, [], ?_, rfl, rfl, List.nil_subset _⟩
            rw [hcall, calleeName?, if_neg hother, if_pos hplain]
        · exact nomatch h
  · exact nomatch h

/-- A call in Kotlin has the name of its method for a child, or below a navigation. -/
theorem names : extractor.Names callName? where
  exists_name {s t c} h := by
    obtain ⟨name, front, hname, hcall, hmethod, -⟩ := exists_name_of_callOf? h
    exact ⟨name, hname, ⟨front, hmethod.symm⟩, (congrArg RawCall.offset hcall).symm,
      below_of_callName? hname⟩
  of_no_children {s t} h := by
    change callOf? s t = none
    rw [callOf?, Tree.namedChildren, h, List.filter_nil, List.head?_nil]
    exact ite_self _

end Kotlin

/-! ## The calls of a unit -/

namespace Language

variable {l : Language} {ls : List Language} {file : FilePath} {text : String}
  {calls : List CallSite}

/-- The tree of a text in Java or in Kotlin is nested, and the names of its calls are tokens. -/
inductive Legible : Language → String → Prop
  | java {grammar : String → Tree} {text : String} : (grammar text).Nested →
      Java.extractor.NamesTokens Java.callName? (.ofText text) (grammar text) →
      Legible (Java.language grammar) text
  | kotlin {grammar : String → Tree} {text : String} : (grammar text).Nested →
      Kotlin.extractor.NamesTokens Kotlin.callName? (.ofText text) (grammar text) →
      Legible (Kotlin.language grammar) text

theorem Legible.nodup_calls (h : l.Legible text) :
    ((l.extractor.facts (.ofText text) (l.grammar text)).calls.map RawCall.offset).Nodup := by
  cases h with
  | java hnested htokens => exact Extractor.nodup_calls Java.names hnested htokens
  | kotlin hnested htokens => exact Extractor.nodup_calls Kotlin.names hnested htokens

/-- The nodes of a text that are calls, each with its call site. -/
def callNodes (l : Language) (file : FilePath) (text : String) : List (Tree × CallSite) :=
  let facts := l.extractor.facts (.ofText text) (l.grammar text)
  (l.grammar text).nodes.filterMap fun n => (l.extractor.callOf? (.ofText text) n).map fun c =>
    (n, callSite (SymbolTable.ofFacts facts l.implicitTypes) file c)

theorem map_snd_callNodes (l : Language) (file : FilePath) (text : String) :
    (l.callNodes file text).map Prod.snd =
      let facts := l.extractor.facts (.ofText text) (l.grammar text)
      facts.calls.map (callSite (SymbolTable.ofFacts facts l.implicitTypes) file) := by
  dsimp only
  rw [callNodes, List.map_filterMap, Extractor.calls_facts, List.map_filterMap]
  simp only [Option.map_map]
  rfl

/-- The call sites of a text without a fault come from its nodes. -/
theorem map_snd_callNodes_of_callSites (h : l.callSites file text = .ok calls) :
    (l.callNodes file text).map Prod.snd = calls := by
  rw [map_snd_callNodes]
  exact (callSites_eq_ok_iff.1 h).2.symm

theorem Legible.nodup_offsets (h : l.Legible text) (file : FilePath) :
    (((l.callNodes file text).map Prod.snd).map fun c => c.location.offset).Nodup := by
  rw [map_snd_callNodes, List.map_map]
  exact h.nodup_calls

end Language

/-! ## The findings of a run -/

/-- Matches of different rules, or of calls at different offsets, have different keys. -/
theorem nodup_keys_matchesAmong {rules : List Rule} {calls : List CallSite}
    (hrules : (rules.map Rule.id).Nodup)
    (hcalls : (calls.map fun c => c.location.offset).Nodup) :
    ((findingsOf (matchesAmong rules calls)).map Finding.key).Nodup := by
  rw [findingsOf, matchesAmong, List.map_flatMap, List.map_flatMap]
  refine List.nodup_flatMap.2 ⟨fun c _ => ?_, ?_⟩
  · rw [List.map_map, List.map_map]
    refine List.pairwise_map.2 (((List.pairwise_map.1 hrules).filter _).imp fun hid hkey => hid ?_)
    exact RuleId.ext (congrArg Finding.Key.ruleId hkey)
  · refine (List.pairwise_map.1 hcalls).imp fun {c c'} hoffset key hkey hkey' => hoffset ?_
    have hplace : ∀ {c : CallSite}, key ∈ (((rules.filter fun r => r.isMatch c).map fun r =>
        (c, r)).map fun m => m.2.finding m.1).map Finding.key →
        key.place.offset = c.location.offset := by
      intro c hkey
      rw [List.map_map, List.map_map] at hkey
      obtain ⟨rule, -, rfl⟩ := List.mem_map.1 hkey
      rfl
    exact (hplace hkey).symm.trans (hplace hkey')

namespace Analyzer

variable {a : Analyzer} {ls : List Language} {u : SourceUnit} {units : List SourceUnit}
  {r : Report}

/-- The forbidden calls of a unit that is analyzed: the nodes that are calls, each with its
call site and with every active rule that it matches. -/
def forbiddenNodes (a : Analyzer) (ls : List Language) (u : SourceUnit) :
    List (Tree × CallSite × Rule) :=
  if a.Fails u then []
  else
    match Language.claimant? ls u.extension, u.text with
    | some l, .ok text => (l.callNodes u.path text).flatMap fun n =>
        (a.registry.activeRules.filter fun r => r.isMatch n.2).map fun r => (n.1, n.2, r)
    | _, _ => []

/-- The unit is analyzed by a language, which finds its calls in the nodes. -/
theorem exists_callsOf_eq (hadapters : a.adapters = [Language.adapter ls]) (h : ¬ a.Fails u) :
    ∃ l text, Language.claimant? ls u.extension = some l ∧ u.text = .ok text ∧
      a.callsOf u = (l.callNodes u.path text).map Prod.snd := by
  rcases a.examine_cases u with ⟨d, calls, hanalyzed, hok⟩ | ⟨f, hf, -⟩
  · have hd : d ∈ a.adapters := List.mem_of_find?_eq_some hanalyzed.responsible
    rw [hadapters] at hd
    obtain rfl := List.mem_singleton.1 hd
    obtain ⟨text, htext, htraverse⟩ := hanalyzed.traversed
    obtain ⟨l, hl, hcalls⟩ := Language.exists_claimant_of_traverse htraverse
    refine ⟨l, text, hl, htext, ?_⟩
    rw [callsOf, hok, Language.map_snd_callNodes_of_callSites hcalls]
    exact List.map_id' calls
  · exact absurd hf.fails h

theorem callsOf_of_fails (h : a.Fails u) : a.callsOf u = [] := by
  rcases a.examine_cases u with ⟨d, calls, hanalyzed, -⟩ | ⟨f, -, herror⟩
  · exact absurd h hanalyzed.not_fails
  · rw [callsOf, herror]

/-- What is reported about a unit are its forbidden nodes. -/
theorem map_snd_forbiddenNodes (hadapters : a.adapters = [Language.adapter ls]) (u : SourceUnit) :
    (a.forbiddenNodes ls u).map Prod.snd = a.reports u := by
  rw [reports_eq, forbiddenNodes]
  split
  · next hfails => rw [callsOf_of_fails hfails]; rfl
  · next hfails =>
    obtain ⟨l, text, hl, htext, hcalls⟩ := exists_callsOf_eq hadapters hfails
    rw [hl, htext, hcalls, matchesAmong, List.flatMap_map, List.map_flatMap]
    refine List.flatMap_congr fun n _ => ?_
    rw [List.map_map]
    rfl

/-- The units are in Java or in Kotlin, with trees that are nested and names that are
tokens. -/
def Legible (ls : List Language) (units : List SourceUnit) : Prop :=
  ∀ u ∈ units, ∀ l text, Language.claimant? ls u.extension = some l → u.text = .ok text →
    l.Legible text

theorem nodup_keys_reports (hadapters : a.adapters = [Language.adapter ls])
    (hlegible : Legible ls units) (hu : u ∈ units) :
    ((findingsOf (a.reports u)).map Finding.key).Nodup := by
  rw [reports_eq]
  refine nodup_keys_matchesAmong a.registry.nodup_ids ?_
  by_cases hfails : a.Fails u
  · rw [callsOf_of_fails hfails]
    exact List.nodup_nil
  · obtain ⟨l, text, hl, htext, hcalls⟩ := exists_callsOf_eq hadapters hfails
    rw [hcalls]
    exact (hlegible u hu l text hl htext).nodup_offsets u.path

/-- The reports of all units have pairwise different keys: those of one unit have different
rules or offsets, and those of different units have different files. -/
theorem nodup_keys_flatMap_reports (hadapters : a.adapters = [Language.adapter ls])
    (hpaths : DistinctPaths units) (hlegible : Legible ls units) :
    ((findingsOf (units.flatMap a.reports)).map Finding.key).Nodup := by
  have hlocated : ∀ u, a.Located u := located_of_languages fun d hd =>
    ⟨ls, List.mem_singleton.1 (hadapters ▸ hd)⟩
  have hfile : ∀ {u key}, key ∈ (findingsOf (a.reports u)).map Finding.key →
      key.place.file = u.path.components := by
    intro u key hkey
    rw [findingsOf, List.map_map] at hkey
    obtain ⟨m, hm, rfl⟩ := List.mem_map.1 hkey
    exact components_of_mem_reports (hlocated u) hm
  rw [findingsOf, List.map_flatMap, List.map_flatMap]
  refine List.nodup_flatMap.2 ⟨fun u hu => nodup_keys_reports hadapters hlegible hu, ?_⟩
  exact hpaths.imp fun hne key hkey hkey' => hne ((hfile hkey).symm.trans (hfile hkey'))

/-- **A run reports one finding for every forbidden node**, and no two of them are merged. -/
theorem Yields.perm_forbiddenNodes (h : a.Yields units r)
    (hadapters : a.adapters = [Language.adapter ls]) (hpaths : DistinctPaths units)
    (hlegible : Legible ls units) :
    r.findings.Perm ((units.flatMap (a.forbiddenNodes ls)).map fun m => m.2.2.finding m.2.1) ∧
      (r.findings.map Finding.key).Nodup := by
  obtain ⟨ms, hwoven, rfl⟩ := yields_iff.1 h
  have hnodes : ((units.flatMap (a.forbiddenNodes ls)).map fun m => m.2.2.finding m.2.1) =
      findingsOf (units.flatMap a.reports) := by
    rw [findingsOf, List.map_flatMap, List.map_flatMap]
    refine List.flatMap_congr fun u _ => ?_
    rw [← map_snd_forbiddenNodes hadapters u, List.map_map]
    rfl
  have hperm : (findingsOf ms).Perm (findingsOf (units.flatMap a.reports)) := by
    rw [List.flatMap_def]
    exact hwoven.perm_flatten.map _
  have hnodup : ((findingsOf ms).map Finding.key).Nodup :=
    (hperm.map Finding.key).nodup_iff.2 (nodup_keys_flatMap_reports hadapters hpaths hlegible)
  have hlisting : (Finding.listing (findingsOf ms)).Perm (findingsOf ms) := by
    rw [Finding.listing, Finding.firsts_eq_self hnodup]
    exact perm_sortBy Finding.order _
  rw [hnodes]
  exact ⟨hlisting.trans hperm, Finding.nodup_listing _⟩

/-- **No call hides another one.**  In a Java or Kotlin syntax tree with nested spans, where
the names of calls are tokens, no two calls are placed alike.  So a run that is not cancelled,
over units with such trees and with pairwise different paths, reports one finding for every
node that is a call and every active rule that it matches, and no two of them are merged. -/
theorem no_call_hidden :
    (∀ (s : Source) (t : Tree), t.Nested → Java.extractor.NamesTokens Java.callName? s t →
      ((Java.extractor.facts s t).calls.map RawCall.offset).Nodup) ∧
    (∀ (s : Source) (t : Tree), t.Nested → Kotlin.extractor.NamesTokens Kotlin.callName? s t →
      ((Kotlin.extractor.facts s t).calls.map RawCall.offset).Nodup) ∧
    ∀ {a : Analyzer} {ls : List Language} {units : List SourceUnit} {r : Report},
      a.adapters = [Language.adapter ls] → DistinctPaths units → Legible ls units →
      a.Yields units r →
        r.findings.Perm ((units.flatMap (a.forbiddenNodes ls)).map fun m => m.2.2.finding m.2.1) ∧
        (r.findings.map Finding.key).Nodup :=
  ⟨fun _ _ hnested htokens => Extractor.nodup_calls Java.names hnested htokens,
    fun _ _ hnested htokens => Extractor.nodup_calls Kotlin.names hnested htokens,
    fun hadapters hpaths hlegible h => h.perm_forbiddenNodes hadapters hpaths hlegible⟩

end Analyzer

/-! ## A chain of calls -/

namespace ChainExample

/-- Three calls: `b` and `d` start at the same byte, and `c` lies in the arguments of `b`. -/
def text : String := "a.L.b(a.L.c()).d();"

/-- The calls in Java. -/
def javaTree : Tree :=
  .rule "program" 0 19 [
    .rule "expression_statement" 0 19 [
      .rule "method_invocation" 0 18 [
        (Tree.rule "method_invocation" 0 14 [
          (Tree.rule "field_access" 0 3 [
            (Tree.leaf "identifier" 0 1).inField .object, .sign "." 1,
            .leaf "identifier" 2 3]).inField .object,
          .sign "." 3, (Tree.leaf "identifier" 4 5).inField .name,
          .rule "argument_list" 5 14 [
            .sign "(" 5,
            .rule "method_invocation" 6 13 [
              (Tree.rule "field_access" 6 9 [
                (Tree.leaf "identifier" 6 7).inField .object, .sign "." 7,
                .leaf "identifier" 8 9]).inField .object,
              .sign "." 9, (Tree.leaf "identifier" 10 11).inField .name,
              .rule "argument_list" 11 13 [.sign "(" 11, .sign ")" 12]],
            .sign ")" 13]]).inField .object,
        .sign "." 14, (Tree.leaf "identifier" 15 16).inField .name,
        .rule "argument_list" 16 18 [.sign "(" 16, .sign ")" 17]],
      .sign ";" 18]]

/-- The calls in Kotlin, where no node stands for the semicolon. -/
def kotlinTree : Tree :=
  .rule "source_file" 0 19 [
    .rule "call_expression" 0 18 [
      .rule "navigation_expression" 0 16 [
        .rule "call_expression" 0 14 [
          .rule "navigation_expression" 0 5 [
            .rule "navigation_expression" 0 3 [
              .leaf "identifier" 0 1, .sign "." 1, .leaf "identifier" 2 3],
            .sign "." 3, .leaf "identifier" 4 5],
          .rule "value_arguments" 5 14 [
            .sign "(" 5,
            .rule "value_argument" 6 13 [
              .rule "call_expression" 6 13 [
                .rule "navigation_expression" 6 11 [
                  .rule "navigation_expression" 6 9 [
                    .leaf "identifier" 6 7, .sign "." 7, .leaf "identifier" 8 9],
                  .sign "." 9, .leaf "identifier" 10 11],
                .rule "value_arguments" 11 13 [.sign "(" 11, .sign ")" 12]]],
            .sign ")" 13]],
        .sign "." 14, .leaf "identifier" 15 16],
      .rule "value_arguments" 16 18 [.sign "(" 16, .sign ")" 17]]]

theorem nested_javaTree : javaTree.Nested := by decide +kernel

theorem nested_kotlinTree : kotlinTree.Nested := by decide +kernel

theorem namesTokens_javaTree (s : Source) :
    Java.extractor.NamesTokens Java.callName? s javaTree := by
  have htokens : ∀ n ∈ javaTree.nodes, ∀ name ∈ Java.callName? n, name.IsToken := by decide +kernel
  exact fun n hn _ => htokens n hn

theorem namesTokens_kotlinTree (s : Source) :
    Kotlin.extractor.NamesTokens Kotlin.callName? s kotlinTree := by
  have htokens : ∀ n ∈ kotlinTree.nodes, ∀ name ∈ Kotlin.callName? n, name.IsToken := by
    decide +kernel
  exact fun n hn _ => htokens n hn

/-- The calls as they are written. -/
def calls : List RawCall :=
  [⟨some "a.L.b(a.L.c())", "d", 1, 16, 15, 3⟩, ⟨some "a.L", "b", 1, 5, 4, 10⟩,
    ⟨some "a.L", "c", 1, 11, 10, 3⟩]

theorem facts_javaTree : Java.extractor.facts (.ofText text) javaTree = { calls } := by
  decide +kernel

theorem facts_kotlinTree : Kotlin.extractor.facts (.ofText text) kotlinTree = { calls } := by
  decide +kernel

/-- The calls with their owners.  Nothing is known of the value that `d` is called on. -/
def sites (file : FilePath) : List CallSite :=
  [⟨some "a.L.b(a.L.c())", "d", .unresolved, ⟨file, 1, 16, 15, 3⟩⟩,
    ⟨some "a.L", "b", .resolved "a.L", ⟨file, 1, 5, 4, 10⟩⟩,
    ⟨some "a.L", "c", .resolved "a.L", ⟨file, 1, 11, 10, 3⟩⟩]

theorem map_callSite_calls (implicit : List (String × String)) (file : FilePath) :
    calls.map (Language.callSite (.ofFacts { calls } implicit) file) = sites file := by
  have hnamed : ∀ name, Facts.typesNamed { calls } name = ∅ := fun name =>
    Set.eq_empty_iff_forall_notMem.2 fun type htype => by
      rcases htype with ⟨hi, -⟩ | ⟨hd, -⟩
      · exact absurd hi List.not_mem_nil
      · exact absurd hd List.not_mem_nil
  have hwritten : Facts.typesWritten { calls } "a" = ∅ :=
    Set.eq_empty_iff_forall_notMem.2 fun type ⟨v, hv, _⟩ => absurd hv List.not_mem_nil
  have hfull : Facts.IsFullName "a" "a.L" := SymbolTable.looksQualified_iff.1 (by decide)
  have hsplit : "a.L" = "a" ++ "." ++ "L" := by decide
  have howner : (SymbolTable.ofFacts { calls } implicit).resolveReceiver "a.L" = .resolved "a.L" :=
    SymbolTable.resolveReceiver_of_owns (.dottedType
      (SymbolTable.ne_this_of_fieldOfThis? (by decide)) hfull.1 hsplit (by decide) hwritten
      (.full (hnamed _) hsplit (by decide) (hnamed _) hfull))
  have hchained : (SymbolTable.ofFacts { calls } implicit).resolveReceiver "a.L.b(a.L.c())" =
      .unresolved :=
    SymbolTable.resolveReceiver_of_owns (.unnamed
      (SymbolTable.ne_this_of_fieldOfThis? (by decide))
      (mt Text.all_isIdentifier_segments_iff.2 (by decide)))
  simp only [calls, List.map_cons, List.map_nil, Language.callSite]
  rw [← calls, howner, hchained]
  rfl

/-- The languages with these trees. -/
def languages : List Language :=
  [Java.language fun _ => javaTree, Kotlin.language fun _ => kotlinTree]

theorem claimant?_languages :
    Language.claimant? languages ".java" = some (Java.language fun _ => javaTree) ∧
    Language.claimant? languages ".kt" = some (Kotlin.language fun _ => kotlinTree) := by
  simp [Language.claimant?, languages, Java.language, Kotlin.language]

/-- A language whose tree of the text has these calls finds them with their owners. -/
theorem callSites_text {l : Language} (file : FilePath)
    (hfault : (l.grammar text).firstFault? = none)
    (hfacts : l.extractor.facts (.ofText text) (l.grammar text) = { calls }) :
    l.callSites file text = .ok (sites file) := by
  rw [Language.callSites_of_no_fault hfault]
  dsimp only
  rw [hfacts, map_callSite_calls]

/-- The adapter finds the three calls in the text, whatever file it is the text of. -/
theorem traverse_text {u : SourceUnit} (h : u.extension = ".java" ∨ u.extension = ".kt") :
    (Language.adapter languages).handles u = true ∧
      (Language.adapter languages).traverse u text = .ok (sites u.path) := by
  have hclaimed : Language.claimedExtensions languages = [".java", ".kt", ".kts"] := by decide
  rcases h with h | h
  · simp only [Adapter.handles, Language.adapter, hclaimed, h, claimant?_languages.1]
    exact ⟨by decide, callSites_text u.path (by decide +kernel) facts_javaTree⟩
  · simp only [Adapter.handles, Language.adapter, hclaimed, h, claimant?_languages.2]
    exact ⟨by decide, callSites_text u.path (by decide +kernel) facts_kotlinTree⟩

/-- A file in either language. -/
def units : List SourceUnit := [.ofText ⟨"A.java"⟩ text, .ofText ⟨"B.kt"⟩ text]

/-- A rule about the methods `b` and `c` of `a.L`. -/
def callRule : Rule :=
  { logRule with owner := .exact "a.L", methods := (NameSet.empty.insert "b").insert "c" }

/-- The analyzer with this rule and these languages. -/
def analyzer : Analyzer := ⟨(Registry.empty.registerAll [callRule]).1, [Language.adapter languages], 100⟩

theorem activeRules_analyzer : analyzer.registry.activeRules = [callRule] := by
  simp [analyzer, Registry.registerAll, Registry.register, Registry.empty, Registry.activeRules]

theorem extension_units :
    (SourceUnit.ofText ⟨"A.java"⟩ text).extension = ".java" ∧
    (SourceUnit.ofText ⟨"B.kt"⟩ text).extension = ".kt" := by decide +kernel

theorem legible_units : Analyzer.Legible languages units := by
  intro u hu l text hl _
  rcases List.mem_pair.1 hu with rfl | rfl
  · rw [extension_units.1, claimant?_languages.1] at hl
    obtain rfl := Option.some.inj hl
    exact .java nested_javaTree (namesTokens_javaTree _)
  · rw [extension_units.2, claimant?_languages.2] at hl
    obtain rfl := Option.some.inj hl
    exact .kotlin nested_kotlinTree (namesTokens_kotlinTree _)

/-- The calls of `b` and `c` are reported. -/
theorem reports_text {file : FilePath} (h : (SourceUnit.ofText file text).extension = ".java" ∨
    (SourceUnit.ofText file text).extension = ".kt") :
    analyzer.reports (.ofText file text) =
      [(⟨some "a.L", "b", .resolved "a.L", ⟨file, 1, 5, 4, 10⟩⟩, callRule),
        (⟨some "a.L", "c", .resolved "a.L", ⟨file, 1, 11, 10, 3⟩⟩, callRule)] := by
  obtain ⟨hhandled, htraversed⟩ := traverse_text h
  have hanalyzed : analyzer.Analyzed (.ofText file text) (Language.adapter languages) (sites file) :=
    ⟨List.find?_cons_of_pos hhandled, ⟨text.utf8ByteSize, rfl, by decide⟩, text, rfl, htraversed⟩
  rw [Analyzer.reports_of_ok (Analyzer.examine_of_analyzed hanalyzed), Analyzer.matchesOf_eq,
    activeRules_analyzer]
  rfl

/-- In both files the calls of `b` and `c` are forbidden. -/
theorem forbiddenNodes_units :
    (units.flatMap (analyzer.forbiddenNodes languages)).map
        (fun m => (m.2.1.location.file.text, m.2.1.method)) =
      [("A.java", "b"), ("A.java", "c"), ("B.kt", "b"), ("B.kt", "c")] := by
  have hreports : units.flatMap analyzer.reports =
      (units.flatMap (analyzer.forbiddenNodes languages)).map Prod.snd := by
    rw [List.map_flatMap]
    exact List.flatMap_congr fun u _ => (Analyzer.map_snd_forbiddenNodes rfl u).symm
  have hnames := congrArg (List.map fun m => (m.1.location.file.text, m.1.method)) hreports
  rw [List.map_map] at hnames
  refine hnames.symm.trans ?_
  rw [units, List.flatMap_cons, List.flatMap_cons, reports_text (.inl extension_units.1),
    reports_text (.inr extension_units.2)]
  rfl

/-- The nodes of the calls in a tree. -/
def callsIn (x : Extractor) (t : Tree) : List Tree :=
  t.nodes.filter fun n => (x.callOf? (.ofText text) n).isSome

/-- The instances of the two trees, where two of the three calls start at the same byte, and of
the sequential run over two files, which reports two calls in each. -/
theorem no_call_hidden_chain :
    ((callsIn Java.extractor javaTree).map Tree.start = [0, 0, 6] ∧
      ((Java.extractor.facts (.ofText text) javaTree).calls.map RawCall.offset).Nodup) ∧
    ((callsIn Kotlin.extractor kotlinTree).map Tree.start = [0, 0, 6] ∧
      ((Kotlin.extractor.facts (.ofText text) kotlinTree).calls.map RawCall.offset).Nodup) ∧
    (units.flatMap (analyzer.forbiddenNodes languages)).map
        (fun m => (m.2.1.location.file.text, m.2.1.method)) =
      [("A.java", "b"), ("A.java", "c"), ("B.kt", "b"), ("B.kt", "c")] ∧
    (analyzer.analyze units).findings.Perm
      ((units.flatMap (analyzer.forbiddenNodes languages)).map fun m => m.2.2.finding m.2.1) ∧
    ((analyzer.analyze units).findings.map Finding.key).Nodup := by
  obtain ⟨hjava, hkotlin, hrun⟩ := Analyzer.no_call_hidden
  have hpaths : Analyzer.DistinctPaths units := List.pairwise_pair.2 (by decide +kernel)
  exact ⟨⟨by decide +kernel, hjava _ _ nested_javaTree (namesTokens_javaTree _)⟩,
    ⟨by decide +kernel, hkotlin _ _ nested_kotlinTree (namesTokens_kotlinTree _)⟩,
    forbiddenNodes_units, hrun rfl hpaths legible_units (analyzer.yields_analyze units)⟩

end ChainExample

end ForbiddenCalls
