import ForbiddenCalls.Proofs.DistinctCalls
import ForbiddenCalls.Proofs.LayoutIndependence
import ForbiddenCalls.Proofs.Positions

/-!
# The spans of calls

The span of a call begins at one node, the name of the method, and ends with another one, the
call itself.  In a tree that lies in its source the name is within the call, however deep it
stands below it, so the length of the span is a true difference.  The text of the name is then
found at the start of the span, in Kotlin possibly behind signs that do not belong to the
method, and the line and the column of the call count what stands in front.

* `Tree.Placed.nested`: a tree that lies in a source is nested.
* `Extractor.SpansFromName`: what a call takes from its node and from the node of its name.
* `Extractor.covers_of_callOf?`, `Extractor.calls_cover`: **every call covers the text from the
  name of its method to the end of its node**, in Java and in Kotlin.
-/

namespace ForbiddenCalls

/-! ## The text between two boundaries -/

namespace Source

variable {s : Source} {a b : Nat}

theorem IsBoundary.le_byteSize (h : s.IsBoundary a) : a ≤ Text.byteSize s.text.toList := by
  obtain ⟨before, after, htext, rfl⟩ := h
  rw [htext, Text.byteSize_append]
  omega

/-- What stands between two boundaries is the slice. -/
theorem exists_eq_append_slice (ha : s.IsBoundary a) (hb : s.IsBoundary b) (hab : a ≤ b) :
    ∃ before after, s.text.toList = before ++ (s.slice a b).toList ++ after ∧
      Text.byteSize before = a ∧ a + Text.byteSize (s.slice a b).toList = b := by
  obtain ⟨before, rest, htext, rfl⟩ := ha
  obtain ⟨front, after, htext', rfl⟩ := hb
  obtain ⟨between, rfl⟩ := Text.exists_eq_append_of_byteSize_le (htext.symm.trans htext') hab
  rw [slice_eq htext', String.toList_ofList]
  exact ⟨before, after, htext', rfl, (Text.byteSize_append before between).symm⟩

end Source

/-! ## Trees in a source -/

namespace Tree

variable {s : Source} {t c n : Tree} {ts : List Tree} {start stop : Nat}

/-- Each of the trees between two offsets lies there. -/
theorem PlacedAll.of_mem (h : PlacedAll s start stop ts) (hc : c ∈ ts) :
    start ≤ c.start ∧ c.stop ≤ stop ∧ c.Placed s := by
  induction ts generalizing start with
  | nil => exact absurd hc List.not_mem_nil
  | cons t ts ih =>
    rw [PlacedAll] at h
    obtain ⟨hle, hplaced, hrest⟩ := h
    rcases List.mem_cons.1 hc with rfl | hc
    · exact ⟨hle, hrest.le, hplaced⟩
    · obtain ⟨hstart, hstop, hc'⟩ := ih hrest hc
      have hspan : t.start ≤ t.stop := (placed_iff.1 hplaced).2.2.1
      exact ⟨hle.trans (hspan.trans hstart), hstop, hc'⟩

theorem PlacedAll.pairwise (h : PlacedAll s start stop ts) :
    ts.Pairwise fun c d => c.stop ≤ d.start := by
  induction ts generalizing start with
  | nil => exact .nil
  | cons t ts ih =>
    rw [PlacedAll] at h
    obtain ⟨-, -, hrest⟩ := h
    exact List.pairwise_cons.2 ⟨fun d hd => (hrest.of_mem hd).1, ih hrest⟩

/-- All nodes of a tree in a source lie in the source. -/
theorem Placed.of_mem_nodes (h : t.Placed s) (hn : n ∈ t.nodes) : n.Placed s := by
  induction t using Tree.induction with
  | node i cs ih =>
    rw [nodes_eq, List.mem_cons, List.mem_flatMap] at hn
    rcases hn with rfl | ⟨c, hc, hn⟩
    · exact h
    · exact ih c hc ((placed_iff.1 h).2.2.2.of_mem hc).2.2 hn

/-- **A tree that lies in a source is nested.** -/
theorem Placed.nested (h : t.Placed s) : t.Nested where
  within n hn c hc := by
    obtain ⟨hstart, hstop, -⟩ := (placed_iff.1 (h.of_mem_nodes hn)).2.2.2.of_mem hc
    exact ⟨hstart, hstop⟩
  apart n hn := (placed_iff.1 (h.of_mem_nodes hn)).2.2.2.pairwise

theorem Below.mem_nodes {offset? : Tree → Option Nat} (h : Below offset? t n) : n ∈ t.nodes := by
  induction h with
  | child hn => exact mem_nodes_of_mem_children hn (self_mem_nodes _)
  | deeper hm _ _ ih => exact mem_nodes_of_mem_children hm ih

end Tree

/-! ## The span of a call -/

/-- A call covers a text from the name of its method to the end of its node: the span ends
there, within the text, and is long enough for the name; the name stands at its start, but
for some signs; and the line and column count what stands in front of it. -/
structure RawCall.Covers (c : RawCall) (text : String) (signs : List Char) (call : Tree) :
    Prop where
  offset_add_length : c.offset + c.length = call.stop
  stop_le : call.stop ≤ Text.byteSize text.toList
  exists_name : ∃ before front after,
    text.toList = before ++ (front ++ c.method.toList) ++ after ∧
    Text.byteSize before = c.offset ∧ front ⊆ signs ∧
    Text.byteSize (front ++ c.method.toList) ≤ c.length ∧
    c.line = Text.lineBehind before ∧ c.column = Text.columnBehind before

namespace Extractor

/-- Every call is placed at the node of its name and ends with its own node.  The text of the
name is the method behind signs that can be in front of it. -/
def SpansFromName (x : Extractor) (callName? : Tree → Option Tree)
    (signsOf : RawCall → List Char) : Prop :=
  ∀ {s t c}, x.callOf? s t = some c → ∃ name front, callName? t = some name ∧
    c = t.rawCall s name c.receiver c.method ∧
    (name.text s).toList = front ++ c.method.toList ∧ front ⊆ signsOf c

variable {x : Extractor} {callName? : Tree → Option Tree} {signsOf : RawCall → List Char}
  {text : String} {t : Tree} {c : RawCall}

/-- **A call covers the text from the name of its method to the end of its node.** -/
theorem covers_of_callOf? (hnames : x.Names callName?) (hspans : x.SpansFromName callName? signsOf)
    (ht : t.Placed (.ofText text)) (hc : x.callOf? (.ofText text) t = some c) :
    c.Covers text (signsOf c) t := by
  obtain ⟨name, front, hname, hcall, hmethod, hfront⟩ := hspans hc
  obtain ⟨name', hname', -, -, hbelow⟩ := hnames.exists_name hc
  obtain rfl : name = name' := Option.some.inj (hname.symm.trans hname')
  -- The name is a node of the call, so it lies within the call and in the source.
  have hstop : name.stop ≤ t.stop := (hbelow.span ht.nested).2
  obtain ⟨hbegin, hend, hspan, -⟩ := Tree.placed_iff.1 (ht.of_mem_nodes hbelow.mem_nodes)
  obtain ⟨before, after, htext, hbefore, hsize⟩ := Source.exists_eq_append_slice hbegin hend hspan
  change text.toList = before ++ (name.text (.ofText text)).toList ++ after at htext
  change name.start + Text.byteSize (name.text (.ofText text)).toList = name.stop at hsize
  have hplace : text.toList = before ++ ((name.text (.ofText text)).toList ++ after) := by
    rw [htext, List.append_assoc]
  have hoffset : c.offset = name.start := congrArg RawCall.offset hcall
  have hlength : c.length = t.stop - name.start := congrArg RawCall.length hcall
  have hline : c.line = (Source.ofText text).line name.start := congrArg RawCall.line hcall
  have hcolumn : c.column = (Source.ofText text).column name.start := congrArg RawCall.column hcall
  refine ⟨by omega, (Tree.placed_iff.1 ht).2.1.le_byteSize, before, front, after, ?_, ?_, hfront,
    ?_, ?_, ?_⟩
  · rw [htext, hmethod]
  · rw [hbefore, hoffset]
  · rw [← hmethod]
    omega
  · rw [hline, ← hbefore, Source.line_eq hplace]
  · rw [hcolumn, ← hbefore, Source.column_eq hplace]

/-- Every call of a file covers its text. -/
theorem covers_of_mem_calls (hnames : x.Names callName?)
    (hspans : x.SpansFromName callName? signsOf) (ht : t.Placed (.ofText text))
    (hc : c ∈ (x.facts (.ofText text) t).calls) :
    ∃ n ∈ t.nodes, x.callOf? (.ofText text) n = some c ∧ c.Covers text (signsOf c) n := by
  rw [calls_facts, List.mem_filterMap] at hc
  obtain ⟨n, hn, hcall⟩ := hc
  exact ⟨n, hn, hcall, covers_of_callOf? hnames hspans (ht.of_mem_nodes hn) hcall⟩

end Extractor

/-! ## Java and Kotlin -/

/-- In Java the text of the name is the method. -/
theorem Java.spansFromName : Java.extractor.SpansFromName Java.callName? fun _ => [] := by
  intro s t c h
  obtain ⟨name, hname, hcall, hmethod⟩ := Java.exists_name_of_callOf? h
  exact ⟨name, [], hname, hcall, congrArg String.toList hmethod, List.nil_subset _⟩

/-- In Kotlin the signs of a navigation can stand in front of the method. -/
theorem Kotlin.spansFromName :
    Kotlin.extractor.SpansFromName Kotlin.callName? Kotlin.signsBefore :=
  fun h => Kotlin.exists_name_of_callOf? h

/-- **Every call covers the text from the name of its method to the end of its node.**  Let the
tree of a text in Java or in Kotlin lie in the text, its nodes between boundaries and the
children of a node one behind the other within the node.  Then every call that is found is
that of a node, and its span ends with this node and within the text.  The name of the method
stands at the start of the span, in Kotlin possibly behind signs if the call has a receiver.
The span is at least as long as the name, and the line and column count the line breaks in
front of it and the bytes behind the last of them. -/
theorem Extractor.calls_cover {text : String} {root : Tree} (h : root.Placed (.ofText text)) :
    (∀ c ∈ (Java.extractor.facts (.ofText text) root).calls, ∃ n ∈ root.nodes,
      Java.callOf? (.ofText text) n = some c ∧ c.Covers text [] n) ∧
    ∀ c ∈ (Kotlin.extractor.facts (.ofText text) root).calls, ∃ n ∈ root.nodes,
      Kotlin.callOf? (.ofText text) n = some c ∧ c.Covers text (Kotlin.signsBefore c) n :=
  ⟨fun _ => covers_of_mem_calls Java.names Java.spansFromName h,
    fun _ => covers_of_mem_calls Kotlin.names Kotlin.spansFromName h⟩

namespace CallExample

/-- The instances of the call that is broken into two lines. -/
theorem calls_cover_loose :
    (grammar javaTree loose).Placed (.ofText loose) ∧
    (Java.extractor.facts (.ofText loose) (grammar javaTree loose)).calls =
      [⟨some "a.L", "d", 2, 2, 7, 4⟩] ∧
    (∃ n, RawCall.Covers ⟨some "a.L", "d", 2, 2, 7, 4⟩ loose [] n) ∧
    (grammar kotlinTree loose).Placed (.ofText loose) ∧
    (Kotlin.extractor.facts (.ofText loose) (grammar kotlinTree loose)).calls =
      [⟨some "a.L", "d", 2, 2, 7, 4⟩] ∧
    ∃ n, RawCall.Covers ⟨some "a.L", "d", 2, 2, 7, 4⟩ loose ['?', '.', ':'] n := by
  have hjava : (Java.extractor.facts (.ofText loose) (grammar javaTree loose)).calls =
      [⟨some "a.L", "d", 2, 2, 7, 4⟩] := by
    rw [Extractor.calls_facts]
    decide +kernel
  have hkotlin : (Kotlin.extractor.facts (.ofText loose) (grammar kotlinTree loose)).calls =
      [⟨some "a.L", "d", 2, 2, 7, 4⟩] := by
    rw [Extractor.calls_facts]
    decide +kernel
  obtain ⟨n, -, -, hcovers⟩ :=
    (Extractor.calls_cover relaid_javaTree.placed').1 _ (hjava ▸ List.mem_singleton_self _)
  obtain ⟨n', -, -, hcovers'⟩ :=
    (Extractor.calls_cover relaid_kotlinTree.placed').2 _ (hkotlin ▸ List.mem_singleton_self _)
  exact ⟨relaid_javaTree.placed', hjava, ⟨n, hcovers⟩, relaid_kotlinTree.placed', hkotlin,
    n', hcovers'⟩

end CallExample

end ForbiddenCalls
