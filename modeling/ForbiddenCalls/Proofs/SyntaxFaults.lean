import ForbiddenCalls.Proofs.ClaimedExtensions
import ForbiddenCalls.Proofs.Positions
import ForbiddenCalls.Proofs.TreeWalk

/-!
# Faults in a syntax tree

The search for a fault passes over every subtree that is not flagged, and stops at the first
fault it meets.  Where exactly the nodes that are faults or lie above one are flagged, nothing
is missed in this way: what is found is what a search through all nodes finds
(`Tree.firstFault?_eq_find?`), whatever trees are still on the stack.  As the nodes of a file
start in the order of a walk, no fault starts before the one that is found.

* `Tree.isEarliestFault_of_firstFault?`: the fault that is found is an earliest one.
* `Language.answers_of_flagged`: **a file with a fault has no calls, and the error is at an
  earliest fault; every other file has one call site for every call.**
-/

namespace ForbiddenCalls

namespace Tree

/-- Exactly the nodes that are faults, or lie above one, are flagged. -/
def Flagged (t : Tree) : Prop :=
  ∀ n ∈ t.nodes, n.info.hasError = true ↔ ∃ m ∈ n.nodes, m.isFault = true

/-- No node starts before a node that precedes it in a walk. -/
def InOrder (t : Tree) : Prop := t.nodes.Pairwise fun m n => m.start ≤ n.start

instance (t : Tree) : Decidable t.Flagged :=
  inferInstanceAs
    (Decidable (∀ n ∈ t.nodes, n.info.hasError = true ↔ ∃ m ∈ n.nodes, m.isFault = true))

instance (t : Tree) : Decidable t.InOrder :=
  inferInstanceAs (Decidable (t.nodes.Pairwise fun m n => m.start ≤ n.start))

variable {t c fault : Tree} {stack : List Tree}

theorem Flagged.of_mem_children (h : t.Flagged) (hc : c ∈ t.children) : c.Flagged :=
  fun n hn => h n (mem_nodes_of_mem_children hc hn)

/-- There is no fault below a node that is not flagged. -/
theorem Flagged.find?_eq_none (h : t.Flagged) (hnot : ¬ t.info.hasError = true) :
    t.nodes.find? isFault = none := by
  refine List.find?_eq_none.2 fun n hn hfault => ?_
  have hflag : t.info.hasError = true := (h t t.self_mem_nodes).2 ⟨n, hn, hfault⟩
  exact hnot hflag

/-! ## The search -/

/-- **The search misses no fault.**  The trees on the stack are what is left of the file; the
first of them is a fault, is replaced by its children or is passed over. -/
theorem firstFaultIn?_eq_find? (h : ∀ t ∈ stack, t.Flagged) :
    firstFaultIn? stack = (stack.flatMap nodes).find? isFault := by
  induction stack using firstFaultIn?.induct with
  | case1 => rw [firstFaultIn?, List.flatMap_nil, List.find?_nil]
  | case2 t stack hfault =>
    rw [firstFaultIn?, if_pos hfault, List.flatMap_cons, nodes_eq, List.cons_append,
      List.find?_cons_of_pos hfault]
  | case3 t stack hnofault hflag ih =>
    have ht : t.Flagged := h t List.mem_cons_self
    have hchildren : ∀ c ∈ t.children ++ stack, c.Flagged := by
      intro c hc
      rcases List.mem_append.1 hc with hc | hc
      · exact ht.of_mem_children hc
      · exact h c (List.mem_cons_of_mem t hc)
    rw [firstFaultIn?, if_neg hnofault, if_pos hflag, ih hchildren, List.flatMap_append,
      List.flatMap_cons, nodes_eq t, List.cons_append, List.find?_cons_of_neg hnofault]
  | case4 t stack hnofault hflag ih =>
    have hnone : t.nodes.find? isFault = none := (h t List.mem_cons_self).find?_eq_none hflag
    have hrest : ∀ c ∈ stack, c.Flagged := fun c hc => h c (List.mem_cons_of_mem t hc)
    rw [firstFaultIn?, if_neg hnofault, if_neg hflag, ih hrest, List.flatMap_cons,
      List.find?_append, hnone, Option.none_or]

theorem firstFault?_eq_find? (h : t.Flagged) : t.firstFault? = t.nodes.find? isFault := by
  have hstack : ∀ c ∈ [t], c.Flagged := by
    intro c hc
    rwa [List.mem_singleton.1 hc]
  rw [firstFault?, firstFaultIn?_eq_find? hstack, List.flatMap_singleton]

theorem firstFault?_eq_none_iff (h : t.Flagged) :
    t.firstFault? = none ↔ ∀ n ∈ t.nodes, n.isFault = false := by
  rw [firstFault?_eq_find? h, List.find?_eq_none]
  simp only [Bool.not_eq_true]

/-- A node is an earliest fault of a tree: no other one starts before it. -/
structure IsEarliestFault (t fault : Tree) : Prop where
  mem_nodes : fault ∈ t.nodes
  isFault : fault.isFault = true
  start_le : ∀ n ∈ t.nodes, n.isFault = true → fault.start ≤ n.start

/-- No fault starts before the one that is found. -/
theorem isEarliestFault_of_firstFault? (h : t.Flagged) (horder : t.InOrder)
    (hfirst : t.firstFault? = some fault) : t.IsEarliestFault fault := by
  rw [firstFault?_eq_find? h] at hfirst
  obtain ⟨hfault, before, after, hnodes, hbefore⟩ := List.find?_eq_some_iff_append.1 hfirst
  refine ⟨List.mem_of_find?_eq_some hfirst, hfault, fun n hn hn' => ?_⟩
  rw [InOrder, hnodes] at horder
  rw [hnodes] at hn
  rcases List.mem_append.1 hn with hn | hn
  · have hno := hbefore n hn
    simp [hn'] at hno
  · rcases List.mem_cons.1 hn with rfl | hn
    · exact le_rfl
    · exact (List.pairwise_cons.1 (List.pairwise_append.1 horder).2.1).1 n hn

end Tree

/-! ## The answers of a language -/

/-- A call site states a call of a file. -/
structure CallSite.States (file : FilePath) (c : RawCall) (site : CallSite) : Prop where
  receiver_eq : site.receiver = c.receiver
  method_eq : site.method = c.method
  location_eq : site.location = ⟨file, c.line, c.column, c.offset, c.length⟩

namespace Language

variable {l : Language} {file : FilePath} {text : String} {t fault : Tree} {e : ParseError}
  {calls : List RawCall} {sites : List CallSite} {before after : List Char}

theorem forall₂_states_map_callSite (symbols : SymbolTable) (file : FilePath)
    (calls : List RawCall) :
    List.Forall₂ (CallSite.States file) calls (calls.map (callSite symbols file)) := by
  rw [List.forall₂_map_right_iff, List.forall₂_same]
  exact fun c _ => ⟨rfl, rfl, rfl⟩

/-- The place of an error, if the fault is at a boundary. -/
theorem position?_faultError (h : text.toList = before ++ after)
    (hstart : Text.byteSize before = fault.start) :
    (faultError (.ofText text) fault).position? =
      some (Text.lineBehind before, Text.columnBehind before) := by
  rw [faultError, ParseError.position?, ← hstart, Source.line_eq h, Source.column_eq h]

theorem exists_callSites_eq_ok_iff :
    (∃ sites, l.callSites file text = .ok sites) ↔ (l.grammar text).firstFault? = none := by
  simp only [callSites_eq_ok_iff, exists_and_left, exists_eq, and_true]

theorem exists_callSites_eq_error_iff :
    (∃ line column reason, l.callSites file text = .error (.malformed line column reason)) ↔
      ∃ fault, (l.grammar text).firstFault? = some fault := by
  simp only [callSites_eq_error_iff]
  constructor
  · rintro ⟨line, column, reason, fault, hfault, -⟩
    exact ⟨fault, hfault⟩
  · rintro ⟨fault, hfault⟩
    exact ⟨_, _, _, fault, hfault, rfl⟩

/-- A text without a fault has one call site for every call. -/
theorem forall₂_states_of_callSites (h : l.callSites file text = .ok sites) :
    List.Forall₂ (CallSite.States file)
      (l.extractor.facts (.ofText text) (l.grammar text)).calls sites := by
  obtain ⟨-, rfl⟩ := callSites_eq_ok_iff.1 h
  exact forall₂_states_map_callSite _ file _

/-- **The check of the syntax.**  Let exactly the nodes that are faults or lie above one be
flagged, and let the nodes start in the order of a walk.  The search that passes over what is
not flagged finds the first fault of all nodes.  A unit whose text has this tree is refused for
its syntax exactly if there is a fault, at the line and column of an earliest one.  Otherwise,
and only then, it has calls: one call site for every call, in order and in the unit's file. -/
theorem answers_of_flagged (hflagged : t.Flagged) (horder : t.InOrder) :
    t.firstFault? = t.nodes.find? Tree.isFault ∧
    (t.firstFault? = none ↔ ∀ n ∈ t.nodes, n.isFault = false) ∧
    (∀ fault, t.firstFault? = some fault → t.IsEarliestFault fault) ∧
    ∀ (ls : List Language) (l : Language) (u : SourceUnit) (text : String),
      claimant? ls u.extension = some l → l.grammar text = t →
      ((∃ line column reason,
          (adapter ls).traverse u text = .error (.malformed line column reason)) ↔
        ∃ n ∈ t.nodes, n.isFault = true) ∧
      (∀ e, (adapter ls).traverse u text = .error e → ∃ fault, t.IsEarliestFault fault ∧
        e = faultError (.ofText text) fault ∧
        ∀ before after, text.toList = before ++ after → Text.byteSize before = fault.start →
          e.position? = some (Text.lineBehind before, Text.columnBehind before)) ∧
      ((∃ sites, (adapter ls).traverse u text = .ok sites) ↔ ∀ n ∈ t.nodes, n.isFault = false) ∧
      ∀ sites, (adapter ls).traverse u text = .ok sites →
        List.Forall₂ (CallSite.States u.path) (l.extractor.facts (.ofText text) t).calls sites := by
  have hnone := Tree.firstFault?_eq_none_iff hflagged
  have hearliest : ∀ fault, t.firstFault? = some fault → t.IsEarliestFault fault :=
    fun fault => Tree.isEarliestFault_of_firstFault? hflagged horder
  refine ⟨Tree.firstFault?_eq_find? hflagged, hnone, hearliest, ?_⟩
  rintro ls l u text hclaimant rfl
  rw [traverse_of_claimant hclaimant]
  refine ⟨?_, fun e herror => ?_, ?_, fun sites => forall₂_states_of_callSites⟩
  · rw [exists_callSites_eq_error_iff]
    constructor
    · rintro ⟨fault, hfault⟩
      exact ⟨fault, (hearliest fault hfault).mem_nodes, (hearliest fault hfault).isFault⟩
    · rintro ⟨n, hn, hfault⟩
      refine Option.ne_none_iff_exists'.1 fun hno => ?_
      exact Bool.false_ne_true ((hnone.1 hno n hn).symm.trans hfault)
  · obtain ⟨fault, hfault, rfl⟩ := callSites_eq_error_iff.1 herror
    exact ⟨fault, hearliest fault hfault, rfl, fun before after => position?_faultError⟩
  · rw [exists_callSites_eq_ok_iff]
    exact hnone

end Language

/-! ## A file with two faults -/

namespace FaultExample

/-- A Java file without the end of its import and of its class. -/
def text : String := "import a.Log\nclass A \x7b void f() \x7b Log.d( \x7d "

/-- A node that lies above a fault. -/
def flagged (kind : String) (start stop : Nat) (children : List Tree) : Tree :=
  .node ⟨kind, true, false, false, true, start, stop, none⟩ children

/-- A sign that is missing. -/
def missing (text : String) (offset : Nat) : Tree :=
  .node ⟨text, false, true, false, true, offset, offset, none⟩ []

/-- The part of the file that follows no rule. -/
def rest : Tree :=
  .node ⟨"ERROR", true, false, true, true, 13, 42, none⟩ [
    .sign "class" 13, .leaf "identifier" 19 20, .sign "\x7b" 21, .leaf "void_type" 23 27,
    .leaf "identifier" 28 29, .rule "formal_parameters" 29 31 [.sign "(" 29, .sign ")" 30],
    .sign "\x7b" 32, .leaf "identifier" 34 37, .sign "." 37, .leaf "identifier" 38 39,
    .sign "(" 39, .sign "\x7d" 41]

/-- The syntax tree of the file. -/
def tree : Tree :=
  flagged "program" 0 43 [
    flagged "import_declaration" 0 12 [
      .sign "import" 0,
      .rule "scoped_identifier" 7 12 [
        .leaf "identifier" 7 8, .sign "." 8, (Tree.leaf "identifier" 9 12).inField .name],
      missing ";" 12],
    rest]

/-- The file in memory. -/
def file : SourceUnit := .ofText ⟨"x.java"⟩ text

end FaultExample

namespace Language

open FaultExample in
/-- The instance of this file: the sign that is missing below the import is found first. -/
theorem answers_of_flagged_faultExample :
    tree.Flagged ∧ tree.InOrder ∧
    claimant? [Java.language fun _ => tree] file.extension = some (Java.language fun _ => tree) ∧
    tree.firstFault? = some (missing ";" 12) ∧
    (adapter [Java.language fun _ => tree]).traverse file text =
      .error (.malformed 1 13 "missing `;`") := by
  have hflagged : tree.Flagged := by decide +kernel
  have horder : tree.InOrder := by decide +kernel
  have hclaimant : claimant? [Java.language fun _ => tree] file.extension =
      some (Java.language fun _ => tree) :=
    List.find?_cons_of_pos (by decide +kernel)
  have hfind : tree.nodes.find? Tree.isFault = some (missing ";" 12) := rfl
  obtain ⟨hfirst, -, -, hanswers⟩ := answers_of_flagged hflagged horder
  obtain ⟨hmalformed, herror, -, -⟩ := hanswers _ _ file text hclaimant rfl
  have hmem : missing ";" 12 ∈ tree.nodes := List.mem_of_find?_eq_some hfind
  obtain ⟨line, column, reason, htraverse⟩ := hmalformed.2 ⟨_, hmem, rfl⟩
  obtain ⟨fault, hearliest, heq, -⟩ := herror _ htraverse
  have hunique : ∀ n ∈ tree.nodes, n.isFault = true → n.start ≤ 12 →
      faultError (.ofText text) n = .malformed 1 13 "missing `;`" := by decide +kernel
  refine ⟨hflagged, horder, hclaimant, hfirst.trans hfind, ?_⟩
  rw [htraverse, heq, hunique fault hearliest.mem_nodes hearliest.isFault
    (hearliest.start_le _ hmem rfl)]

end Language

end ForbiddenCalls
