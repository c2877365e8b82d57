import ForbiddenCalls.Proofs.Slices
import ForbiddenCalls.Proofs.TreeWalk
import Mathlib.Data.List.Forall2

/-!
# Layout

Two texts can have the same syntax and be laid out differently: the tokens are the same,
and what stands between them is the same up to blanks.  This module says so of their
syntax trees (`Tree.Relaid`) and draws the consequences for a pair of nodes: they have the
same text up to blanks (`Tree.Relaid.compactText_eq`), the same text if they are tokens
(`Tree.Relaid.text_eq`), and children, named children and fields that are such pairs again.

Everything that walks over the two trees then meets such pairs in step: the nodes in the
order of a walk (`Tree.forall₂_preorder`) and the search for a fault
(`Tree.Relaid.firstFault?`).
-/

namespace ForbiddenCalls

/-! ## Lists and options in step -/

section InStep

variable {α β γ : Type} {R : α → β → Prop} {l : List α} {m : List β}

theorem map_eq_of_forall₂ {f : α → γ} {g : β → γ} (h : List.Forall₂ R l m)
    (hfg : ∀ a b, R a b → f a = g b) : l.map f = m.map g := by
  induction h with
  | nil => rfl
  | cons hab _ ih => rw [List.map_cons, List.map_cons, hfg _ _ hab, ih]

theorem filterMap_eq_of_forall₂ {f : α → Option γ} {g : β → Option γ} (h : List.Forall₂ R l m)
    (hfg : ∀ a b, R a b → f a = g b) : l.filterMap f = m.filterMap g := by
  rw [← Function.id_comp f, ← Function.id_comp g, ← List.filterMap_map, ← List.filterMap_map,
    map_eq_of_forall₂ h hfg]

theorem flatMap_eq_of_forall₂ {f : α → List γ} {g : β → List γ} (h : List.Forall₂ R l m)
    (hfg : ∀ a b, R a b → f a = g b) : l.flatMap f = m.flatMap g := by
  rw [List.flatMap_def, List.flatMap_def, map_eq_of_forall₂ h hfg]

theorem forall₂_filter {p : α → Bool} {q : β → Bool} (h : List.Forall₂ R l m)
    (hpq : ∀ a b, R a b → p a = q b) : List.Forall₂ R (l.filter p) (m.filter q) :=
  List.rel_filter (fun a b hab => iff_of_eq (congrArg (· = true) (hpq a b hab))) h

theorem rel_find?_of_forall₂ {p : α → Bool} {q : β → Bool} (h : List.Forall₂ R l m)
    (hpq : ∀ a b, R a b → p a = q b) :
    Option.Rel (fun a b => p a = true ∧ R a b) (l.find? p) (m.find? q) := by
  induction h with
  | nil => exact .none
  | @cons a b l m hab _ ih =>
    rw [List.find?_cons, List.find?_cons, ← hpq a b hab]
    cases hp : p a with
    | true => exact .some ⟨hp, hab⟩
    | false => exact ih

theorem rel_and_of_forall {P : α → Prop} {o : Option α} {p : Option β} (h : Option.Rel R o p)
    (hP : ∀ a ∈ o, P a) : Option.Rel (fun a b => P a ∧ R a b) o p := by
  cases h with
  | none => exact .none
  | some hab => exact .some ⟨hP _ rfl, hab⟩

theorem rel_of_rel_and {P : α → Prop} {o : Option α} {p : Option β}
    (h : Option.Rel (fun a b => P a ∧ R a b) o p) : Option.Rel R o p := by
  cases h with
  | none => exact .none
  | some hab => exact .some hab.2

theorem rel_head?_of_forall₂ (h : List.Forall₂ R l m) : Option.Rel R l.head? m.head? := by
  cases h with
  | nil => exact .none
  | cons hab _ => exact .some hab

theorem rel_getLast?_of_forall₂ (h : List.Forall₂ R l m) :
    Option.Rel R l.getLast? m.getLast? := by
  rw [← List.head?_reverse, ← List.head?_reverse]
  exact rel_head?_of_forall₂ (List.rel_reverse h)

theorem rel_or {o p : Option α} {o' p' : Option β} (h : Option.Rel R o o')
    (hp : Option.Rel R p p') : Option.Rel R (o.or p) (o'.or p') := by
  cases h with
  | none => exact hp
  | some hab => exact .some hab

theorem map_eq_of_rel {o : Option α} {p : Option β} {f : α → γ} {g : β → γ}
    (h : Option.Rel R o p) (hfg : ∀ a ∈ o, ∀ b ∈ p, R a b → f a = g b) : o.map f = p.map g := by
  cases h with
  | none => rfl
  | some hab => rw [Option.map_some, Option.map_some, hfg _ rfl _ rfl hab]

end InStep

/-! ## Trees in a source -/

namespace Text

theorem compactText_append (a b : String) : compactText (a ++ b) = compactText a ++ compactText b := by
  rw [compactText, String.toList_append, compact_append, String.ofList_append]
  rfl

end Text

namespace Tree

mutual

/-- A tree lies in a source: its nodes start and end at boundaries, and the children of a
node follow one another inside it. -/
def Placed (s : Source) : Tree → Prop
  | node i cs => s.IsBoundary i.start ∧ s.IsBoundary i.stop ∧ i.start ≤ i.stop ∧
      PlacedAll s i.start i.stop cs

/-- Trees follow one another between two offsets. -/
def PlacedAll (s : Source) (start stop : Nat) : List Tree → Prop
  | [] => start ≤ stop
  | t :: ts => start ≤ t.start ∧ t.Placed s ∧ PlacedAll s t.stop stop ts

end

mutual

/-- A tree in one source has the nodes of a tree in another one: at every node the kind, the
flags and the field name are the same, the text of a token is the same, and what stands in
front of, between and behind the children is the same up to blanks. -/
def SameNodes (s s' : Source) : Tree → Tree → Prop
  | node i cs, node i' cs' =>
    i' = { i with start := i'.start, stop := i'.stop } ∧
    (cs = [] → s.slice i.start i.stop = s'.slice i'.start i'.stop) ∧
    SameNodesAll s s' i.start i.stop i'.start i'.stop cs cs'

/-- Trees between two offsets of one source have the nodes of trees between two offsets of
another one. -/
def SameNodesAll (s s' : Source) (start stop start' stop' : Nat) : List Tree → List Tree → Prop
  | [], [] => Text.compactText (s.slice start stop) = Text.compactText (s'.slice start' stop')
  | t :: ts, t' :: ts' =>
    Text.compactText (s.slice start t.start) = Text.compactText (s'.slice start' t'.start) ∧
    SameNodes s s' t t' ∧ SameNodesAll s s' t.stop stop t'.stop stop' ts ts'
  | _, _ => False

end

/-- Two trees in two sources differ in their layout only, and the nodes that are used as
names in them are tokens. -/
structure Relaid (namesOf : Tree → List Tree) (s s' : Source) (t t' : Tree) : Prop where
  placed : t.Placed s
  placed' : t'.Placed s'
  sameNodes : SameNodes s s' t t'
  names : ∀ n ∈ t.nodes, ∀ name ∈ namesOf n, name.children = []

variable {namesOf : Tree → List Tree} {s s' : Source} {t t' : Tree} {ts ts' : List Tree}
  {start stop start' stop' : Nat}

theorem placed_iff : t.Placed s ↔ s.IsBoundary t.start ∧ s.IsBoundary t.stop ∧ t.start ≤ t.stop ∧
    PlacedAll s t.start t.stop t.children := by
  cases t
  rw [Placed]
  exact Iff.rfl

theorem sameNodes_iff : SameNodes s s' t t' ↔
    t'.info = { t.info with start := t'.start, stop := t'.stop } ∧
    (t.children = [] → t.text s = t'.text s') ∧
    SameNodesAll s s' t.start t.stop t'.start t'.stop t.children t'.children := by
  cases t
  cases t'
  rw [SameNodes]
  exact Iff.rfl

theorem PlacedAll.le (h : PlacedAll s start stop ts) : start ≤ stop := by
  induction ts generalizing start with
  | nil => rwa [PlacedAll] at h
  | cons t ts ih =>
    rw [PlacedAll, placed_iff] at h
    obtain ⟨hstart, ⟨-, -, hle, -⟩, hrest⟩ := h
    exact hstart.trans (hle.trans (ih hrest))

/-- A slice that starts with a gap and a tree. -/
theorem PlacedAll.slice_cons (hstart : s.IsBoundary start) (hstop : s.IsBoundary stop)
    (h : PlacedAll s start stop (t :: ts)) :
    s.slice start stop = s.slice start t.start ++ t.text s ++ s.slice t.stop stop := by
  rw [PlacedAll, placed_iff] at h
  obtain ⟨hle, ⟨hbegin, hend, hspan, -⟩, hrest⟩ := h
  rw [text, Source.slice_append_slice hstart hbegin hend hle hspan,
    Source.slice_append_slice hstart hend hstop (hle.trans hspan) hrest.le]

/-- Up to blanks, the text between two offsets is made of the gaps and of the texts of the
trees between them.  The induction moves the start behind the first tree. -/
theorem compactText_slice_eq
    (hts : ∀ t ∈ ts, ∀ {t'}, t.Placed s → t'.Placed s' → SameNodes s s' t t' →
      Text.compactText (t.text s) = Text.compactText (t'.text s'))
    (hstart : s.IsBoundary start) (hstop : s.IsBoundary stop) (hstart' : s'.IsBoundary start')
    (hstop' : s'.IsBoundary stop') (h : PlacedAll s start stop ts)
    (h' : PlacedAll s' start' stop' ts') (hsame : SameNodesAll s s' start stop start' stop' ts ts') :
    Text.compactText (s.slice start stop) = Text.compactText (s'.slice start' stop') := by
  induction ts generalizing ts' start start' with
  | nil =>
    cases ts' with
    | nil => rwa [SameNodesAll] at hsame
    | cons t' ts' => exact hsame.elim
  | cons t ts ih =>
    cases ts' with
    | nil => exact hsame.elim
    | cons t' ts' =>
      rw [h.slice_cons hstart hstop, h'.slice_cons hstart' hstop', Text.compactText_append,
        Text.compactText_append, Text.compactText_append, Text.compactText_append]
      rw [PlacedAll] at h h'
      rw [SameNodesAll] at hsame
      obtain ⟨-, hplaced, hrest⟩ := h
      obtain ⟨-, hplaced', hrest'⟩ := h'
      obtain ⟨hgap, hnode, hsame⟩ := hsame
      have hend := (placed_iff.1 hplaced).2.1
      have hend' := (placed_iff.1 hplaced').2.1
      rw [hgap, hts t List.mem_cons_self hplaced hplaced' hnode,
        ih (fun u hu => hts u (List.mem_cons_of_mem t hu)) hend hend' hrest hrest' hsame]

theorem compactText_text_eq (h : t.Placed s) (h' : t'.Placed s') (hsame : SameNodes s s' t t') :
    Text.compactText (t.text s) = Text.compactText (t'.text s') := by
  induction t using Tree.induction generalizing t' with
  | node i cs ih =>
    obtain ⟨hstart, hstop, -, hplaced⟩ := placed_iff.1 h
    obtain ⟨hstart', hstop', -, hplaced'⟩ := placed_iff.1 h'
    exact compactText_slice_eq (fun c hc => ih c hc) hstart hstop hstart' hstop' hplaced hplaced'
      (sameNodes_iff.1 hsame).2.2

namespace Relaid

/-- The two nodes are the same up to their spans. -/
theorem info_eq (h : Relaid namesOf s s' t t') :
    t'.info = { t.info with start := t'.start, stop := t'.stop } :=
  (sameNodes_iff.1 h.sameNodes).1

theorem kind_eq (h : Relaid namesOf s s' t t') : t.kind = t'.kind := by
  rw [kind, kind, h.info_eq]

theorem isNamed_eq (h : Relaid namesOf s s' t t') : t.info.isNamed = t'.info.isNamed := by
  rw [h.info_eq]

theorem field_eq (h : Relaid namesOf s s' t t') : t.info.field = t'.info.field := by
  rw [h.info_eq]

theorem hasError_eq (h : Relaid namesOf s s' t t') : t.info.hasError = t'.info.hasError := by
  rw [h.info_eq]

theorem isMissing_eq (h : Relaid namesOf s s' t t') : t.info.isMissing = t'.info.isMissing := by
  rw [h.info_eq]

theorem isFault_eq (h : Relaid namesOf s s' t t') : t.isFault = t'.isFault := by
  rw [isFault, isFault, h.info_eq]

/-- **A token has the same text in both layouts.** -/
theorem text_eq (h : Relaid namesOf s s' t t') (htoken : t.children = []) :
    t.text s = t'.text s' :=
  (sameNodes_iff.1 h.sameNodes).2.1 htoken

/-- What is used as a name has the same text in both layouts. -/
theorem map_text_eq {o o' : Option Tree} (h : Relaid namesOf s s' t t')
    (ho : Option.Rel (Relaid namesOf s s') o o') (hname : ∀ name ∈ o, name ∈ namesOf t) :
    o.map (text s) = o'.map (text s') :=
  map_eq_of_rel ho fun name hmem _ _ hpair =>
    hpair.text_eq (h.names t t.self_mem_nodes name (hname name hmem))

/-- So have several names. -/
theorem map_text_eq_of_forall₂ (h : Relaid namesOf s s' t t')
    (hts : List.Forall₂ (Relaid namesOf s s') ts ts') (hnames : ∀ name ∈ ts, name ∈ namesOf t) :
    ts.map (text s) = ts'.map (text s') :=
  map_eq_of_forall₂ ((List.forall₂_and_left _ _).2 ⟨hnames, hts⟩) fun name _ hpair =>
    hpair.2.text_eq (h.names t t.self_mem_nodes name hpair.1)

/-- **A node has the same text in both layouts, up to blanks.** -/
theorem compactText_eq (h : Relaid namesOf s s' t t') :
    Text.compactText (t.text s) = Text.compactText (t'.text s') :=
  compactText_text_eq h.placed h.placed' h.sameNodes

/-- Trees with the same nodes come in pairs. -/
theorem forall₂_of_sameNodesAll (h : PlacedAll s start stop ts) (h' : PlacedAll s' start' stop' ts')
    (hsame : SameNodesAll s s' start stop start' stop' ts ts')
    (hnames : ∀ t ∈ ts, ∀ n ∈ t.nodes, ∀ name ∈ namesOf n, name.children = []) :
    List.Forall₂ (Relaid namesOf s s') ts ts' := by
  induction ts generalizing ts' start start' with
  | nil =>
    cases ts' with
    | nil => exact .nil
    | cons t' ts' => exact hsame.elim
  | cons t ts ih =>
    cases ts' with
    | nil => exact hsame.elim
    | cons t' ts' =>
      rw [PlacedAll] at h h'
      rw [SameNodesAll] at hsame
      exact .cons ⟨h.2.1, h'.2.1, hsame.2.1, hnames t List.mem_cons_self⟩
        (ih h.2.2 h'.2.2 hsame.2.2 fun u hu => hnames u (List.mem_cons_of_mem t hu))

theorem children (h : Relaid namesOf s s' t t') :
    List.Forall₂ (Relaid namesOf s s') t.children t'.children :=
  forall₂_of_sameNodesAll (placed_iff.1 h.placed).2.2.2 (placed_iff.1 h.placed').2.2.2
    (sameNodes_iff.1 h.sameNodes).2.2 fun _ hc n hn => h.names n (mem_nodes_of_mem_children hc hn)

/-! ## Parts of a pair of nodes -/

theorem namedChildren (h : Relaid namesOf s s' t t') :
    List.Forall₂ (Relaid namesOf s s') t.namedChildren t'.namedChildren :=
  forall₂_filter h.children fun _ _ hc => hc.isNamed_eq

theorem field? (h : Relaid namesOf s s' t t') (f : FieldName) :
    Option.Rel (Relaid namesOf s s') (t.field? f) (t'.field? f) :=
  rel_of_rel_and (rel_find?_of_forall₂ h.children fun _ _ hc => by rw [hc.field_eq])

/-- The first children of some kinds are of one of them. -/
theorem firstNamed?_and_kind (h : Relaid namesOf s s' t t') (kinds : List String) :
    Option.Rel (fun c c' => kinds.contains c.kind = true ∧ Relaid namesOf s s' c c')
      (t.firstNamed? kinds) (t'.firstNamed? kinds) :=
  rel_find?_of_forall₂ h.namedChildren fun _ _ hc => by rw [hc.kind_eq]

theorem firstNamed? (h : Relaid namesOf s s' t t') (kinds : List String) :
    Option.Rel (Relaid namesOf s s') (t.firstNamed? kinds) (t'.firstNamed? kinds) :=
  rel_of_rel_and (h.firstNamed?_and_kind kinds)

/-! ## Faults -/

/-- The search for a fault finds a pair. -/
theorem firstFaultIn? (h : List.Forall₂ (Relaid namesOf s s') ts ts') :
    Option.Rel (Relaid namesOf s s') (Tree.firstFaultIn? ts) (Tree.firstFaultIn? ts') := by
  induction ts using Tree.firstFaultIn?.induct generalizing ts' with
  | case1 =>
    cases h
    rw [Tree.firstFaultIn?]
    exact .none
  | case2 t ts hfault =>
    obtain _ | ⟨ht, -⟩ := h
    rw [Tree.firstFaultIn?, Tree.firstFaultIn?, if_pos hfault, if_pos (ht.isFault_eq ▸ hfault)]
    exact .some ht
  | case3 t ts hfault herror ih =>
    obtain _ | ⟨ht, hts⟩ := h
    rw [Tree.firstFaultIn?, Tree.firstFaultIn?, if_neg hfault, if_pos herror,
      if_neg (ht.isFault_eq ▸ hfault), if_pos (ht.hasError_eq ▸ herror)]
    exact ih (List.rel_append ht.children hts)
  | case4 t ts hfault herror ih =>
    obtain _ | ⟨ht, hts⟩ := h
    rw [Tree.firstFaultIn?, Tree.firstFaultIn?, if_neg hfault, if_neg herror,
      if_neg (ht.isFault_eq ▸ hfault), if_neg (ht.hasError_eq ▸ herror)]
    exact ih hts

theorem firstFault? (h : Relaid namesOf s s' t t') :
    Option.Rel (Relaid namesOf s s') t.firstFault? t'.firstFault? :=
  firstFaultIn? (.cons h .nil)

end Relaid

/-! ## Walks -/

/-- Nodes that are met on a walk, related as trees, and so are the nodes above them. -/
def RelatedInPlace (R : Tree → Tree → Prop) (n n' : Located) : Prop :=
  R n.tree n'.tree ∧ List.Forall₂ R n.ancestors n'.ancestors

/-- **Two walks in step.**  If a relation passes from two nodes to their children, walks
over related trees meet related nodes below related nodes. -/
theorem forall₂_preorder {R : Tree → Tree → Prop}
    (hR : ∀ t t', R t t' → List.Forall₂ R t.children t'.children) (t : Tree) :
    ∀ {t' : Tree} {above above' : List Tree}, R t t' → List.Forall₂ R above above' →
      List.Forall₂ (RelatedInPlace R) (preorder above t) (preorder above' t') := by
  induction t using Tree.induction with
  | node i cs ih =>
    intro t' above above' h habove
    rw [preorder_eq, preorder_eq]
    refine .cons ⟨h, habove⟩ ?_
    have habove : List.Forall₂ R (node i cs :: above) (t' :: above') := .cons h habove
    -- The induction hypothesis is about children, so each pair remembers that it is one.
    have hpairs : List.Forall₂ (fun c c' => c ∈ cs ∧ R c c') cs t'.children :=
      (List.forall₂_and_left _ _).2 ⟨fun _ hc => hc, hR _ _ h⟩
    rw [preorderAll_eq_flatMap, preorderAll_eq_flatMap]
    exact List.rel_flatMap hpairs fun c c' hc => ih c hc.1 hc.2 habove

end Tree

end ForbiddenCalls
