import ForbiddenCalls.Proofs.NameResolution
import ForbiddenCalls.Syntax.Java

/-!
# Types that need no import

Some types are known in a file that does not import them, each under the last segment of its
full name.  To import one of them all the same should change nothing.  It does change
something, since the table of these types is asked last, and for a name with a dot it is not
asked at all.  So the nested type `Thread.State` is known in a file that imports
`java.lang.Thread` and unknown in one that relies on `Thread` being there.

The import is invisible to all other names, and therefore to all receivers that do not ask
for one of those.

* `Facts.AddsImport.typesNamed_eq`, `Facts.AddsImport.typesNamed_of_ne`: the import binds one
  name.
* `Facts.OpenedBy`: the names inside a type that only an import of the type makes known.
* `Facts.AsksFor`, `SymbolTable.resolveReceiver_of_asksFor`: a receiver is resolved through
  the name of one type, or not at all.
* `SymbolTable.answers_eq_iff_not_openedBy`: the answers that the import leaves as they are.
* `SymbolTable.resolveType_threadState`: an answer that it changes.
-/

namespace ForbiddenCalls

/-- A table of types that are known without an import: each one under the last segment of its
full name, and no two under the same name. -/
structure IsImplicitTable (implicit : List (String × String)) : Prop where
  nodup : (implicit.map Prod.fst).Nodup
  lastSegment_eq : ∀ entry ∈ implicit, Text.lastSegment entry.2 = entry.1

/-- Owners are known for the same types only. -/
theorem OwnerType.ofOption_inj {a b : Option String} : ofOption a = ofOption b ↔ a = b := by
  refine ⟨fun h => ?_, congrArg ofOption⟩
  have htype := congrArg OwnerType.type? h
  rwa [type?_ofOption, type?_ofOption] at htype

variable {f g : Facts} {implicit : List (String × String)}
  {simple type name head rest receiver : String}

/-- A table gives a name the one type that it has under this name. -/
theorem IsImplicitTable.find?_eq (h : IsImplicitTable implicit) (hentry : (simple, type) ∈ implicit) :
    (implicit.find? fun entry => entry.1 = simple) = some (simple, type) := by
  have hnodup := h.nodup
  clear h
  induction implicit with
  | nil => exact absurd hentry List.not_mem_nil
  | cons entry entries ih =>
    rw [List.map_cons, List.nodup_cons] at hnodup
    rcases List.mem_cons.1 hentry with rfl | hmem
    · exact List.find?_cons_of_pos (by simp)
    · have hne : entry.1 ≠ simple := by
        intro heq
        exact hnodup.1 (heq ▸ List.mem_map_of_mem hmem)
      rw [List.find?_cons_of_neg (by simpa using hne)]
      exact ih hmem hnodup.2

namespace Facts

/-! ## One more import -/

/-- A file leaves a name free: no import of a type is seen under the name, and no declared
type has it as its simple or its nested name. -/
structure LeavesFree (f : Facts) (name : String) : Prop where
  imports : ∀ i ∈ f.imports, i.kind = .type → i.localName ≠ name
  declarations : ∀ d ∈ f.declarations, d.name ≠ name ∧ d.nestedName ≠ name

/-- A file has the same facts as another one and somewhere one more import of a type. -/
def AddsImport (f g : Facts) (type : String) : Prop :=
  ∃ before after, f.imports = before ++ after ∧
    g = { f with imports := before ++ ⟨type, none, .type⟩ :: after }

theorem typesNamed_eq_empty_iff : f.typesNamed name = ∅ ↔ f.LeavesFree name := by
  constructor
  · intro h
    have hfree : ∀ type, ¬ f.BindsType name type := fun type hbinds =>
      Set.eq_empty_iff_forall_notMem.1 h type hbinds
    refine ⟨fun i hi hkind hname => ?_, fun d hd => ⟨fun hname => ?_, fun hname => ?_⟩⟩
    · exact hfree _ (.imported hi hkind (Import.localName_eq_iff.1 hname))
    · exact hfree _ (.declared hd (.inl hname.symm) (qualifies_iff.2 rfl))
    · exact hfree _ (.declared hd (.inr hname.symm) (qualifies_iff.2 rfl))
  · intro h
    refine Set.eq_empty_iff_forall_notMem.2 fun type hbinds => ?_
    rcases hbinds with ⟨hi, hkind, hseen⟩ | ⟨hd, hname, -⟩
    · exact h.imports _ hi hkind (Import.localName_eq_iff.2 hseen)
    · rcases hname with hname | hname
      · exact (h.declarations _ hd).1 hname.symm
      · exact (h.declarations _ hd).2 hname.symm

namespace AddsImport

theorem mem_imports_iff (h : f.AddsImport g type) {i : Import} :
    i ∈ g.imports ↔ i = ⟨type, none, .type⟩ ∨ i ∈ f.imports := by
  obtain ⟨before, after, himports, rfl⟩ := h
  simp only [himports, List.mem_append, List.mem_cons]
  exact or_left_comm

theorem declarations_eq (h : f.AddsImport g type) : g.declarations = f.declarations := by
  obtain ⟨before, after, -, rfl⟩ := h
  rfl

theorem typesWritten_eq (h : f.AddsImport g type) : g.typesWritten = f.typesWritten := by
  obtain ⟨before, after, -, rfl⟩ := h
  rfl

/-- What a name is bound to with the import. -/
theorem bindsType_iff (h : f.AddsImport g type) {bound : String} :
    g.BindsType name bound ↔
      (Text.lastSegment type = name ∧ bound = type) ∨ f.BindsType name bound := by
  have hqualifies {nestedName : String} : g.Qualifies nestedName bound ↔
      f.Qualifies nestedName bound := by
    obtain ⟨before, after, -, rfl⟩ := h
    rw [qualifies_iff, qualifies_iff]
    rfl
  constructor
  · rintro (⟨hi, hkind, hseen⟩ | ⟨hd, hname, hfull⟩)
    · rcases h.mem_imports_iff.1 hi with rfl | hi
      · exact .inl ⟨Import.localName_eq_iff.2 hseen, rfl⟩
      · exact .inr (.imported hi hkind hseen)
    · rw [h.declarations_eq] at hd
      exact .inr (.declared hd hname (hqualifies.1 hfull))
  · rintro (⟨hname, rfl⟩ | hbinds)
    · exact .imported (h.mem_imports_iff.2 (.inl rfl)) rfl (Import.localName_eq_iff.1 hname)
    · rcases hbinds with ⟨hi, hkind, hseen⟩ | ⟨hd, hname, hfull⟩
      · exact .imported (h.mem_imports_iff.2 (.inr hi)) hkind hseen
      · exact .declared (h.declarations_eq ▸ hd) hname (hqualifies.2 hfull)

/-- The import binds its own name to the type. -/
theorem typesNamed_eq (h : f.AddsImport g type) (hsimple : Text.lastSegment type = simple)
    (hfree : f.LeavesFree simple) : g.typesNamed simple = {type} := by
  have hempty := typesNamed_eq_empty_iff.2 hfree
  ext bound
  show g.BindsType simple bound ↔ bound = type
  rw [h.bindsType_iff]
  constructor
  · rintro (⟨-, hbound⟩ | hbinds)
    · exact hbound
    · exact absurd hbinds (Set.eq_empty_iff_forall_notMem.1 hempty bound)
  · intro hbound
    exact .inl ⟨hsimple, hbound⟩

/-- The import leaves every other name alone. -/
theorem typesNamed_of_ne (h : f.AddsImport g type) (hne : name ≠ Text.lastSegment type) :
    g.typesNamed name = f.typesNamed name := by
  ext bound
  show g.BindsType name bound ↔ f.BindsType name bound
  rw [h.bindsType_iff]
  exact or_iff_right fun hown => hne hown.1.symm

theorem typesNamed_join (h : f.AddsImport g type) (head rest : String) :
    g.typesNamed (head ++ "." ++ rest) = f.typesNamed (head ++ "." ++ rest) := by
  have hdot : '.' ∉ (Text.lastSegment type).toList := (Text.lastSegment_eq_iff.1 rfl).1
  refine h.typesNamed_of_ne fun heq => hdot ?_
  rw [← heq]
  simp

/-- A name that is bound to something is not the one that the import binds. -/
theorem typesNamed_of_nonempty (h : f.AddsImport g type)
    (hfree : f.LeavesFree (Text.lastSegment type)) (hbound : (f.typesNamed name).Nonempty) :
    g.typesNamed name = f.typesNamed name := by
  refine h.typesNamed_of_ne fun heq => ?_
  rw [heq, typesNamed_eq_empty_iff.2 hfree] at hbound
  exact Set.not_nonempty_empty hbound

end AddsImport

/-! ## Names inside the type -/

/-- A name is opened by the import of a type with a given simple name: it is bound to nothing
itself, and it goes on behind the simple name.  (For a type without a package it must not be
a full name already, because then both readings of it are the same.) -/
structure OpenedBy (f : Facts) (simple type name : String) : Prop where
  free : f.LeavesFree name
  inside : ∃ rest, name = simple ++ "." ++ rest
  notFull : type = simple → ¬ IsFullName simple name

/-- What a name denotes that goes on behind a free name: the full name that it may be. -/
theorem denotes_behind_free (hsimple : f.LeavesFree simple) (hdot : '.' ∉ simple.toList)
    (rest : String) (hname : f.LeavesFree (simple ++ "." ++ rest)) :
    f.Denotes implicit (simple ++ "." ++ rest)
      (if SymbolTable.looksQualified simple (simple ++ "." ++ rest) then
        some (simple ++ "." ++ rest) else none) := by
  have hempty := typesNamed_eq_empty_iff.2 hname
  have hhead := typesNamed_eq_empty_iff.2 hsimple
  by_cases hfull : IsFullName simple (simple ++ "." ++ rest)
  · rw [if_pos (SymbolTable.looksQualified_iff.2 hfull)]
    exact .full hempty rfl hdot hhead hfull
  · rw [if_neg (mt SymbolTable.looksQualified_iff.1 hfull)]
    exact .unknown hempty rfl hdot hhead hfull

/-- With the import the same name denotes a nested type. -/
theorem AddsImport.denotes_inside (h : f.AddsImport g type)
    (hsimple : Text.lastSegment type = simple) (hfree : f.LeavesFree simple) (rest : String)
    (hname : f.LeavesFree (simple ++ "." ++ rest)) :
    g.Denotes implicit (simple ++ "." ++ rest) (some (type ++ "." ++ rest)) := by
  have hdot : '.' ∉ simple.toList := (Text.lastSegment_eq_iff.1 hsimple).1
  have hempty : g.typesNamed (simple ++ "." ++ rest) = ∅ := by
    rw [h.typesNamed_join]
    exact typesNamed_eq_empty_iff.2 hname
  exact .nested hempty rfl hdot (h.typesNamed_eq hsimple hfree)

/-- **The import is invisible to a name that does not go on behind the simple name of the
type.**  The simple name itself denotes the type before, by the table, and after, by the
import; every other name meets the same bindings. -/
theorem AddsImport.denotes_of_not_inside (h : f.AddsImport g type)
    (himplicit : IsImplicitTable implicit) (hentry : (simple, type) ∈ implicit)
    (hfree : f.LeavesFree simple)
    (hinside : ¬ (f.LeavesFree name ∧ ∃ rest, name = simple ++ "." ++ rest))
    {denoted : Option String} (hdenoted : f.Denotes implicit name denoted) :
    g.Denotes implicit name denoted := by
  have hsimple : Text.lastSegment type = simple := himplicit.lastSegment_eq (simple, type) hentry
  have hbound : ∀ other, (f.typesNamed other).Nonempty →
      g.typesNamed other = f.typesNamed other :=
    fun _ => h.typesNamed_of_nonempty (hsimple ▸ hfree)
  -- behind a free name there is no type inside
  have hhead : ∀ head rest, name = head ++ "." ++ rest → f.typesNamed name = ∅ →
      f.typesNamed head = ∅ → g.typesNamed head = ∅ := by
    intro head rest hsplit hname hnone
    rw [h.typesNamed_of_ne fun heq => ?_]
    · exact hnone
    · exact hinside ⟨typesNamed_eq_empty_iff.1 hname, rest, by rw [hsplit, heq, hsimple]⟩
  cases hdenoted with
  | bound hname =>
    refine .bound ?_
    rw [hbound _ (hname ▸ Set.singleton_nonempty _), hname]
  | ambiguous hname =>
    refine .ambiguous ?_
    rwa [hbound _ hname.nonempty]
  | nested hname hsplit hcut houter =>
    subst hsplit
    refine .nested ((h.typesNamed_join _ _).trans hname) rfl hcut ?_
    rw [hbound _ (houter ▸ Set.singleton_nonempty _), houter]
  | nestedAmbiguous hname hsplit hcut houter =>
    subst hsplit
    refine .nestedAmbiguous ((h.typesNamed_join _ _).trans hname) rfl hcut ?_
    rwa [hbound _ houter.nonempty]
  | full hname hsplit hcut houter hfull =>
    have hnone := hhead _ _ hsplit hname houter
    rw [hsplit] at hname
    exact .full (by rw [hsplit, h.typesNamed_join, hname]) hsplit hcut hnone hfull
  | unknown hname hsplit hcut houter hfull =>
    have hnone := hhead _ _ hsplit hname houter
    rw [hsplit] at hname
    exact .unknown (by rw [hsplit, h.typesNamed_join, hname]) hsplit hcut hnone hfull
  | implicit hname hcut =>
    by_cases heq : name = simple
    · subst heq
      rw [himplicit.find?_eq hentry]
      exact .bound (h.typesNamed_eq hsimple hfree)
    · refine .implicit ?_ hcut
      rw [h.typesNamed_of_ne (by rwa [hsimple]), hname]

/-! ## Receivers -/

/-- **What a receiver asks for**: the name of the type that is written for the variable that it
is, or its own text where it is not about a variable.  `written` gives the types that are
written for a variable. -/
inductive AsksFor (written : String → Set String) : String → String → Prop where
  | field {receiver name type : String} : receiver = "this." ++ name → written name = {type} →
      AsksFor written receiver type
  | ofVariable {receiver type : String} : (∀ name, receiver ≠ "this." ++ name) →
      Text.isIdentifier receiver = true → written receiver = {type} → AsksFor written receiver type
  | ofType {receiver : String} : (∀ name, receiver ≠ "this." ++ name) →
      Text.isIdentifier receiver = true → written receiver = ∅ → AsksFor written receiver receiver
  | dottedType {receiver head rest : String} : (∀ name, receiver ≠ "this." ++ name) →
      Text.IsDottedName receiver → receiver = head ++ "." ++ rest → '.' ∉ head.toList →
      written head = ∅ → AsksFor written receiver receiver

end Facts

namespace SymbolTable

open Facts (AsksFor)

/-- The owner for a receiver is the type that it asks for. -/
theorem resolveReceiver_of_asksFor (h : AsksFor f.typesWritten receiver name)
    (implicit : List (String × String)) :
    (ofFacts f implicit).resolveReceiver receiver =
      .ofOption ((ofFacts f implicit).resolveType name) := by
  obtain ⟨denoted, hdenoted⟩ := f.exists_denotes implicit name
  rw [resolveType_of_denotes hdenoted]
  refine resolveReceiver_of_owns ?_
  cases h with
  | field hthis hwritten => exact .field hthis (.written hwritten hdenoted)
  | ofVariable hthis hidentifier hwritten =>
    exact .ofVariable hthis hidentifier (hwritten ▸ Set.singleton_nonempty _)
      (.written hwritten hdenoted)
  | ofType hthis hidentifier hwritten => exact .ofType hthis hidentifier hwritten hdenoted
  | dottedType hthis hdotted hsplit hcut hwritten =>
    exact .dottedType hthis hdotted hsplit hcut hwritten hdenoted

/-- A receiver that asks for nothing has no known owner. -/
theorem resolveReceiver_of_not_asksFor (h : ∀ name, ¬ AsksFor f.typesWritten receiver name)
    (implicit : List (String × String)) :
    (ofFacts f implicit).resolveReceiver receiver = .unresolved := by
  obtain ⟨owner, howner⟩ := f.exists_owns implicit receiver
  rw [resolveReceiver_of_owns howner]
  cases howner with
  | field hthis hvariable =>
    cases hvariable with
    | written hwritten _ => exact absurd (.field hthis hwritten) (h _)
    | unknown _ => rfl
  | unnamed _ _ => rfl
  | ofVariable hthis hidentifier _ hvariable =>
    cases hvariable with
    | written hwritten _ => exact absurd (.ofVariable hthis hidentifier hwritten) (h _)
    | unknown _ => rfl
  | ofType hthis hidentifier hwritten _ =>
    exact absurd (.ofType hthis hidentifier hwritten) (h _)
  | memberOfVariable _ _ _ _ _ => rfl
  | dottedType hthis hdotted hsplit hcut hwritten _ =>
    exact absurd (.dottedType hthis hdotted hsplit hcut hwritten) (h _)

/-! ## What the import changes -/

/-- The import changes what a name denotes exactly if it opens the name. -/
theorem resolveType_eq_iff_not_openedBy (himplicit : IsImplicitTable implicit)
    (hentry : (simple, type) ∈ implicit) (hfree : f.LeavesFree simple)
    (hadds : f.AddsImport g type) (name : String) :
    (ofFacts g implicit).resolveType name = (ofFacts f implicit).resolveType name ↔
      ¬ f.OpenedBy simple type name := by
  have hsimple : Text.lastSegment type = simple := himplicit.lastSegment_eq (simple, type) hentry
  by_cases hinside : f.LeavesFree name ∧ ∃ rest, name = simple ++ "." ++ rest
  · obtain ⟨hname, rest, rfl⟩ := hinside
    have hdot : '.' ∉ simple.toList := (Text.lastSegment_eq_iff.1 hsimple).1
    rw [resolveType_of_denotes (hadds.denotes_inside hsimple hfree rest hname),
      resolveType_of_denotes (Facts.denotes_behind_free hfree hdot rest hname)]
    constructor
    · rintro heq ⟨-, -, hfull⟩
      split at heq
      · next hlooks =>
        have htype : type = simple := by
          have hjoin := Option.some.inj heq
          rw [← String.toList_inj, Text.toList_join, Text.toList_join] at hjoin
          exact String.toList_inj.1 (List.append_cancel_right hjoin)
        exact hfull htype (looksQualified_iff.1 hlooks)
      · exact nomatch heq
    · intro hopened
      have hboth : type = simple ∧ Facts.IsFullName simple (simple ++ "." ++ rest) := by
        by_contra hboth
        exact hopened ⟨hname, ⟨rest, rfl⟩, fun htype hfull => hboth ⟨htype, hfull⟩⟩
      rw [if_pos (looksQualified_iff.2 hboth.2), hboth.1]
  · have hopened : ¬ f.OpenedBy simple type name := fun h => hinside ⟨h.free, h.inside⟩
    obtain ⟨denoted, hdenoted⟩ := f.exists_denotes implicit name
    rw [resolveType_of_denotes hdenoted, resolveType_of_denotes
      (hadds.denotes_of_not_inside himplicit hentry hfree hinside hdenoted)]
    exact iff_of_true rfl hopened

/-- **The answers that an import of an implicit type leaves as they are.**  Let a table of
implicit types have a type under a simple name that the file leaves free, and let the file be
given an import of this type.  Then the names that denote something else than before are
exactly those that the import opens, and the receivers with another owner than before are
exactly those that ask for such a name.  Without the import such a name denotes itself if it
looks like a full name and nothing otherwise; with it, it denotes the nested type. -/
theorem answers_eq_iff_not_openedBy (himplicit : IsImplicitTable implicit)
    (hentry : (simple, type) ∈ implicit) (hfree : f.LeavesFree simple)
    (hadds : f.AddsImport g type) :
    (∀ name, (ofFacts g implicit).resolveType name = (ofFacts f implicit).resolveType name ↔
      ¬ f.OpenedBy simple type name) ∧
    (∀ receiver, (ofFacts g implicit).resolveReceiver receiver =
        (ofFacts f implicit).resolveReceiver receiver ↔
      ∀ name, AsksFor f.typesWritten receiver name → ¬ f.OpenedBy simple type name) ∧
    ∀ rest, f.LeavesFree (simple ++ "." ++ rest) →
      (ofFacts f implicit).resolveType (simple ++ "." ++ rest) =
        (if looksQualified simple (simple ++ "." ++ rest) then some (simple ++ "." ++ rest)
          else none) ∧
      (ofFacts g implicit).resolveType (simple ++ "." ++ rest) = some (type ++ "." ++ rest) := by
  have hsimple : Text.lastSegment type = simple := himplicit.lastSegment_eq (simple, type) hentry
  have hdot : '.' ∉ simple.toList := (Text.lastSegment_eq_iff.1 hsimple).1
  have hnames := resolveType_eq_iff_not_openedBy himplicit hentry hfree hadds
  -- a receiver asks the same in both files
  have hboth : ∀ receiver name, AsksFor f.typesWritten receiver name →
      ((ofFacts g implicit).resolveReceiver receiver = (ofFacts f implicit).resolveReceiver receiver ↔
        (ofFacts g implicit).resolveType name = (ofFacts f implicit).resolveType name) := by
    intro receiver name hname
    have hname' : AsksFor g.typesWritten receiver name := by rwa [hadds.typesWritten_eq]
    rw [resolveReceiver_of_asksFor hname, resolveReceiver_of_asksFor hname']
    exact OwnerType.ofOption_inj
  refine ⟨hnames, fun receiver => ⟨fun heq name hname => ?_, fun hopened => ?_⟩,
    fun rest hrest => ⟨?_, ?_⟩⟩
  · exact (hnames name).1 ((hboth receiver name hname).1 heq)
  · by_cases hasks : ∃ name, AsksFor f.typesWritten receiver name
    · obtain ⟨name, hname⟩ := hasks
      exact (hboth receiver name hname).2 ((hnames name).2 (hopened name hname))
    · have hnone := not_exists.1 hasks
      have hnone' : ∀ name, ¬ AsksFor g.typesWritten receiver name := by
        rwa [hadds.typesWritten_eq]
      rw [resolveReceiver_of_not_asksFor hnone, resolveReceiver_of_not_asksFor hnone']
  · exact resolveType_of_denotes (Facts.denotes_behind_free hfree hdot rest hrest)
  · exact resolveType_of_denotes (hadds.denotes_inside hsimple hfree rest hrest)

/-! ## A nested type of `java.lang` -/

/-- The types of `java.lang` are such a table. -/
theorem isImplicitTable_java : IsImplicitTable Java.implicitTypes where
  nodup := by decide
  lastSegment_eq := by decide

/-- A file that declares a thread and the state of one. -/
def threadFacts (imports : List Import) : Facts where
  imports
  typedVariables := [⟨"worker", "Thread"⟩, ⟨"state", "Thread.State"⟩]

theorem leavesFree_threadFacts (name : String) : (threadFacts []).LeavesFree name where
  imports := nofun
  declarations := nofun

theorem addsImport_threadFacts :
    (threadFacts []).AddsImport (threadFacts [⟨"java.lang.Thread", none, .type⟩])
      "java.lang.Thread" :=
  ⟨[], [], rfl, rfl⟩

theorem openedBy_threadState : (threadFacts []).OpenedBy "Thread" "java.lang.Thread" "Thread.State" where
  free := leavesFree_threadFacts _
  inside := ⟨"State", by decide⟩
  notFull h := absurd h (by decide)

/-- What a file without imports takes for a thread is one, but what it takes for the state of
a thread is nothing. -/
theorem answers_eq_iff_not_openedBy_thread :
    IsImplicitTable Java.implicitTypes ∧ ("Thread", "java.lang.Thread") ∈ Java.implicitTypes ∧
    (threadFacts []).LeavesFree "Thread" ∧
    (threadFacts []).AddsImport (threadFacts [⟨"java.lang.Thread", none, .type⟩])
      "java.lang.Thread" ∧
    (ofFacts (threadFacts [⟨"java.lang.Thread", none, .type⟩]) Java.implicitTypes).resolveType
      "Thread" = (ofFacts (threadFacts []) Java.implicitTypes).resolveType "Thread" ∧
    (ofFacts (threadFacts [⟨"java.lang.Thread", none, .type⟩]) Java.implicitTypes).resolveReceiver
      "state" ≠ (ofFacts (threadFacts []) Java.implicitTypes).resolveReceiver "state" := by
  have hentry : ("Thread", "java.lang.Thread") ∈ Java.implicitTypes := by decide
  obtain ⟨hnames, hreceivers, -⟩ := answers_eq_iff_not_openedBy isImplicitTable_java hentry
    (leavesFree_threadFacts "Thread") addsImport_threadFacts
  refine ⟨isImplicitTable_java, hentry, leavesFree_threadFacts _, addsImport_threadFacts, ?_, ?_⟩
  · refine (hnames "Thread").2 fun hopened => ?_
    obtain ⟨rest, hrest⟩ := hopened.inside
    have hdot : '.' ∉ "Thread".toList := by decide
    exact hdot (hrest ▸ by simp)
  · intro heq
    have hthis : ∀ name, "state" ≠ "this." ++ name := ne_this_of_fieldOfThis? (by decide)
    have hwritten : (threadFacts []).typesWritten "state" = {"Thread.State"} := by
      ext written
      simp [Facts.typesWritten, threadFacts, eq_comm]
    exact (hreceivers "state").1 heq "Thread.State" (.ofVariable hthis (by decide) hwritten)
      openedBy_threadState

/-- **An answer that the import changes.**  `Thread` is known without an import, and nothing
else in the file has this name.  To import `java.lang.Thread` makes the name `Thread.State`
known all the same, and the receiver `Thread.State` with it. -/
theorem resolveType_threadState :
    IsImplicitTable Java.implicitTypes ∧ ("Thread", "java.lang.Thread") ∈ Java.implicitTypes ∧
    (threadFacts []).LeavesFree "Thread" ∧
    (threadFacts []).AddsImport (threadFacts [⟨"java.lang.Thread", none, .type⟩])
      "java.lang.Thread" ∧
    (ofFacts (threadFacts []) Java.implicitTypes).resolveType "Thread.State" = none ∧
    (ofFacts (threadFacts [⟨"java.lang.Thread", none, .type⟩]) Java.implicitTypes).resolveType
      "Thread.State" = some "java.lang.Thread.State" ∧
    (ofFacts (threadFacts []) Java.implicitTypes).resolveReceiver "Thread.State" = .unresolved ∧
    (ofFacts (threadFacts [⟨"java.lang.Thread", none, .type⟩]) Java.implicitTypes).resolveReceiver
      "Thread.State" = .resolved "java.lang.Thread.State" := by
  have hsplit : "Thread.State" = "Thread" ++ "." ++ "State" := by decide
  have hdot : '.' ∉ "Thread".toList := by decide
  have hbefore : (ofFacts (threadFacts []) Java.implicitTypes).resolveType "Thread.State" = none := by
    have hlooks : looksQualified "Thread" "Thread.State" = false := by decide
    have hdenotes : (threadFacts []).Denotes Java.implicitTypes _ _ :=
      Facts.denotes_behind_free (leavesFree_threadFacts "Thread") hdot "State"
        (leavesFree_threadFacts _)
    rw [← hsplit, hlooks] at hdenotes
    exact resolveType_of_denotes hdenotes
  have hafter : (ofFacts (threadFacts [⟨"java.lang.Thread", none, .type⟩])
      Java.implicitTypes).resolveType "Thread.State" = some "java.lang.Thread.State" :=
    resolveType_of_denotes (addsImport_threadFacts.denotes_inside (by decide)
      (leavesFree_threadFacts "Thread") "State" (leavesFree_threadFacts _))
  have hasks : ∀ imports, AsksFor (threadFacts imports).typesWritten "Thread.State" "Thread.State" := by
    intro imports
    have hthis : ∀ name, "Thread.State" ≠ "this." ++ name := ne_this_of_fieldOfThis? (by decide)
    have hwritten : (threadFacts imports).typesWritten "Thread" = ∅ := by
      simp [Facts.typesWritten, threadFacts]
    exact .dottedType hthis (Text.all_isIdentifier_segments_iff.1 (by decide)) hsplit hdot hwritten
  refine ⟨isImplicitTable_java, by decide, leavesFree_threadFacts _, addsImport_threadFacts,
    hbefore, hafter, ?_, ?_⟩
  · rw [resolveReceiver_of_asksFor (hasks []), hbefore]
    rfl
  · rw [resolveReceiver_of_asksFor (hasks _), hafter]
    rfl

end SymbolTable

end ForbiddenCalls
