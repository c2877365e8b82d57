import ForbiddenCalls.Proofs.DottedNames
import ForbiddenCalls.Syntax.SymbolTable
import Mathlib.Data.List.Induction
import Mathlib.Data.Set.Subsingleton

/-!
# What a name denotes in a file

A symbol table is built in one pass that updates it in place, and it answers by look-ups
that fall back on one another.  What it answers can be said without it.  The facts about
a file bind a name to a *set* of types, a variable to the set of types that are written
for it, and a member to the set of its owners; a set with one element is an answer, a set
with more is none, and only where the set is empty the next place is asked.  So neither
the order of the facts nor the number of times one occurs matters.

* `Scope.tells_ofList`: a scope tells a name with no value from one with a single value and
  from one with several.
* `Facts.Denotes`, `Facts.VariableDenotes`, `Facts.Owns`, `Facts.OwnsBare`: the rules, on
  sets.
* `SymbolTable.answers_iff`: the answers of the table are those of the rules.
* `SymbolTable.answers_iff_helper`: the answers in a file with a package and a nested type.
-/

namespace ForbiddenCalls

/-! ## Scopes and sets of values -/

namespace Binding

/-- What a name is bound to tells how many values it was given: none, one, or several. -/
def Tells : Option Binding → Set String → Prop
  | none, values => values = ∅
  | some (unique value), values => values = {value}
  | some ambiguous, values => values.Nontrivial

variable {old : Option Binding} {values : Set String}

/-- One more value. -/
theorem Tells.add (h : Tells old values) (value : String) :
    Tells (some (Binding.add old value)) (insert value values) := by
  match old with
  | none =>
    rw [Tells] at h
    rw [h, insert_empty_eq]
    exact rfl
  | some (unique first) =>
    rw [Tells] at h
    subst h
    by_cases hsame : first = value
    · subst hsame
      rw [Binding.add, if_pos rfl, Tells, Set.insert_eq_of_mem (Set.mem_singleton first)]
    · rw [Binding.add, if_neg (by simpa using hsame), Tells]
      exact Set.nontrivial_pair (Ne.symm hsame)
  | some ambiguous =>
    rw [Tells] at h
    rw [Binding.add, ite_self, Tells]
    exact h.mono (Set.subset_insert value values)

theorem Tells.eq_none {b : Option Binding} (h : Tells b values) (hvalues : values = ∅) :
    b = none := by
  subst hvalues
  match b, h with
  | none, _ => rfl
  | some (unique value), h => exact absurd h.symm (Set.singleton_ne_empty value)
  | some ambiguous, h => exact absurd h.nonempty Set.not_nonempty_empty

theorem Tells.eq_unique {b : Option Binding} {value : String} (h : Tells b values)
    (hvalues : values = {value}) : b = some (unique value) := by
  subst hvalues
  match b, h with
  | none, h => exact absurd h (Set.singleton_ne_empty value)
  | some (unique value'), h => rw [Set.singleton_eq_singleton_iff.1 h]
  | some ambiguous, h => exact absurd h Set.not_nontrivial_singleton

theorem Tells.eq_ambiguous {b : Option Binding} (h : Tells b values)
    (hvalues : values.Nontrivial) : b = some ambiguous := by
  match b, h with
  | none, h => exact absurd (h ▸ hvalues) Set.not_nontrivial_empty
  | some (unique value), h => exact absurd (h ▸ hvalues) Set.not_nontrivial_singleton
  | some ambiguous, _ => rfl

end Binding

/-- The values that a list of bindings gives to a name. -/
def valuesOf (bindings : List (String × String)) (name : String) : Set String :=
  {value | (name, value) ∈ bindings}

theorem valuesOf_concat (bindings : List (String × String)) (b : String × String) (name : String) :
    valuesOf (bindings ++ [b]) name =
      if b.1 = name then insert b.2 (valuesOf bindings name) else valuesOf bindings name := by
  ext value
  obtain ⟨key, new⟩ := b
  by_cases h : key = name
  · subst h
    simp [valuesOf, or_comm]
  · simp [valuesOf, h, Ne.symm h]

namespace Scope

/-- Binding a name leaves the other names as they are. -/
theorem getElem?_bind (scope : Scope) (key value name : String) :
    (scope.bind key value)[name]? =
      if key = name then some (Binding.add scope[name]? value) else scope[name]? := by
  rw [Scope.bind, Std.HashMap.getElem?_alter]
  by_cases h : key = name
  · subst h
    simp
  · simp [h]

/-- **A scope tells how many values a name was given.** -/
theorem tells_ofList (bindings : List (String × String)) (name : String) :
    Binding.Tells (Scope.ofList bindings)[name]? (valuesOf bindings name) := by
  induction bindings using List.reverseRecOn with
  | nil => simp [Scope.ofList, Binding.Tells, valuesOf]
  | append_singleton bindings b ih =>
    have hbind : Scope.ofList (bindings ++ [b]) = (Scope.ofList bindings).bind b.1 b.2 := by
      rw [Scope.ofList, List.foldl_append]
      rfl
    rw [hbind, getElem?_bind, valuesOf_concat]
    split
    · exact ih.add b.2
    · exact ih

end Scope

/-! ## The sets of a file -/

/-- The file sees an import under a name: its alias if it has one, else the last segment
of its path. -/
def Import.IsSeenAs (i : Import) (name : String) : Prop :=
  match i.alias? with
  | some other => other = name
  | none => Text.IsLastSegment name i.path

theorem Import.localName_eq_iff {i : Import} {name : String} :
    i.localName = name ↔ i.IsSeenAs name := by
  rw [Import.localName, Import.IsSeenAs]
  cases i.alias? with
  | some other => exact Iff.rfl
  | none => exact Text.lastSegment_eq_iff

namespace Facts

variable {f : Facts} {implicit : List (String × String)} {name head rest : String}

/-- The full name of a type that a file declares: its nested name, behind the package of
the file if the file names one. -/
inductive Qualifies (f : Facts) (nestedName : String) : String → Prop where
  | inPackage {package : String} : f.package = some package → package ≠ "" →
      Qualifies f nestedName (package ++ "." ++ nestedName)
  | inNoPackage : (∀ package, f.package = some package → package = "") →
      Qualifies f nestedName nestedName

theorem qualifies_iff {nestedName type : String} :
    f.Qualifies nestedName type ↔ f.qualify nestedName = type := by
  rw [qualify]
  constructor
  · rintro (⟨hpackage, hne⟩ | hnone)
    · rw [hpackage]
      exact if_neg hne
    · cases hpackage : f.package with
      | none => rfl
      | some package => exact if_pos (hnone package hpackage)
  · rintro rfl
    split
    · next package hpackage =>
      split
      · next hempty =>
        refine .inNoPackage fun package' hpackage' => ?_
        rw [hpackage, Option.some_inj] at hpackage'
        rw [← hpackage', hempty]
      · next hne => exact .inPackage hpackage hne
    · next hnone => exact .inNoPackage (by simp [hnone])

/-- The types that a file binds a name to: the paths of the imported types that it sees
under the name, and the types that it declares with that simple or nested name. -/
inductive BindsType (f : Facts) : String → String → Prop where
  | imported {i : Import} {name : String} : i ∈ f.imports → i.kind = .type → i.IsSeenAs name →
      BindsType f name i.path
  | declared {d : Declaration} {name type : String} : d ∈ f.declarations →
      name = d.name ∨ name = d.nestedName → f.Qualifies d.nestedName type →
      BindsType f name type

/-- The types that a name is bound to. -/
def typesNamed (f : Facts) (name : String) : Set String := {type | f.BindsType name type}

/-- The types that are written for a variable. -/
def typesWritten (f : Facts) (name : String) : Set String :=
  {type | ∃ v ∈ f.typedVariables, v.name = name ∧ v.typeName = type}

/-- The types that declare an imported member: what stands in the path of the import in
front of its last segment. -/
def ownersNamed (f : Facts) (method : String) : Set String :=
  {owner | ∃ i ∈ f.imports, i.kind = .member ∧ i.IsSeenAs method ∧
    ∃ last : String, '.' ∉ last.toList ∧ i.path = owner ++ "." ++ last}

theorem valuesOf_typeBindings : valuesOf f.typeBindings name = f.typesNamed name := by
  ext type
  rw [valuesOf, Set.mem_ofPred_eq, typeBindings, List.mem_append, List.mem_filterMap,
    List.mem_flatMap]
  constructor
  · rintro (⟨i, hi, heq⟩ | ⟨d, hd, hmem⟩)
    · split at heq
      · next hkind =>
        simp only [Option.some.injEq, Prod.mk.injEq] at heq
        rw [← heq.2]
        exact .imported hi hkind (Import.localName_eq_iff.1 heq.1)
      · exact nomatch heq
    · have hqualifies := qualifies_iff.2 (Eq.refl (f.qualify d.nestedName))
      dsimp only at hmem
      split at hmem
      · simp only [List.mem_singleton, Prod.mk.injEq] at hmem
        rw [hmem.2]
        exact .declared hd (.inl hmem.1) hqualifies
      · simp only [List.mem_cons, Prod.mk.injEq, List.not_mem_nil, or_false] at hmem
        rcases hmem with ⟨hname, rfl⟩ | ⟨hname, rfl⟩
        · exact .declared hd (.inl hname) hqualifies
        · exact .declared hd (.inr hname) hqualifies
  · rintro (⟨hi, hkind, hseen⟩ | ⟨hd, hname, hqualifies⟩)
    · exact .inl ⟨_, hi, by rw [if_pos hkind, Import.localName_eq_iff.2 hseen]⟩
    · rw [qualifies_iff] at hqualifies
      refine .inr ⟨_, hd, ?_⟩
      dsimp only
      rw [hqualifies]
      split
      · next hnested =>
        rw [hnested, or_self] at hname
        rw [List.mem_singleton, hname]
      · simpa [Prod.mk.injEq] using hname

theorem valuesOf_variableBindings : valuesOf f.variableBindings name = f.typesWritten name := by
  ext type
  simp [valuesOf, variableBindings, typesWritten]

theorem valuesOf_memberBindings : valuesOf f.memberBindings name = f.ownersNamed name := by
  ext owner
  rw [valuesOf, Set.mem_ofPred_eq, memberBindings, List.mem_filterMap]
  constructor
  · rintro ⟨i, hi, heq⟩
    rw [Option.map_eq_some_iff] at heq
    obtain ⟨owner', howner, heq⟩ := heq
    rw [Prod.mk.injEq] at heq
    obtain ⟨hname, rfl⟩ := heq
    rw [Import.memberOwner?] at howner
    split at howner
    · next hkind =>
      rw [Option.map_eq_some_iff] at howner
      obtain ⟨⟨owner, last⟩, hsplit, rfl⟩ := howner
      obtain ⟨hpath, hlast⟩ := Text.splitLast_eq_some_iff.1 hsplit
      exact ⟨i, hi, hkind, Import.localName_eq_iff.1 hname, last, hlast, hpath⟩
    · exact nomatch howner
  · rintro ⟨i, hi, hkind, hseen, last, hlast, hpath⟩
    refine ⟨i, hi, ?_⟩
    have hsplit : Text.splitLast i.path = some (owner, last) :=
      Text.splitLast_eq_some_iff.2 ⟨hpath, hlast⟩
    rw [Import.memberOwner?, hkind, Import.localName_eq_iff.2 hseen]
    simp only [hsplit, Option.map_some]

/-! ## The rules -/

/-- An unbound dotted name that is taken for the full name of a type: it is made of
identifiers, the first of which does not start with a capital, and the last of which
does. -/
def IsFullName (head name : String) : Prop :=
  Text.IsDottedName name ∧ Text.startsWithCapital head = false ∧
    ∃ last, Text.IsLastSegment last name ∧ Text.startsWithCapital last = true

/-- **What the name of a type denotes.**  A bound name denotes the type that it is bound
to, if that is one only.  An unbound name with a dot is read as a nested type of what is
bound to its first segment, and if nothing is, as a full name.  An unbound name without a
dot is left to the types that need no import, the first of that name. -/
inductive Denotes (f : Facts) (implicit : List (String × String)) :
    String → Option String → Prop where
  | bound {name type : String} : f.typesNamed name = {type} → Denotes f implicit name (some type)
  | ambiguous {name : String} : (f.typesNamed name).Nontrivial → Denotes f implicit name none
  | nested {name head rest outer : String} : f.typesNamed name = ∅ →
      name = head ++ "." ++ rest → '.' ∉ head.toList → f.typesNamed head = {outer} →
      Denotes f implicit name (some (outer ++ "." ++ rest))
  | nestedAmbiguous {name head rest : String} : f.typesNamed name = ∅ →
      name = head ++ "." ++ rest → '.' ∉ head.toList → (f.typesNamed head).Nontrivial →
      Denotes f implicit name none
  | full {name head rest : String} : f.typesNamed name = ∅ →
      name = head ++ "." ++ rest → '.' ∉ head.toList → f.typesNamed head = ∅ →
      IsFullName head name → Denotes f implicit name (some name)
  | unknown {name head rest : String} : f.typesNamed name = ∅ →
      name = head ++ "." ++ rest → '.' ∉ head.toList → f.typesNamed head = ∅ →
      ¬ IsFullName head name → Denotes f implicit name none
  | implicit {name : String} : f.typesNamed name = ∅ → '.' ∉ name.toList →
      Denotes f implicit name ((implicit.find? fun entry => entry.1 = name).map Prod.snd)

/-- What the type of a variable denotes, if one type is written for the variable. -/
inductive VariableDenotes (f : Facts) (implicit : List (String × String)) :
    String → Option String → Prop where
  | written {name type : String} {denoted : Option String} : f.typesWritten name = {type} →
      f.Denotes implicit type denoted → VariableDenotes f implicit name denoted
  | unknown {name : String} : (∀ type, f.typesWritten name ≠ {type}) →
      VariableDenotes f implicit name none

/-- **The owner of a method called on a receiver.**  A receiver behind `this.` is a
variable.  Any other one must be made of identifiers; a variable hides a type of its name,
and nothing is known of the members of a variable. -/
inductive Owns (f : Facts) (implicit : List (String × String)) : String → OwnerType → Prop where
  | field {receiver name : String} {denoted : Option String} : receiver = "this." ++ name →
      f.VariableDenotes implicit name denoted → Owns f implicit receiver (.ofOption denoted)
  | unnamed {receiver : String} : (∀ name, receiver ≠ "this." ++ name) →
      ¬ Text.IsDottedName receiver → Owns f implicit receiver .unresolved
  | ofVariable {receiver : String} {denoted : Option String} : (∀ name, receiver ≠ "this." ++ name) →
      Text.isIdentifier receiver = true → (f.typesWritten receiver).Nonempty →
      f.VariableDenotes implicit receiver denoted → Owns f implicit receiver (.ofOption denoted)
  | ofType {receiver : String} {denoted : Option String} : (∀ name, receiver ≠ "this." ++ name) →
      Text.isIdentifier receiver = true → f.typesWritten receiver = ∅ →
      f.Denotes implicit receiver denoted → Owns f implicit receiver (.ofOption denoted)
  | memberOfVariable {receiver head rest : String} : (∀ name, receiver ≠ "this." ++ name) →
      Text.IsDottedName receiver → receiver = head ++ "." ++ rest → '.' ∉ head.toList →
      (f.typesWritten head).Nonempty → Owns f implicit receiver .unresolved
  | dottedType {receiver head rest : String} {denoted : Option String} :
      (∀ name, receiver ≠ "this." ++ name) →
      Text.IsDottedName receiver → receiver = head ++ "." ++ rest → '.' ∉ head.toList →
      f.typesWritten head = ∅ → f.Denotes implicit receiver denoted →
      Owns f implicit receiver (.ofOption denoted)

/-- The owner of a method called without a receiver: the one type that declares the
imported members of that name. -/
inductive OwnsBare (f : Facts) : String → OwnerType → Prop where
  | member {method owner : String} : f.ownersNamed method = {owner} →
      OwnsBare f method (.resolved owner)
  | unknown {method : String} : (∀ owner, f.ownersNamed method ≠ {owner}) →
      OwnsBare f method .unresolved

/-! ## Every name has a denotation -/

/-- A set is empty, has one element or has several. -/
theorem eq_empty_or_singleton_or_nontrivial (values : Set String) :
    values = ∅ ∨ (∃ value, values = {value}) ∨ values.Nontrivial :=
  values.eq_empty_or_nonempty.imp_right Set.Nonempty.exists_eq_singleton_or_nontrivial

theorem exists_denotes (f : Facts) (implicit : List (String × String)) (name : String) :
    ∃ denoted, f.Denotes implicit name denoted := by
  rcases eq_empty_or_singleton_or_nontrivial (f.typesNamed name) with hname | ⟨type, hname⟩ | hname
  · rcases Text.notMem_or_exists_splitHead name with hdot | ⟨head, rest, hsplit, hhead⟩
    · exact ⟨_, .implicit hname hdot⟩
    · rcases eq_empty_or_singleton_or_nontrivial (f.typesNamed head) with
        houter | ⟨outer, houter⟩ | houter
      · by_cases hfull : IsFullName head name
        · exact ⟨_, .full hname hsplit hhead houter hfull⟩
        · exact ⟨_, .unknown hname hsplit hhead houter hfull⟩
      · exact ⟨_, .nested hname hsplit hhead houter⟩
      · exact ⟨_, .nestedAmbiguous hname hsplit hhead houter⟩
  · exact ⟨_, .bound hname⟩
  · exact ⟨_, .ambiguous hname⟩

theorem exists_variableDenotes (f : Facts) (implicit : List (String × String)) (name : String) :
    ∃ denoted, f.VariableDenotes implicit name denoted := by
  by_cases h : ∃ type, f.typesWritten name = {type}
  · obtain ⟨type, htype⟩ := h
    obtain ⟨denoted, hdenoted⟩ := f.exists_denotes implicit type
    exact ⟨denoted, .written htype hdenoted⟩
  · exact ⟨none, .unknown (not_exists.1 h)⟩

theorem exists_owns (f : Facts) (implicit : List (String × String)) (receiver : String) :
    ∃ owner, f.Owns implicit receiver owner := by
  by_cases hthis : ∃ name, receiver = "this." ++ name
  · obtain ⟨name, hname⟩ := hthis
    obtain ⟨denoted, hdenoted⟩ := f.exists_variableDenotes implicit name
    exact ⟨_, .field hname hdenoted⟩
  have hthis := not_exists.1 hthis
  by_cases hdotted : Text.IsDottedName receiver
  · obtain ⟨denoted, hdenoted⟩ := f.exists_denotes implicit receiver
    cases hdotted with
    | single hidentifier =>
      rcases (f.typesWritten receiver).eq_empty_or_nonempty with hwritten | hwritten
      · exact ⟨_, .ofType hthis hidentifier hwritten hdenoted⟩
      · obtain ⟨denoted, hdenoted⟩ := f.exists_variableDenotes implicit receiver
        exact ⟨_, .ofVariable hthis hidentifier hwritten hdenoted⟩
    | @cons head rest hhead hrest =>
      have hdot := Text.dot_notMem_of_isIdentifier hhead
      rcases (f.typesWritten head).eq_empty_or_nonempty with hwritten | hwritten
      · exact ⟨_, .dottedType hthis (.cons hhead hrest) rfl hdot hwritten hdenoted⟩
      · exact ⟨_, .memberOfVariable hthis (.cons hhead hrest) rfl hdot hwritten⟩
  · exact ⟨_, .unnamed hthis hdotted⟩

theorem exists_ownsBare (f : Facts) (method : String) : ∃ owner, f.OwnsBare method owner := by
  by_cases h : ∃ owner, f.ownersNamed method = {owner}
  · obtain ⟨owner, howner⟩ := h
    exact ⟨_, .member howner⟩
  · exact ⟨_, .unknown (not_exists.1 h)⟩

end Facts

namespace SymbolTable

variable {f : Facts} {implicit : List (String × String)} {name head rest receiver method : String}
  {denoted : Option String} {owner : OwnerType}

/-! ## The answers of the table -/

theorem tells_types (f : Facts) (implicit : List (String × String)) (name : String) :
    Binding.Tells (ofFacts f implicit).types[name]? (f.typesNamed name) := by
  rw [← Facts.valuesOf_typeBindings]
  exact Scope.tells_ofList f.typeBindings name

theorem tells_variableScope (f : Facts) (implicit : List (String × String)) (name : String) :
    Binding.Tells (ofFacts f implicit).variableScope[name]? (f.typesWritten name) := by
  rw [← Facts.valuesOf_variableBindings]
  exact Scope.tells_ofList f.variableBindings name

theorem tells_members (f : Facts) (implicit : List (String × String)) (name : String) :
    Binding.Tells (ofFacts f implicit).members[name]? (f.ownersNamed name) := by
  rw [← Facts.valuesOf_memberBindings]
  exact Scope.tells_ofList f.memberBindings name

theorem looksQualified_iff : looksQualified head name = true ↔ Facts.IsFullName head name := by
  rw [looksQualified, Facts.IsFullName, Bool.and_eq_true, Bool.and_eq_true, Bool.not_eq_true',
    Text.all_isIdentifier_segments_iff, and_assoc]
  refine and_congr_right' (and_congr_right' ?_)
  constructor
  · exact fun h => ⟨_, Text.lastSegment_eq_iff.1 rfl, h⟩
  · rintro ⟨last, hlast, hcapital⟩
    rwa [Text.lastSegment_eq_iff.2 hlast]

theorem lookup_eq_find? (entries : List (String × String)) (name : String) :
    entries.lookup name = (entries.find? fun entry => entry.1 = name).map Prod.snd := by
  induction entries with
  | nil => rfl
  | cons entry entries ih =>
    by_cases h : entry.1 = name
    · rw [List.find?_cons_of_pos (by simpa using h), List.lookup_cons, h, beq_self_eq_true]
      rfl
    · rw [List.find?_cons_of_neg (by simpa using h), List.lookup_cons,
        beq_false_of_ne (Ne.symm h), ih]

theorem resolveType_of_denotes (h : f.Denotes implicit name denoted) :
    (ofFacts f implicit).resolveType name = denoted := by
  have htells := tells_types f implicit
  rw [resolveType]
  cases h with
  | bound hname => rw [(htells _).eq_unique hname]; rfl
  | ambiguous hname => rw [(htells _).eq_ambiguous hname]; rfl
  | nested hname hsplit hdot houter =>
    rw [(htells _).eq_none hname, Text.splitHead_eq_some_iff.2 ⟨hsplit, hdot⟩]
    dsimp only
    rw [(htells _).eq_unique houter]
    rfl
  | nestedAmbiguous hname hsplit hdot houter =>
    rw [(htells _).eq_none hname, Text.splitHead_eq_some_iff.2 ⟨hsplit, hdot⟩]
    dsimp only
    rw [(htells _).eq_ambiguous houter]
    rfl
  | full hname hsplit hdot houter hfull =>
    rw [(htells _).eq_none hname, Text.splitHead_eq_some_iff.2 ⟨hsplit, hdot⟩]
    dsimp only
    rw [(htells _).eq_none houter]
    exact if_pos (looksQualified_iff.2 hfull)
  | unknown hname hsplit hdot houter hfull =>
    rw [(htells _).eq_none hname, Text.splitHead_eq_some_iff.2 ⟨hsplit, hdot⟩]
    dsimp only
    rw [(htells _).eq_none houter]
    exact if_neg (mt looksQualified_iff.1 hfull)
  | implicit hname hdot =>
    rw [(htells _).eq_none hname, Text.splitHead_of_notMem hdot]
    exact lookup_eq_find? implicit name

theorem resolveType_iff :
    (ofFacts f implicit).resolveType name = denoted ↔ f.Denotes implicit name denoted := by
  refine ⟨?_, resolveType_of_denotes⟩
  rintro rfl
  obtain ⟨denoted, hdenoted⟩ := f.exists_denotes implicit name
  rwa [resolveType_of_denotes hdenoted]

theorem variableType_of_variableDenotes (h : f.VariableDenotes implicit name denoted) :
    (ofFacts f implicit).variableType name = denoted := by
  have htells := tells_variableScope f implicit name
  cases h with
  | written hname hdenoted =>
    rw [variableType, htells.eq_unique hname]
    exact resolveType_of_denotes hdenoted
  | unknown hname =>
    rcases Facts.eq_empty_or_singleton_or_nontrivial (f.typesWritten name) with
      hnone | ⟨type, htype⟩ | hmany
    · rw [variableType, htells.eq_none hnone]
    · exact absurd htype (hname type)
    · rw [variableType, htells.eq_ambiguous hmany]

theorem contains_variableScope_iff :
    (ofFacts f implicit).variableScope.contains name = true ↔ (f.typesWritten name).Nonempty := by
  have htells := tells_variableScope f implicit name
  rw [Std.HashMap.contains_eq_isSome_getElem?]
  rcases Facts.eq_empty_or_singleton_or_nontrivial (f.typesWritten name) with
    hnone | ⟨type, htype⟩ | hmany
  · rw [htells.eq_none hnone, hnone]
    simp
  · rw [htells.eq_unique htype, htype]
    simp
  · rw [htells.eq_ambiguous hmany]
    simpa using hmany.nonempty

theorem contains_variableScope_eq_false (h : f.typesWritten name = ∅) :
    (ofFacts f implicit).variableScope.contains name = false := by
  rw [← Bool.not_eq_true, contains_variableScope_iff, h]
  exact Set.not_nonempty_empty

theorem fieldOfThis?_eq_some_iff : fieldOfThis? receiver = some name ↔ receiver = "this." ++ name := by
  have hlist : "this.".toList = ['t', 'h', 'i', 's', '.'] := rfl
  rw [fieldOfThis?, ← String.toList_inj, String.toList_append, hlist]
  split
  · next rest heq =>
    rw [heq, Option.some_inj, ← String.toList_inj, String.toList_ofList]
    simp
  · next hne =>
    refine iff_of_false nofun fun heq => hne name.toList ?_
    exact heq

theorem fieldOfThis?_eq_none (h : ∀ name, receiver ≠ "this." ++ name) :
    fieldOfThis? receiver = none :=
  Option.eq_none_iff_forall_not_mem.2 fun name hname => h name (fieldOfThis?_eq_some_iff.1 hname)

theorem ne_this_of_fieldOfThis? (h : fieldOfThis? receiver = none) (name : String) :
    receiver ≠ "this." ++ name := by
  intro hname
  rw [fieldOfThis?_eq_some_iff.2 hname] at h
  exact nomatch h

/-- A receiver that is an identifier is a variable if there is one of that name. -/
theorem resolveReceiver_of_isIdentifier {t : SymbolTable} (hthis : ∀ name, receiver ≠ "this." ++ name)
    (hidentifier : Text.isIdentifier receiver = true) :
    t.resolveReceiver receiver =
      .ofOption (if t.variableScope.contains receiver then t.variableType receiver
        else t.resolveType receiver) := by
  have hsegments := (Text.IsDottedName.single hidentifier).all_segments
  simp only [resolveReceiver, fieldOfThis?_eq_none hthis, hsegments, hidentifier, Bool.not_true,
    Bool.false_eq_true, if_false, if_true]
  exact (apply_ite OwnerType.ofOption _ _ _).symm

/-- A dotted receiver is a type unless it starts with a variable. -/
theorem resolveReceiver_of_join {t : SymbolTable} (hthis : ∀ name, receiver ≠ "this." ++ name)
    (hdotted : Text.IsDottedName receiver) (hsplit : receiver = head ++ "." ++ rest)
    (hdot : '.' ∉ head.toList) :
    t.resolveReceiver receiver =
      if t.variableScope.contains head then .unresolved else .ofOption (t.resolveType receiver) := by
  subst hsplit
  simp only [resolveReceiver, fieldOfThis?_eq_none hthis, hdotted.all_segments,
    Text.isIdentifier_join, Text.headD_segments hdot, Bool.not_true, Bool.false_eq_true, if_false]

theorem resolveReceiver_of_owns (h : f.Owns implicit receiver owner) :
    (ofFacts f implicit).resolveReceiver receiver = owner := by
  cases h with
  | field hname hdenoted =>
    rw [resolveReceiver, fieldOfThis?_eq_some_iff.2 hname]
    exact congrArg OwnerType.ofOption (variableType_of_variableDenotes hdenoted)
  | unnamed hthis hdotted =>
    have hsegments := mt Text.all_isIdentifier_segments_iff.1 hdotted
    rw [resolveReceiver, fieldOfThis?_eq_none hthis]
    exact if_pos (by simpa using hsegments)
  | ofVariable hthis hidentifier hwritten hdenoted =>
    rw [resolveReceiver_of_isIdentifier hthis hidentifier,
      if_pos (contains_variableScope_iff.2 hwritten), variableType_of_variableDenotes hdenoted]
  | ofType hthis hidentifier hwritten hdenoted =>
    rw [resolveReceiver_of_isIdentifier hthis hidentifier,
      contains_variableScope_eq_false hwritten, resolveType_of_denotes hdenoted]
    rfl
  | memberOfVariable hthis hdotted hsplit hdot hwritten =>
    rw [resolveReceiver_of_join hthis hdotted hsplit hdot,
      if_pos (contains_variableScope_iff.2 hwritten)]
  | dottedType hthis hdotted hsplit hdot hwritten hdenoted =>
    rw [resolveReceiver_of_join hthis hdotted hsplit hdot,
      contains_variableScope_eq_false hwritten, resolveType_of_denotes hdenoted]
    rfl

theorem resolveReceiver_iff :
    (ofFacts f implicit).resolveReceiver receiver = owner ↔ f.Owns implicit receiver owner := by
  refine ⟨?_, resolveReceiver_of_owns⟩
  rintro rfl
  obtain ⟨owner, howner⟩ := f.exists_owns implicit receiver
  rwa [resolveReceiver_of_owns howner]

theorem resolveBare_of_ownsBare (h : f.OwnsBare method owner) :
    (ofFacts f implicit).resolveBare method = owner := by
  have htells := tells_members f implicit method
  cases h with
  | member howner => rw [resolveBare, htells.eq_unique howner]; rfl
  | unknown howner =>
    rcases Facts.eq_empty_or_singleton_or_nontrivial (f.ownersNamed method) with
      hnone | ⟨type, htype⟩ | hmany
    · rw [resolveBare, htells.eq_none hnone]; rfl
    · exact absurd htype (howner type)
    · rw [resolveBare, htells.eq_ambiguous hmany]; rfl

theorem resolveBare_iff :
    (ofFacts f implicit).resolveBare method = owner ↔ f.OwnsBare method owner := by
  refine ⟨?_, resolveBare_of_ownsBare⟩
  rintro rfl
  obtain ⟨owner, howner⟩ := f.exists_ownsBare method
  rwa [resolveBare_of_ownsBare howner]

/-- **The symbol table answers by sets.**  For every file, every table of types that need
no import and every text, what the text denotes as the name of a type, who owns a method
called on it as a receiver, and who owns it as a method called without one, is what the
rules on the sets of the file say. -/
theorem answers_iff (f : Facts) (implicit : List (String × String)) :
    (∀ name denoted,
      (ofFacts f implicit).resolveType name = denoted ↔ f.Denotes implicit name denoted) ∧
    (∀ receiver owner,
      (ofFacts f implicit).resolveReceiver receiver = owner ↔ f.Owns implicit receiver owner) ∧
    ∀ method owner, (ofFacts f implicit).resolveBare method = owner ↔ f.OwnsBare method owner :=
  ⟨fun _ _ => resolveType_iff, fun _ _ => resolveReceiver_iff, fun _ _ => resolveBare_iff⟩

/-- A file of a package that declares `Main` with a nested `Helper`, and imports a type under
another name and a member. -/
def helperFacts : Facts where
  package := some "com.example.app"
  imports := [⟨"timber.log.Timber", some "T", .type⟩, ⟨"android.util.Log.w", none, .member⟩]
  declarations := [⟨"Main", "Main"⟩, ⟨"Helper", "Main.Helper"⟩]
  typedVariables := [⟨"helper", "Helper"⟩]

theorem typesNamed_helper : helperFacts.typesNamed "Helper" = {"com.example.app.Main.Helper"} := by
  ext type
  rw [Set.mem_singleton_iff]
  constructor
  · rintro (⟨hi, hkind, hseen⟩ | ⟨hd, hname, hfull⟩)
    · simp only [helperFacts, List.mem_cons, List.not_mem_nil, or_false] at hi
      rcases hi with rfl | rfl
      · have hlocal := Import.localName_eq_iff.2 hseen
        exact absurd hlocal (by decide)
      · exact absurd hkind (by decide)
    · simp only [helperFacts, List.mem_cons, List.not_mem_nil, or_false] at hd
      rcases hd with rfl | rfl
      · exact absurd hname (by decide)
      · rcases hfull with ⟨hpackage, -⟩ | hnone
        · rw [← Option.some_inj.1 hpackage]
          decide
        · exact absurd (hnone _ rfl) (by decide)
  · rintro rfl
    have hdeclared : (⟨"Helper", "Main.Helper"⟩ : Declaration) ∈ helperFacts.declarations :=
      List.mem_cons_of_mem _ List.mem_cons_self
    have hpackage : "com.example.app" ≠ "" := by decide
    exact .declared hdeclared (.inl rfl) (.inPackage rfl hpackage)

/-- The nested type is found behind its package and its outer type, by its simple name and
as the type of a variable; what the variable is called on is not. -/
theorem answers_iff_helper :
    (ofFacts helperFacts []).resolveType "Helper" = some "com.example.app.Main.Helper" ∧
    (ofFacts helperFacts []).resolveReceiver "helper" = .resolved "com.example.app.Main.Helper" ∧
    (ofFacts helperFacts []).resolveReceiver "helper.inner" = .unresolved ∧
    (ofFacts helperFacts []).resolveBare "w" = .resolved "android.util.Log" := by
  obtain ⟨htypes, hreceivers, hbare⟩ := answers_iff helperFacts []
  have hwritten : helperFacts.typesWritten "helper" = {"Helper"} := by
    ext written
    simp [Facts.typesWritten, helperFacts, eq_comm]
  have hnonempty : (helperFacts.typesWritten "helper").Nonempty := by
    rw [hwritten]
    exact Set.singleton_nonempty _
  have hdenotes : helperFacts.Denotes [] "Helper" (some "com.example.app.Main.Helper") :=
    .bound typesNamed_helper
  refine ⟨(htypes _ _).2 hdenotes, (hreceivers _ _).2 ?_, (hreceivers _ _).2 ?_, (hbare _ _).2 ?_⟩
  · exact .ofVariable (ne_this_of_fieldOfThis? (by decide)) (by decide) hnonempty
      (.written hwritten hdenotes)
  · have hsplit : "helper.inner" = "helper" ++ "." ++ "inner" := by decide
    exact .memberOfVariable (ne_this_of_fieldOfThis? (by decide))
      (Text.all_isIdentifier_segments_iff.1 (by decide)) hsplit (by decide) hnonempty
  · refine .member ?_
    rw [← Facts.valuesOf_memberBindings]
    ext owner
    have hbindings : helperFacts.memberBindings = [("w", "android.util.Log")] := by decide
    simp [valuesOf, hbindings]

end SymbolTable

end ForbiddenCalls
