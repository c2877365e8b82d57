import ForbiddenCalls.Proofs.LayoutFacts
import ForbiddenCalls.Syntax.Java

/-!
# Java files in two layouts

A node of a Java syntax tree gives the same facts in every layout (`Java.readsAlike`).
Packages, imports, receivers and types can have blanks in them and are read without them.
The names of types, variables and methods are tokens.
-/

namespace ForbiddenCalls

namespace Java

/-- A variable and a call use the node in their field `name`. -/
def fieldNames : NameRule where
  kinds := ["variable_declarator", "formal_parameter", "enhanced_for_statement", "resource",
    "method_invocation"]
  names t := (t.field? .name).toList

/-- The nodes that a node of a Java syntax tree uses as names. -/
def namesOf : Tree → List Tree := namesBy [.declared declarationKinds, fieldNames]

variable {s s' : Source} {t t' : Tree}

/-- The names of two nodes of a kind whose field is a name. -/
theorem map_text_name_eq (h : Tree.Relaid namesOf s s' t t')
    (hkind : fieldNames.kinds.contains t.kind = true) :
    (t.field? .name).map (Tree.text s) = (t'.field? .name).map (Tree.text s') :=
  h.map_text_eq (h.field? .name) fun _ hname =>
    mem_namesBy (r := fieldNames) (by simp) hkind (Option.mem_toList.2 hname)

/-- The types of two nodes. -/
theorem map_type_eq (h : Tree.Relaid namesOf s s' t t') :
    (t.field? .type).map (fun type => normalizeType (type.text s)) =
      (t'.field? .type).map fun type => normalizeType (type.text s') :=
  map_eq_of_rel (h.field? .type) fun _ _ _ _ htype => normalizeType_eq htype.compactText_eq

theorem packageOf?_eq (h : Tree.Relaid namesOf s s' t t') : packageOf? s t = packageOf? s' t' := by
  rw [packageOf?, packageOf?, h.kind_eq,
    map_eq_of_rel (h.firstNamed? nameKinds) fun _ _ _ _ hname => hname.compactText_eq]

theorem importOf?_eq (h : Tree.Relaid namesOf s s' t t') : importOf? s t = importOf? s' t' := by
  have hkinds : t.children.map Tree.kind = t'.children.map Tree.kind :=
    map_eq_of_forall₂ h.children fun _ _ hc => hc.kind_eq
  have hnames : List.Forall₂ (Tree.Relaid namesOf s s')
      (t.children.filter fun c => nameKinds.contains c.kind)
      (t'.children.filter fun c => nameKinds.contains c.kind) :=
    forall₂_filter h.children fun _ _ hc => by rw [hc.kind_eq]
  rw [importOf?, importOf?, h.kind_eq, hkinds]
  dsimp only
  rw [map_eq_of_rel (rel_getLast?_of_forall₂ hnames) fun _ _ _ _ hname => by
    rw [hname.compactText_eq]]

theorem inferredType?_eq (h : Tree.Relaid namesOf s s' t t') :
    inferredType? s t = inferredType? s' t' := by
  have hvalue := h.field? .value
  rw [inferredType?, inferredType?]
  generalize t.field? .value = value, t'.field? .value = value' at hvalue
  cases hvalue with
  | none => rfl
  | some hpair =>
    dsimp only
    rw [hpair.kind_eq, map_type_eq hpair]

theorem declared?_eq_bind (s : Source) (written : String) (d : Tree) :
    declared? s written d =
      if d.kind = "variable_declarator" then
        ((d.field? .name).map (Tree.text s)).bind fun name =>
          (if written = "var" then inferredType? s d else some written).map fun type => ⟨name, type⟩
      else none := by
  rw [declared?]
  cases d.field? .name with
  | none => rfl
  | some name => rfl

theorem declared?_eq (written : String) (h : Tree.Relaid namesOf s s' t t') :
    declared? s written t = declared? s' written t' := by
  rw [declared?_eq_bind, declared?_eq_bind, ← h.kind_eq]
  split
  · next hkind => rw [map_text_name_eq h (by rw [hkind]; decide), inferredType?_eq h]
  · rfl

theorem declaredVariables_eq (h : Tree.Relaid namesOf s s' t t') :
    declaredVariables s t = declaredVariables s' t' := by
  have htype := h.field? .type
  rw [declaredVariables, declaredVariables]
  generalize t.field? .type = type, t'.field? .type = type' at htype
  cases htype with
  | none => rfl
  | some htype =>
    dsimp only
    rw [normalizeType_eq htype.compactText_eq]
    exact filterMap_eq_of_forall₂ h.namedChildren fun _ _ hd => declared?_eq _ hd

theorem typedName?_eq_bind (s : Source) (t : Tree) :
    typedName? s t =
      ((t.field? .type).map fun type => normalizeType (type.text s)).bind fun typeName =>
        ((t.field? .name).map (Tree.text s)).bind fun name =>
          if typeName = "var" then none else some ⟨name, typeName⟩ := by
  rw [typedName?]
  cases t.field? .type with
  | none => rfl
  | some type =>
    cases t.field? .name with
    | none => rfl
    | some name => rfl

theorem typedName?_eq (h : Tree.Relaid namesOf s s' t t')
    (hkind : fieldNames.kinds.contains t.kind = true) : typedName? s t = typedName? s' t' := by
  rw [typedName?_eq_bind, typedName?_eq_bind, map_type_eq h, map_text_name_eq h hkind]

theorem variablesOf_eq (h : Tree.Relaid namesOf s s' t t') : variablesOf s t = variablesOf s' t' := by
  rw [variablesOf, variablesOf, ← h.kind_eq]
  split
  · exact declaredVariables_eq h
  · split
    · next hkind =>
      rw [typedName?_eq h (by rcases hkind with hkind | hkind | hkind <;> rw [hkind] <;> decide)]
    · rfl

theorem map_unplaced_callOf? (s : Source) (t : Tree) :
    (callOf? s t).map RawCall.unplaced =
      if t.kind = "method_invocation" then
        ((t.field? .name).map (Tree.text s)).bind fun method =>
          if Text.isIdentifier method then
            some ⟨(t.field? .object).map fun o => Text.compactText (o.text s), method, 0, 0, 0, 0⟩
          else none
      else none := by
  rw [callOf?]
  split
  · cases t.field? .name with
    | none => rfl
    | some name =>
      dsimp only [Option.map_some, Option.bind_some]
      split
      · rfl
      · rfl
  · rfl

theorem callOf?_eq (h : Tree.Relaid namesOf s s' t t') :
    (callOf? s t).map RawCall.unplaced = (callOf? s' t').map RawCall.unplaced := by
  rw [map_unplaced_callOf?, map_unplaced_callOf?, ← h.kind_eq,
    map_eq_of_rel (h.field? .object) fun _ _ _ _ ho => ho.compactText_eq]
  split
  · next hkind => rw [map_text_name_eq h (by rw [hkind]; decide)]
  · rfl

/-- A node of a Java syntax tree gives the same facts in every layout. -/
theorem readsAlike (h : Tree.Relaid namesOf s s' t t') : extractor.ReadsAlike s s' t t' where
  samePackage := packageOf?_eq h
  sameImport := importOf?_eq h
  sameDeclared := h.declaredType?_eq List.mem_cons_self
  sameVariables := variablesOf_eq h
  sameCall := callOf?_eq h

end Java

end ForbiddenCalls
