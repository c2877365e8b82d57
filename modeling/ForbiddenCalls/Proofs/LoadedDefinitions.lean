import ForbiddenCalls.Proofs.RuleSettings
import ForbiddenCalls.Rule.Definition
import Mathlib.Data.List.Forall2

/-!
# Loading definitions

A document that defines rules is loaded as a whole: either every definition becomes a rule,
or there are no rules and the first definition that is wrong is named, with the first thing
that is wrong in it.  What a definition stands for is said by the settings of a rule that its
fields come to, so a rule from a document is the rule that is made of the same settings one
after the other.

An owner type may be given alone or as a list, and a list of one type, however often it is
repeated, says no more than the type alone.

* `Definition.Describes`, `Definition.Fault`: the rule that a definition stands for, and why
  it stands for none.
* `Definition.toRule_eq_ok_iff`, `Definition.toRule_eq_error_iff`: the same for the loaded
  definition.
* `Definition.load_answers`: the rules of a document, or its first fault.
-/

namespace ForbiddenCalls

namespace Definition

variable {d d' : Definition} {ds ds' : List Definition} {owners : List String}
  {severity : Severity} {rule : Rule} {e : DefinitionError} {i : Nat}

/-! ## What a definition says -/

/-- The owner types that a definition gives: one type or a list of types, but not both. -/
inductive GivesOwners (d : Definition) : List String → Prop where
  | one {type : String} : d.ownerType = some type → d.ownerTypes = none → GivesOwners d [type]
  | several {types : List String} : d.ownerType = none → d.ownerTypes = some types →
      GivesOwners d types

/-- The settings of a rule that the fields of a definition come to. -/
def settings (d : Definition) (severity : Severity) (owners : List String) : List Setting :=
  [.severity severity, .methods d.methods, .requiresReceiver d.requiresReceiver] ++
    owners.map .owner ++ d.title.toList.map .title ++ d.description.toList.map .description ++
    d.message.toList.map .message

/-- The rule that a definition stands for: its owner types are given in one of the two ways,
its severity is the name of one, and the settings make the rule. -/
def Describes (d : Definition) (rule : Rule) : Prop :=
  ∃ owners severity, d.GivesOwners owners ∧ severity.name = d.severity ∧
    (RuleDraft.ofSettings d.id (d.settings severity owners)).build = .ok rule

/-- The first thing that is wrong in a definition, which errors call by its label. -/
inductive Fault (d : Definition) (label : String) : DefinitionError → Prop where
  | owners : (d.ownerType = none ↔ d.ownerTypes = none) → Fault d label (.ambiguousOwner label)
  | severity {owners : List String} : d.GivesOwners owners →
      d.severity ∉ ["info", "warning", "error"] →
      Fault d label (.unknownSeverity label d.severity)
  | rule {owners : List String} {severity : Severity} {cause : RuleError} :
      d.GivesOwners owners → severity.name = d.severity →
      RuleDraft.FirstFault d.id (d.settings severity owners) cause →
      Fault d label (.invalidRule label cause)

/-! ## One definition -/

theorem owners?_eq_some_iff : d.owners? = some owners ↔ d.GivesOwners owners := by
  constructor
  · intro h
    rw [owners?] at h
    split at h
    · next htype htypes => exact Option.some.inj h ▸ .one htype htypes
    · next htype htypes => exact Option.some.inj h ▸ .several htype htypes
    · exact nomatch h
  · rintro (⟨htype, htypes⟩ | ⟨htype, htypes⟩) <;> rw [owners?, htype, htypes]

theorem owners?_eq_none_iff : d.owners? = none ↔ (d.ownerType = none ↔ d.ownerTypes = none) := by
  rw [owners?]
  cases d.ownerType <;> cases d.ownerTypes <;> simp

theorem ofName?_eq_some_iff {s : String} : Severity.ofName? s = some severity ↔ severity.name = s := by
  constructor
  · intro h
    unfold Severity.ofName? at h
    split at h
    · exact Option.some.inj h ▸ rfl
    · exact Option.some.inj h ▸ rfl
    · exact Option.some.inj h ▸ rfl
    · exact nomatch h
  · rintro rfl
    exact Severity.ofName?_name severity

theorem ofName?_eq_none_iff {s : String} :
    Severity.ofName? s = none ↔ s ∉ ["info", "warning", "error"] := by
  rw [Option.eq_none_iff_forall_ne_some]
  simp only [ne_eq, ofName?_eq_some_iff, List.mem_cons, List.not_mem_nil, or_false, not_or]
  constructor
  · intro h
    exact ⟨Ne.symm (h .info), Ne.symm (h .warning), Ne.symm (h .error)⟩
  · rintro ⟨hinfo, hwarning, herror⟩ severity hname
    cases severity with
    | info => exact hinfo hname.symm
    | warning => exact hwarning hname.symm
    | error => exact herror hname.symm

theorem foldl_set_owner (owners : List String) (draft : RuleDraft) :
    (owners.map Setting.owner).foldl RuleDraft.set draft =
      { draft with owners := owners.foldl NameSet.insert draft.owners } := by
  induction owners generalizing draft with
  | nil => rfl
  | cons owner owners ih =>
    rw [List.map_cons, List.foldl_cons, ih]
    rfl

/-- The draft of a definition is the one that its settings make. -/
theorem ofSettings_settings (d : Definition) (severity : Severity) (owners : List String) :
    RuleDraft.ofSettings d.id (d.settings severity owners) = d.draft severity owners := by
  rw [RuleDraft.ofSettings, settings]
  simp only [List.foldl_append, foldl_set_owner, draft]
  cases d.title <;> cases d.description <;> cases d.message <;> rfl

/-- **A definition becomes the rule that it stands for.** -/
theorem toRule_eq_ok_iff : d.toRule i = .ok rule ↔ d.Describes rule := by
  simp only [Describes, ← owners?_eq_some_iff, ← ofName?_eq_some_iff, ofSettings_settings]
  rw [toRule]
  cases d.owners? with
  | none => simp
  | some owners =>
    cases Severity.ofName? d.severity with
    | none => simp
    | some severity =>
      cases hbuild : (d.draft severity owners).build <;> simp [Except.mapError, hbuild]

/-- **A definition that stands for no rule is refused for the first thing that is wrong.** -/
theorem toRule_eq_error_iff : d.toRule i = .error e ↔ d.Fault (d.label i) e := by
  constructor
  · intro h
    rw [toRule] at h
    split at h
    · next howners => exact Except.error.inj h ▸ .owners (owners?_eq_none_iff.1 howners)
    · next owners howners =>
      rw [owners?_eq_some_iff] at howners
      split at h
      · next hname => exact Except.error.inj h ▸ .severity howners (ofName?_eq_none_iff.1 hname)
      · next severity hname =>
        rw [← ofSettings_settings] at h
        cases hbuild : (RuleDraft.ofSettings d.id (d.settings severity owners)).build with
        | ok rule =>
          rw [hbuild] at h
          exact nomatch h
        | error cause =>
          rw [hbuild] at h
          exact Except.error.inj h ▸ .rule howners (ofName?_eq_some_iff.1 hname)
            (RuleDraft.build_ofSettings_eq_error_iff.1 hbuild)
  · intro h
    rw [toRule]
    cases h with
    | owners hboth => rw [owners?_eq_none_iff.2 hboth]
    | severity howners hname =>
      rw [owners?_eq_some_iff.2 howners, ofName?_eq_none_iff.2 hname]
    | rule howners hname hfault =>
      rw [owners?_eq_some_iff.2 howners, ofName?_eq_some_iff.2 hname]
      dsimp only
      rw [← ofSettings_settings, RuleDraft.build_ofSettings_eq_error_iff.2 hfault]
      rfl

/-! ## All definitions of a document -/

theorem loadFrom_cons_eq_ok_iff {rules : List Rule} :
    loadFrom i (d :: ds) = .ok rules ↔
      ∃ rule rules', d.Describes rule ∧ loadFrom (i + 1) ds = .ok rules' ∧
        rules = rule :: rules' := by
  simp only [← toRule_eq_ok_iff (i := i)]
  rw [loadFrom]
  cases d.toRule i with
  | error e => simp
  | ok rule => cases loadFrom (i + 1) ds <;> simp [Except.map, eq_comm]

theorem loadFrom_cons_eq_error_iff :
    loadFrom i (d :: ds) = .error e ↔
      d.Fault (d.label i) e ∨
        (∃ rule, d.Describes rule) ∧ loadFrom (i + 1) ds = .error e := by
  simp only [← toRule_eq_ok_iff (i := i), ← toRule_eq_error_iff]
  rw [loadFrom]
  cases d.toRule i with
  | error e' => simp
  | ok rule => cases loadFrom (i + 1) ds <;> simp [Except.map]

/-- Definitions become rules one by one, in their order. -/
theorem loadFrom_eq_ok_iff {rules : List Rule} :
    loadFrom i ds = .ok rules ↔ List.Forall₂ Describes ds rules := by
  induction ds generalizing i rules with
  | nil => simp [loadFrom, eq_comm]
  | cons d ds ih => simp only [loadFrom_cons_eq_ok_iff, ih, List.forall₂_cons_left_iff]

/-- The first definition that is wrong decides the answer, whatever comes behind it. -/
theorem loadFrom_eq_error_iff :
    loadFrom i ds = .error e ↔
      ∃ before d after, ds = before ++ d :: after ∧
        (∀ d' ∈ before, ∃ rule, d'.Describes rule) ∧
        d.Fault (d.label (i + before.length)) e := by
  induction ds generalizing i with
  | nil =>
    refine iff_of_false nofun ?_
    rintro ⟨before, d, after, h, -⟩
    exact List.append_ne_nil_of_right_ne_nil before (List.cons_ne_nil d after) h.symm
  | cons d ds ih =>
    -- a definition is one place further in the list than behind its head
    have hplace : ∀ before : List Definition,
        i + 1 + before.length = i + (d :: before).length := fun before => by
      rw [List.length_cons]
      omega
    rw [loadFrom_cons_eq_error_iff, ih]
    simp only [hplace]
    constructor
    · rintro (hfault | ⟨hrule, before, d', after, rfl, hbefore, hfault⟩)
      · exact ⟨[], d, ds, rfl, nofun, hfault⟩
      · exact ⟨d :: before, d', after, rfl, List.forall_mem_cons.2 ⟨hrule, hbefore⟩, hfault⟩
    · rintro ⟨_ | ⟨d₁, before⟩, d', after, heq, hbefore, hfault⟩
      · obtain ⟨rfl, -⟩ := List.cons.inj heq
        exact .inl hfault
      · obtain ⟨rfl, rfl⟩ := List.cons.inj heq
        obtain ⟨hrule, hbefore⟩ := List.forall_mem_cons.1 hbefore
        exact .inr ⟨hrule, before, d', after, rfl, hbefore, hfault⟩

/-! ## Two ways to give one owner type -/

/-- The definition with a list of owner types in the place of its own. -/
def withTypes (d : Definition) (types : List String) : Definition :=
  { d with ownerType := none, ownerTypes := some types }

/-- The same definition, or one that gives its owner type as a list of that type alone. -/
inductive Respells : Definition → Definition → Prop where
  | same (d : Definition) : Respells d d
  | listed {d : Definition} {type : String} (n : Nat) : d.ownerType = some type →
      d.ownerTypes = none → Respells d (d.withTypes (List.replicate (n + 1) type))

/-- The set of one type, however often it is repeated. -/
theorem ofList_replicate (n : Nat) (type : String) :
    NameSet.ofList (List.replicate (n + 1) type) = NameSet.ofList [type] := by
  ext name
  simp

theorem Respells.toRule_eq (h : Respells d d') (i : Nat) : d'.toRule i = d.toRule i := by
  cases h with
  | same => rfl
  | @listed type n htype htypes =>
    have howners : d.owners? = some [type] := owners?_eq_some_iff.2 (.one htype htypes)
    have hlisted : (d.withTypes (List.replicate (n + 1) type)).owners? =
        some (List.replicate (n + 1) type) := owners?_eq_some_iff.2 (.several rfl rfl)
    have hdraft : ∀ severity,
        (d.withTypes (List.replicate (n + 1) type)).draft severity (List.replicate (n + 1) type) =
          d.draft severity [type] := fun severity => by
      rw [draft, draft, ofList_replicate]
      rfl
    rw [toRule, toRule, howners, hlisted]
    simp only [hdraft]
    rfl

theorem loadFrom_eq_of_respells (h : List.Forall₂ Respells ds ds') :
    loadFrom i ds' = loadFrom i ds := by
  induction h generalizing i with
  | nil => rfl
  | cons hd _ ih => rw [loadFrom, loadFrom, hd.toRule_eq, ih]

/-- **A document is loaded as a whole.**  There are rules exactly when every definition stands
for one, and then they are these rules, in the order of the definitions.  There is an error
exactly when a definition stands for no rule: it is that of the first such definition, whose
place and id are its label, and it says the first thing that is wrong there, first about the
owner types, then about the severity, then about the rule.  Where an owner type is given
alone, a list of that type, repeated any number of times, gives the same answer. -/
theorem load_answers (ds : List Definition) :
    (∀ rules, load ds = .ok rules ↔ List.Forall₂ Describes ds rules) ∧
    (∀ e, load ds = .error e ↔
      ∃ before d after, ds = before ++ d :: after ∧
        (∀ d' ∈ before, ∃ rule, d'.Describes rule) ∧
        d.Fault ("forbidden-call[" ++ toString before.length ++ "] '" ++ d.id ++ "'") e) ∧
    ∀ ds', List.Forall₂ Respells ds ds' → load ds' = load ds := by
  refine ⟨fun rules => loadFrom_eq_ok_iff, fun e => ?_, fun ds' h => ?_⟩
  · rw [load, loadFrom_eq_error_iff]
    simp only [Nat.zero_add]
    exact Iff.rfl
  · rw [load, load, loadFrom_eq_of_respells h]

/-- A definition with one owner type. -/
def plainDefinition : Definition := { id := "AvoidX", ownerType := some "a.B", methods := ["x"] }

/-- The same with a list of the owner type, twice. -/
def listedDefinition : Definition := plainDefinition.withTypes ["a.B", "a.B"]

/-- Owner types given in both ways, and a severity that there is not. -/
def doubledDefinition : Definition :=
  { plainDefinition with id := "Twice", severity := "fatal", ownerTypes := some ["a.B"] }

/-- Of two things that are wrong in the second definition the first one is reported, and nothing
of what is wrong in the third one; a list of one type does not change this. -/
theorem load_answers_doubled :
    List.Forall₂ Respells [plainDefinition, doubledDefinition, { plainDefinition with id := "" }]
      [listedDefinition, doubledDefinition, { plainDefinition with id := "" }] ∧
    load [listedDefinition, doubledDefinition, { plainDefinition with id := "" }] =
      .error (.ambiguousOwner "forbidden-call[1] 'Twice'") := by
  have hlabel : "forbidden-call[" ++ toString [plainDefinition].length ++ "] '" ++
      doubledDefinition.id ++ "'" = "forbidden-call[1] 'Twice'" := by decide
  have hsame : List.Forall₂ Respells
      [plainDefinition, doubledDefinition, { plainDefinition with id := "" }]
      [listedDefinition, doubledDefinition, { plainDefinition with id := "" }] :=
    .cons (.listed 1 rfl rfl) (.cons (.same _) (.cons (.same _) .nil))
  have hplain : ∃ rule, plainDefinition.Describes rule := by
    obtain ⟨t, ht, -⟩ := Template.exists_parse_literal "AvoidX"
    obtain ⟨rule, hrule⟩ :=
      RuleDraft.exists_build_iff.2
        ⟨⟨(by decide : IsRuleName (plainDefinition.draft .error ["a.B"]).id), by decide, by decide⟩,
          t, ht⟩
    exact ⟨rule, _, .error, .one rfl rfl, rfl, by rw [ofSettings_settings]; exact hrule⟩
  obtain ⟨-, herror, hrespelt⟩ :=
    load_answers [plainDefinition, doubledDefinition, { plainDefinition with id := "" }]
  refine ⟨hsame, (hrespelt _ hsame).trans ((herror _).2 ?_)⟩
  exact ⟨[plainDefinition], doubledDefinition, _, rfl, List.forall_mem_singleton.2 hplain,
    hlabel ▸ .owners (iff_of_false nofun nofun)⟩

end Definition

end ForbiddenCalls
