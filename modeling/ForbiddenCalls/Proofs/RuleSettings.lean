import ForbiddenCalls.Proofs.TemplateWriting

/-!
# Rules from settings

A rule is described by settings that come one after the other: owner types, one at a time,
methods, several at a time, and texts and switches that replace each other.  Whether the
settings describe a rule is decided by what they give, and so is the rule: which owners and
which methods are named by some setting, and what is left of the other settings.  The order of
the names, how often each is given and how the methods are grouped cannot be told from the
answer, not even from a refusal.

* `RuleDraft.ofSettings_congr`: settings that give the same names make the same draft.
* `RuleDraft.FirstFault`: the conditions on settings, in their order.
* `RuleDraft.build_ofSettings`: which settings describe a rule, why the others do not, and
  which rule it is.
-/

namespace ForbiddenCalls

/-- One thing said about a rule. -/
inductive Setting where
  | title (s : String)
  | description (s : String)
  | severity (s : Severity)
  | owner (type : String)
  | methods (names : List String)
  | requiresReceiver (required : Bool)
  | message (source : String)
  deriving DecidableEq, Repr

namespace Setting

/-- The owner types that a setting gives. -/
def owners : Setting → List String
  | owner type => [type]
  | _ => []

/-- The methods that a setting gives. -/
def methodNames : Setting → List String
  | methods names => names
  | _ => []

/-- The message that a setting gives. -/
def message? : Setting → Option String
  | message source => some source
  | _ => none

/-- Whether a setting adds to the owners or to the methods.  All others replace. -/
def isNaming : Setting → Bool
  | owner _ => true
  | methods _ => true
  | _ => false

end Setting

/-- The owner types that settings give. -/
def ownersOf (ss : List Setting) : List String := ss.flatMap Setting.owners

/-- The methods that settings give. -/
def methodsOf (ss : List Setting) : List String := ss.flatMap Setting.methodNames

/-- The message that settings give: the last one. -/
def messageOf (ss : List Setting) : Option String := (ss.filterMap Setting.message?).getLast?

/-- The settings that do not give names. -/
def othersOf (ss : List Setting) : List Setting := ss.filter fun s => !s.isNaming

namespace RuleDraft

variable {d : RuleDraft} {id t : String} {ss ss' : List Setting} {e : RuleError}

/-- The draft after one more setting. -/
def set (d : RuleDraft) : Setting → RuleDraft
  | .title s => { d with title := s }
  | .description s => { d with description := s }
  | .severity s => { d with severity := s }
  | .owner type => d.addOwner type
  | .methods names => d.addMethods names
  | .requiresReceiver required => { d with requiresReceiver := required }
  | .message source => { d with message := some source }

/-- The draft of a rule with an id and settings. -/
def ofSettings (id : String) (ss : List Setting) : RuleDraft := ss.foldl set { id }

/-! ## What a draft keeps of its settings -/

theorem id_foldl_set (ss : List Setting) (d : RuleDraft) : (ss.foldl set d).id = d.id := by
  induction ss generalizing d with
  | nil => rfl
  | cons s ss ih =>
    rw [List.foldl_cons, ih]
    cases s <;> rfl

theorem id_ofSettings (id : String) (ss : List Setting) : (ofSettings id ss).id = id :=
  id_foldl_set ss { id }

/-- If each setting adds the names that it gives, so do settings one after the other. -/
theorem mem_foldl_set_iff {names : RuleDraft → NameSet} {given : Setting → List String}
    (hset : ∀ d s, t ∈ names (d.set s) ↔ t ∈ names d ∨ t ∈ given s) :
    t ∈ names (ss.foldl set d) ↔ t ∈ names d ∨ t ∈ ss.flatMap given := by
  induction ss generalizing d with
  | nil => exact (or_iff_left List.not_mem_nil).symm
  | cons s ss ih =>
    rw [List.foldl_cons, ih, hset, List.flatMap_cons, List.mem_append, or_assoc]

theorem mem_owners_set (d : RuleDraft) (s : Setting) :
    t ∈ (d.set s).owners ↔ t ∈ d.owners ∨ t ∈ s.owners := by
  cases s with
  | owner type => simp [set, addOwner, Setting.owners, or_comm]
  | _ => exact (or_iff_left List.not_mem_nil).symm

theorem mem_methods_set (d : RuleDraft) (s : Setting) :
    t ∈ (d.set s).methods ↔ t ∈ d.methods ∨ t ∈ s.methodNames := by
  cases s with
  | methods names => exact NameSet.mem_foldl_insert
  | _ => exact (or_iff_left List.not_mem_nil).symm

/-- **The owners of a draft** are those that its settings give. -/
theorem mem_owners_ofSettings : t ∈ (ofSettings id ss).owners ↔ t ∈ ownersOf ss :=
  (mem_foldl_set_iff mem_owners_set).trans (or_iff_right (NameSet.not_mem_empty t))

/-- **The methods of a draft** are those that its settings give. -/
theorem mem_methods_ofSettings : t ∈ (ofSettings id ss).methods ↔ t ∈ methodsOf ss :=
  (mem_foldl_set_iff mem_methods_set).trans (or_iff_right (NameSet.not_mem_empty t))

theorem message_set (d : RuleDraft) (s : Setting) :
    (d.set s).message = s.message?.or d.message := by
  cases s <;> rfl

theorem messageOf_cons (s : Setting) (ss : List Setting) :
    messageOf (s :: ss) = (messageOf ss).or s.message? := by
  rw [messageOf, messageOf, List.filterMap_cons]
  cases s.message? with
  | none => exact Option.or_none.symm
  | some source => rw [List.getLast?_cons]; cases (ss.filterMap Setting.message?).getLast? <;> rfl

theorem message_foldl_set (ss : List Setting) (d : RuleDraft) :
    (ss.foldl set d).message = (messageOf ss).or d.message := by
  induction ss generalizing d with
  | nil => rfl
  | cons s ss ih => rw [List.foldl_cons, ih, message_set, messageOf_cons, Option.or_assoc]

/-- The message of a draft is the last one that its settings give. -/
theorem message_ofSettings (id : String) (ss : List Setting) :
    (ofSettings id ss).message = messageOf ss :=
  (message_foldl_set ss { id }).trans Option.or_none

/-- The draft without its names. -/
def forgetNames (d : RuleDraft) : RuleDraft := { d with owners := .empty, methods := .empty }

theorem forgetNames_set_of_naming {s : Setting} (h : s.isNaming = true) :
    (d.set s).forgetNames = d.forgetNames := by
  cases s with
  | owner => rfl
  | methods => rfl
  | _ => exact nomatch h

theorem forgetNames_set {s : Setting} (h : s.isNaming = false) :
    (d.set s).forgetNames = d.forgetNames.set s := by
  cases s with
  | owner => exact nomatch h
  | methods => exact nomatch h
  | _ => rfl

/-- Settings that give names leave the rest of a draft as it is. -/
theorem forgetNames_foldl_set (ss : List Setting) (d : RuleDraft) :
    (ss.foldl set d).forgetNames = (othersOf ss).foldl set d.forgetNames := by
  induction ss generalizing d with
  | nil => rfl
  | cons s ss ih =>
    rw [List.foldl_cons, ih, othersOf, othersOf]
    cases hs : s.isNaming with
    | true => rw [List.filter_cons_of_neg (by simp [hs]), forgetNames_set_of_naming hs]
    | false =>
      rw [List.filter_cons_of_pos (by simp [hs]), List.foldl_cons, forgetNames_set hs]

/-- A draft is its names and the rest. -/
theorem eq_of_forgetNames {d d' : RuleDraft} (h : d.forgetNames = d'.forgetNames)
    (howners : d.owners = d'.owners) (hmethods : d.methods = d'.methods) : d = d' := by
  have heq : { d.forgetNames with owners := d.owners, methods := d.methods } =
      { d'.forgetNames with owners := d'.owners, methods := d'.methods } := by
    rw [h, howners, hmethods]
  exact heq

/-- **Settings that give the same names make the same draft**, in whatever order, how often and
in which groups the names are given. -/
theorem ofSettings_congr (hothers : othersOf ss' = othersOf ss)
    (howners : ∀ t, t ∈ ownersOf ss' ↔ t ∈ ownersOf ss)
    (hmethods : ∀ m, m ∈ methodsOf ss' ↔ m ∈ methodsOf ss) :
    ofSettings id ss' = ofSettings id ss := by
  refine eq_of_forgetNames ?_ (NameSet.ext fun t => ?_) (NameSet.ext fun m => ?_)
  · rw [ofSettings, ofSettings, forgetNames_foldl_set, forgetNames_foldl_set, hothers]
  · rw [mem_owners_ofSettings, mem_owners_ofSettings, howners]
  · rw [mem_methods_ofSettings, mem_methods_ofSettings, hmethods]

/-! ## Why settings are refused -/

/-- The first condition that settings violate, and the error for it. -/
inductive FirstFault (id : String) (ss : List Setting) : RuleError → Prop
  | emptyId (h : id = "") : FirstFault id ss .emptyId
  | invalidId (hne : id ≠ "") (h : ¬ IsRuleName id) : FirstFault id ss (.invalidId id)
  | noMethods (hid : IsRuleName id) (h : ¬ AreGiven (methodsOf ss)) :
      FirstFault id ss (.noMethods id)
  | noOwner (hid : IsRuleName id) (hmethods : AreGiven (methodsOf ss))
      (h : ¬ AreGiven (ownersOf ss)) : FirstFault id ss (.noOwner id)
  | message {source : String} {e : RuleError} (hid : IsRuleName id)
      (hmethods : AreGiven (methodsOf ss)) (howners : AreGiven (ownersOf ss))
      (hsource : messageOf ss = some source) (h : Template.parse source = .error e) :
      FirstFault id ss e

theorem areGiven_congr {names names' : List String} (h : ∀ n, n ∈ names ↔ n ∈ names') :
    AreGiven names ↔ AreGiven names' := by
  simp only [AreGiven, ne_eq, List.eq_nil_iff_forall_not_mem, h]

theorem areGiven_methods_iff :
    AreGiven (ofSettings id ss).methods.toList ↔ AreGiven (methodsOf ss) :=
  areGiven_congr fun _ => mem_methods_ofSettings

theorem areGiven_owners_iff :
    AreGiven (ofSettings id ss).owners.toList ↔ AreGiven (ownersOf ss) :=
  areGiven_congr fun _ => mem_owners_ofSettings

/-- A message can be wrong only where one is given. -/
theorem parse_messageSource_eq_error_iff :
    Template.parse d.messageSource = .error e ↔
      ∃ source, d.message = some source ∧ Template.parse source = .error e := by
  rw [messageSource]
  cases d.message with
  | some source => simp
  | none =>
    obtain ⟨t, ht, -⟩ := Template.exists_parse_literal d.shownTitle
    simp [ht]

theorem exists_parse_messageSource_iff :
    (∃ t, Template.parse d.messageSource = .ok t) ↔
      ∀ source, d.message = some source → ∃ t, Template.parse source = .ok t := by
  rw [messageSource]
  cases d.message with
  | some source => simp
  | none =>
    obtain ⟨t, ht, -⟩ := Template.exists_parse_literal d.shownTitle
    simp [ht]

theorem lacksMethods_ofSettings :
    (ofSettings id ss).lacksMethods = false ↔ AreGiven (methodsOf ss) :=
  lacksMethods_eq_false_iff.trans areGiven_methods_iff

theorem isBlank_owners_ofSettings :
    (OwnerPredicate.ofSet (ofSettings id ss).owners).isBlank = false ↔ AreGiven (ownersOf ss) :=
  isBlank_owners_eq_false_iff.trans areGiven_owners_iff

/-- **The error of a refusal** is that of the first condition that is violated. -/
theorem build_ofSettings_eq_error_iff :
    (ofSettings id ss).build = .error e ↔ FirstFault id ss e := by
  simp only [build_eq_error_iff, id_ofSettings, parse_messageSource_eq_error_iff,
    message_ofSettings, ← Bool.not_eq_false, lacksMethods_ofSettings, isBlank_owners_ofSettings]
  by_cases hid : IsRuleName id
  · obtain ⟨ruleId, hruleId⟩ := exists_ofText_iff.2 hid
    rw [hruleId]
    constructor
    · rintro (h | ⟨-, -, ⟨h, rfl⟩ | ⟨hmethods, ⟨h, rfl⟩ | ⟨howners, source, hsource, h⟩⟩⟩)
      · exact nomatch h
      · exact .noMethods hid h
      · exact .noOwner hid hmethods h
      · exact .message hid hmethods howners hsource h
    · intro h
      refine .inr ⟨ruleId, rfl, ?_⟩
      cases h with
      | emptyId h => exact absurd h hid.1
      | invalidId _ h => exact absurd hid h
      | noMethods _ h => exact .inl ⟨h, rfl⟩
      | noOwner _ hmethods h => exact .inr ⟨hmethods, .inl ⟨h, rfl⟩⟩
      | message _ hmethods howners hsource h =>
        exact .inr ⟨hmethods, .inr ⟨howners, _, hsource, h⟩⟩
  · rw [ofText_of_not_isRuleName hid]
    constructor
    · rintro (h | ⟨_, h, _⟩)
      · obtain rfl := Except.error.inj h
        split
        · next h => exact .emptyId h
        · next h => exact .invalidId h hid
      · exact nomatch h
    · intro h
      refine .inl (congrArg Except.error ?_)
      cases h with
      | emptyId h => rw [if_pos h]
      | invalidId hne => rw [if_neg hne]
      | noMethods h => exact absurd h hid
      | noOwner h => exact absurd h hid
      | message h => exact absurd h hid

/-! ## The rule -/

theorem accepts_ofSet {types : NameSet} :
    (OwnerPredicate.ofSet types).accepts t = true ↔ t ∈ types := by
  rw [OwnerPredicate.ofSet]
  cases htypes : types.single? with
  | none => exact NameSet.contains_iff
  | some type =>
    rw [NameSet.single?_eq_some_iff] at htypes
    rw [OwnerPredicate.accepts, beq_iff_eq, ← NameSet.mem_toList, htypes, List.mem_singleton,
      eq_comm]

/-- A single owner is asked for exactly. -/
theorem ofSet_eq_exact {types : NameSet} (hne : types.toList ≠ []) (h : ∀ o ∈ types, o = t) :
    OwnerPredicate.ofSet types = .exact t := by
  obtain ⟨o, ho⟩ := List.exists_mem_of_ne_nil types.toList hne
  have hsingle := NameSet.toList_eq_singleton (h o ho ▸ ho) h
  rw [OwnerPredicate.ofSet, NameSet.single?_eq_some_iff.2 hsingle]

/-- **Rules from settings.**  Settings describe a rule exactly when the id is one, methods and
owners are given, none of them blank, and the message, if there is one, is a template;
otherwise the first of these that fails is the answer.  The rule is about the owners and the
methods that were given, asks for a single owner exactly, and is the same however they were
given. -/
theorem build_ofSettings (id : String) (ss : List Setting) :
    ((∃ r, (ofSettings id ss).build = .ok r) ↔
      IsRuleName id ∧ AreGiven (methodsOf ss) ∧ AreGiven (ownersOf ss) ∧
        ∀ source, messageOf ss = some source → ∃ t, Template.parse source = .ok t) ∧
    (∀ e, (ofSettings id ss).build = .error e ↔ FirstFault id ss e) ∧
    (∀ r, (ofSettings id ss).build = .ok r →
      (∀ t, r.owner.accepts t = true ↔ t ∈ ownersOf ss) ∧
        (∀ m, m ∈ r.methods ↔ m ∈ methodsOf ss) ∧
        ∀ t, (∀ o ∈ ownersOf ss, o = t) → r.owner = .exact t) ∧
    ∀ ss', othersOf ss' = othersOf ss → (∀ t, t ∈ ownersOf ss' ↔ t ∈ ownersOf ss) →
      (∀ m, m ∈ methodsOf ss' ↔ m ∈ methodsOf ss) →
      (ofSettings id ss').build = (ofSettings id ss).build := by
  refine ⟨?_, fun e => build_ofSettings_eq_error_iff, fun r hr => ?_, ?_⟩
  · rw [exists_build_iff, exists_parse_messageSource_iff, message_ofSettings]
    constructor
    · rintro ⟨⟨hid, hmethods, howners⟩, hmessage⟩
      rw [id_ofSettings] at hid
      exact ⟨hid, areGiven_methods_iff.1 hmethods, areGiven_owners_iff.1 howners, hmessage⟩
    · rintro ⟨hid, hmethods, howners, hmessage⟩
      rw [← id_ofSettings id ss] at hid
      exact ⟨⟨hid, areGiven_methods_iff.2 hmethods, areGiven_owners_iff.2 howners⟩, hmessage⟩
  · obtain ⟨ruleId, message, -, -, howners, -, rfl⟩ := build_eq_ok_iff.1 hr
    refine ⟨fun t => accepts_ofSet.trans mem_owners_ofSettings, fun m => mem_methods_ofSettings,
      fun t ht => ofSet_eq_exact (isBlank_owners_eq_false_iff.1 howners).1 fun o ho => ?_⟩
    exact ht o (mem_owners_ofSettings.1 ho)
  · intro ss' hothers howners hmethods
    rw [ofSettings_congr hothers howners hmethods]

/-- One owner and two methods. -/
def plainSettings : List Setting := [.owner "a.B", .title "Avoid x", .methods ["x", "y"]]

/-- The same names in another order and in other groups, some of them twice. -/
def regroupedSettings : List Setting :=
  [.methods ["y"], .title "Avoid x", .owner "a.B", .methods ["x", "y"], .owner "a.B"]

theorem build_ofSettings_regrouped :
    (ofSettings "AvoidX" regroupedSettings).build = (ofSettings "AvoidX" plainSettings).build ∧
      ∃ r, (ofSettings "AvoidX" plainSettings).build = .ok r ∧ r.owner = .exact "a.B" ∧
        (∀ t, r.owner.accepts t = true ↔ t ∈ ["a.B"]) ∧ ∀ m, m ∈ r.methods ↔ m ∈ ["x", "y"] := by
  obtain ⟨hok, -, hrule, hsame⟩ := build_ofSettings "AvoidX" plainSettings
  obtain ⟨r, hr⟩ := hok.2 ⟨by decide, by decide, by decide, nofun⟩
  obtain ⟨howners, hmethods, hexact⟩ := hrule r hr
  refine ⟨hsame regroupedSettings rfl ?_ ?_, r, hr, hexact "a.B" (by decide), howners, hmethods⟩
  · simp [ownersOf, regroupedSettings, plainSettings, Setting.owners]
  · intro m
    have hmem : m ∈ methodsOf regroupedSettings ↔ m = "y" ∨ m ∈ methodsOf plainSettings :=
      List.mem_cons
    rw [hmem]
    refine or_iff_right_of_imp ?_
    rintro rfl
    decide

end RuleDraft

end ForbiddenCalls
