import Std.Data.HashMap
import ForbiddenCalls.Rule.Basic

/-!
# The registry of active rules

The registry keeps the rules in the order in which they were registered.  Beside
them it keeps the position of every id and, for every method, the positions of
the rules about it in ascending order, so that a call is only compared with
rules that name its method.  An id is registered once: a second rule with it is
refused and leaves the registry as it was.

Both indexes are tied to the list of rules by the type: `position_iff` says that
the ids lead to the positions of their rules, and `byMethod_eq` that the lists of
the methods are those read off the rules.  What follows for every registry is
that its ids are pairwise different (`nodup_ids`) and that the indexed look-up is
a filter of the rules (`candidates_eq`).
-/

namespace ForbiddenCalls

/-- The id of a rule that was registered twice. -/
structure DuplicateRule where
  id : String
  deriving DecidableEq, Repr

/-- The printed form of the error. -/
def DuplicateRule.diagnostic (e : DuplicateRule) : Diagnostic where
  message := "duplicate rule id `" ++ e.id ++ "`"
  code := some "callgate::registry::duplicate"
  help := some
    "rule ids must be unique across built-in rule sets and [[forbidden-call]] entries"

/-- The positions of the rules about a method, in ascending order. -/
def positionsAbout (method : String) (rules : List Rule) : List Nat :=
  (rules.zipIdx.filter fun p => p.1.methods.contains method).map Prod.snd

/-- Rules in order of registration, with their indexes. -/
structure Registry where
  rules : Array Rule := #[]
  positions : Std.HashMap RuleId Nat := ∅
  byMethod : Std.HashMap String (List Nat) := ∅
  position_iff : ∀ (id : RuleId) (i : Nat),
      positions[id]? = some i ↔ ∃ rule : Rule, rules[i]? = some rule ∧ rule.id = id := by simp
  byMethod_eq : ∀ method, byMethod.getD method [] = positionsAbout method rules.toList := by
    simp [positionsAbout]

namespace Registry

/-- The registry without rules. -/
def empty : Registry := {}

instance : Inhabited Registry := ⟨empty⟩

/-- Adds a position to the list of each method. -/
def indexMethods (index : Std.HashMap String (List Nat)) (position : Nat) (methods : List String) :
    Std.HashMap String (List Nat) :=
  methods.foldl (fun m name => m.alter name fun at? => some (at?.getD [] ++ [position])) index

/-! ## Keeping the indexes -/

/-- One more rule at the end adds its position to the lists of its methods. -/
theorem positionsAbout_concat (method : String) (rules : List Rule) (rule : Rule) :
    positionsAbout method (rules ++ [rule]) =
      positionsAbout method rules ++ if method ∈ rule.methods then [rules.length] else [] := by
  unfold positionsAbout
  rw [List.zipIdx_append, List.filter_append, List.map_append]
  by_cases h : method ∈ rule.methods
  · simp [h]
  · simp [h, NameSet.contains]

/-- Indexing a rule adds its position to the lists of its methods, once each. -/
theorem getD_indexMethods (position : Nat) (method : String) {methods : List String}
    (hnodup : methods.Nodup) (index : Std.HashMap String (List Nat)) :
    (indexMethods index position methods).getD method [] =
      index.getD method [] ++ if method ∈ methods then [position] else [] := by
  induction methods generalizing index with
  | nil => simp [indexMethods]
  | cons name methods ih =>
    obtain ⟨hname, hnodup⟩ := List.nodup_cons.1 hnodup
    have hstep := ih hnodup (index.alter name fun at? => some (at?.getD [] ++ [position]))
    rw [indexMethods, List.foldl_cons, ← indexMethods, hstep, Std.HashMap.getD_alter]
    by_cases h : name = method
    · subst h
      simp [hname, Std.HashMap.getD_eq_getD_getElem?]
    · simp [h, Ne.symm h]

/-- A new id leads to the position behind the last rule, and the others stay. -/
theorem position_iff_push {rules : Array Rule} {positions : Std.HashMap RuleId Nat}
    (h : ∀ (id : RuleId) (i : Nat),
      positions[id]? = some i ↔ ∃ rule : Rule, rules[i]? = some rule ∧ rule.id = id)
    {rule : Rule} (hnew : rule.id ∉ positions) (id : RuleId) (i : Nat) :
    (positions.insert rule.id rules.size)[id]? = some i ↔
      ∃ rule', (rules.push rule)[i]? = some rule' ∧ rule'.id = id := by
  rw [Std.HashMap.getElem?_insert, Array.getElem?_push]
  by_cases hid : rule.id = id
  · subst hid
    simp only [beq_self_eq_true, if_true, Option.some_inj]
    constructor
    · rintro rfl
      exact ⟨rule, by simp, rfl⟩
    · rintro ⟨rule', hrule', hsame⟩
      split at hrule'
      · next hi => exact hi.symm
      · -- an older rule with this id would have a position already
        have hold := (h rule.id i).2 ⟨rule', hrule', hsame⟩
        exact absurd (Std.HashMap.mem_iff_isSome_getElem?.2 (by rw [hold]; rfl)) hnew
  · rw [if_neg (by simpa using hid), h]
    constructor
    · rintro ⟨rule', hrule', hsame⟩
      have hi : i < rules.size := (Array.getElem?_eq_some_iff.1 hrule').1
      exact ⟨rule', by rw [if_neg (by omega), hrule'], hsame⟩
    · rintro ⟨rule', hrule', hsame⟩
      split at hrule'
      · rw [Option.some_inj] at hrule'
        exact absurd (hrule' ▸ hsame) hid
      · exact ⟨rule', hrule', hsame⟩

/-! ## Registering -/

/-- Registers a rule, unless its id is in use. -/
def register (r : Registry) (rule : Rule) : Except DuplicateRule Registry :=
  if h : rule.id ∈ r.positions then .error ⟨rule.id.text⟩
  else
    .ok {
      rules := r.rules.push rule
      positions := r.positions.insert rule.id r.rules.size
      byMethod := indexMethods r.byMethod r.rules.size rule.methods.toList
      position_iff := position_iff_push r.position_iff h
      byMethod_eq := fun method => by
        rw [getD_indexMethods _ _ rule.methods.nodup_toList, r.byMethod_eq, Array.toList_push,
          positionsAbout_concat, Array.length_toList]
        rfl }

/-- Registers rules one after the other and stops at the first one that is
refused.  The rules before it stay registered. -/
def registerAll (r : Registry) : List Rule → Registry × Option DuplicateRule
  | [] => (r, none)
  | rule :: rules =>
    match r.register rule with
    | .error e => (r, some e)
    | .ok r' => r'.registerAll rules

/-- The rules in the order of registration. -/
def activeRules (r : Registry) : List Rule := r.rules.toList

/-- The rules about a method, in the order of registration. -/
def candidates (r : Registry) (method : String) : List Rule :=
  (r.byMethod.getD method []).filterMap (r.rules[·]?)

/-- The rule with a given id. -/
def get? (r : Registry) (id : String) : Option Rule :=
  match RuleId.ofText id with
  | .error _ => none
  | .ok id => r.positions[id]?.bind (r.rules[·]?)

/-- The number of rules. -/
def size (r : Registry) : Nat := r.rules.size

/-- Whether there are no rules. -/
def isEmpty (r : Registry) : Bool := r.rules.isEmpty

theorem length_activeRules (r : Registry) : r.activeRules.length = r.size := by
  simp [activeRules, size]

/-- The ids of the active rules are pairwise different. -/
theorem nodup_ids (r : Registry) : (r.activeRules.map Rule.id).Nodup := by
  refine List.pairwise_iff_getElem.2 fun i j hi hj hij heq => ?_
  simp only [activeRules, List.length_map, Array.length_toList] at hi hj
  simp only [activeRules, List.getElem_map, Array.getElem_toList] at heq
  have hfirst := (r.position_iff r.rules[j].id i).2
    ⟨r.rules[i], Array.getElem?_eq_getElem hi, heq⟩
  have hsecond := (r.position_iff r.rules[j].id j).2
    ⟨r.rules[j], Array.getElem?_eq_getElem hj, rfl⟩
  rw [hfirst, Option.some_inj] at hsecond
  omega

/-- Fetching rules by their positions gives the rules. -/
theorem filterMap_getElem? {rules : Array Rule} {ps : List (Rule × Nat)}
    (h : ∀ p ∈ ps, rules[p.2]? = some p.1) :
    ps.filterMap (fun p => rules[p.2]?) = ps.map Prod.fst := by
  induction ps with
  | nil => rfl
  | cons p ps ih =>
    obtain ⟨hp, hps⟩ := List.forall_mem_cons.1 h
    rw [List.filterMap_cons, hp, List.map_cons, ih hps]

/-- The indexed look-up finds the active rules about a method. -/
theorem candidates_eq (r : Registry) (method : String) :
    r.candidates method = r.activeRules.filter fun rule => rule.methods.contains method := by
  have hfetch : ∀ p ∈ r.rules.toList.zipIdx.filter fun p => p.1.methods.contains method,
      r.rules[p.2]? = some p.1 := fun p hp => by
    rw [← Array.getElem?_toList]
    exact List.mem_zipIdx_iff_getElem?.1 (List.mem_filter.1 hp).1
  rw [candidates, r.byMethod_eq, positionsAbout, List.filterMap_map]
  refine (filterMap_getElem? hfetch).trans ?_
  rw [activeRules, ← List.zipIdx_map_fst 0 r.rules.toList, List.filter_map, List.zipIdx_map_fst]
  rfl

end Registry

end ForbiddenCalls
