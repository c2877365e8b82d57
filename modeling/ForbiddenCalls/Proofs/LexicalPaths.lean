import ForbiddenCalls.FileSystem.Resolve
import ForbiddenCalls.Proofs.DottedNames
import Mathlib.Data.List.Basic

/-!
# Paths in a tree without links

A link leads from one place in a tree to another, and what `..` then goes up from is not what the
path says.  In a tree without links a path leads to where its components say, one after the
other: a name goes down, `..` goes up, and everything else stays.  The tree only decides
whether there is something on the way.

* `Entry.LinkFree`: a tree without links, as a file system keeps it.
* `FilePath.placeFrom`: where the components of a path lead from a working directory.
* `FilePath.components_join`: a path below another one has the components of both.
* `FilePath.SpelledBelow`: a path goes on where another one ends, and
  `FilePath.components_eq_iff_spelledBelow`: when two paths to one place are one path.
* `FileSystem.follow_append_eq_ok_iff`: looking up segments in two parts.
* `FileSystem.resolve_eq`: a path leads where its components say.
-/

namespace ForbiddenCalls

/-! ## Places -/

/-- Where a component leads from the end of a trail. -/
def Component.leadFrom (trail : Trail) : Component → Trail
  | root => []
  | here => trail
  | up => trail.tail
  | name s => s :: trail

/-- Where components lead from the end of a trail. -/
def Trail.after (trail : Trail) (cs : List Component) : Trail := cs.foldl Component.leadFrom trail

theorem Trail.after_append (trail : Trail) (cs ds : List Component) :
    Trail.after trail (cs ++ ds) = Trail.after (Trail.after trail cs) ds :=
  List.foldl_append

/-- Names lead down. -/
theorem Trail.after_names (trail : Trail) (names : List String) :
    Trail.after trail (names.map .name) = names.reverse ++ trail := by
  induction names generalizing trail with
  | nil => rfl
  | cons name names ih =>
    have hfirst : Trail.after trail ((name :: names).map .name) =
        Trail.after (name :: trail) (names.map .name) := rfl
    rw [hfirst, ih, List.reverse_cons, List.append_assoc, List.singleton_append]

/-- A segment between two slashes stands for nothing, for the directory above, or for itself. -/
theorem Component.ofSegment?_cases (s : String) :
    ofSegment? s = none ∨ ofSegment? s = some .up ∨ ofSegment? s = some (.name s) := by
  unfold ofSegment?
  split
  · exact .inl rfl
  · split
    · exact .inr (.inl rfl)
    · exact .inr (.inr rfl)

/-- A text that can be the name of an entry: between two slashes it stands for itself. -/
structure IsEntryName (s : String) : Prop where
  ofSegment? : Component.ofSegment? s = some (.name s)
  noSlash : '/' ∉ s.toList

theorem IsEntryName.ne_empty {s : String} (h : IsEntryName s) : s ≠ "" := by
  rintro rfl
  exact nomatch h.ofSegment?

theorem filterMap_ofSegment?_of_isEntryName {names : List String}
    (h : ∀ s ∈ names, IsEntryName s) :
    names.filterMap Component.ofSegment? = names.map .name := by
  induction names with
  | nil => rfl
  | cons s names ih =>
    rw [List.filterMap_cons_some (h s List.mem_cons_self).ofSegment?, List.map_cons,
      ih fun t ht => h t (List.mem_cons_of_mem s ht)]

/-! ## Spellings -/

namespace FilePath

variable {p q : FilePath}

/-- What the spelling of a path begins with besides names: the root or the present directory. -/
def lead (p : FilePath) : List Component :=
  if p.isAbsolute then [.root] else if p.pieces.head? == some "." then [.here] else []

theorem components_eq (p : FilePath) :
    p.components = p.lead ++ p.pieces.filterMap Component.ofSegment? := by
  unfold components lead
  by_cases habsolute : p.isAbsolute = true
  · simp only [habsolute, if_true, List.singleton_append]
  · by_cases hhere : (p.pieces.head? == some ".") = true
    · simp only [habsolute, hhere, if_true, Bool.false_eq_true, if_false, List.singleton_append]
    · simp only [habsolute, hhere, Bool.false_eq_true, if_false, List.nil_append]

/-- Where the components of a path lead from a working directory. -/
def placeFrom (cwd : Trail) (p : FilePath) : Trail := Trail.after cwd p.components

theorem after_lead (cwd : Trail) (p : FilePath) :
    Trail.after cwd p.lead = FileSystem.startOf cwd p := by
  unfold lead FileSystem.startOf
  by_cases habsolute : p.isAbsolute = true
  · rw [if_pos habsolute, if_pos habsolute]
    rfl
  · rw [if_neg habsolute, if_neg habsolute]
    split
    · rfl
    · rfl

theorem placeFrom_eq (cwd : Trail) (p : FilePath) :
    p.placeFrom cwd = Trail.after (FileSystem.startOf cwd p)
      (p.pieces.filterMap Component.ofSegment?) := by
  rw [placeFrom, components_eq, Trail.after_append, after_lead]

/-! ## Joining paths -/

/-- Two texts joined by a slash, as characters. -/
theorem toList_slash (a b : String) : (a ++ "/" ++ b).toList = a.toList ++ '/' :: b.toList := by
  simp

/-- The pieces of two texts joined by a slash. -/
theorem pieces_slash (a b : String) :
    pieces ⟨a ++ "/" ++ b⟩ = pieces ⟨a⟩ ++ pieces ⟨b⟩ := by
  rw [pieces, toList_slash, Text.cutAll_append, List.map_append]
  rfl

theorem pieces_ne_nil (p : FilePath) : p.pieces ≠ [] := by
  rw [pieces, Ne, List.map_eq_nil_iff]
  exact Text.cutAll_ne_nil '/' _

theorem pieces_of_noSlash {s : String} (h : '/' ∉ s.toList) : pieces ⟨s⟩ = [s] := by
  rw [pieces, Text.cutAll_of_notMem h, List.map_singleton, String.ofList_toList]

/-- The pieces of names with slashes between them. -/
theorem pieces_intercalate {names : List String} (hne : names ≠ [])
    (h : ∀ s ∈ names, IsEntryName s) : pieces ⟨"/".intercalate names⟩ = names := by
  induction names with
  | nil => exact absurd rfl hne
  | cons s names ih =>
    have hs : pieces ⟨s⟩ = [s] := pieces_of_noSlash (h s List.mem_cons_self).noSlash
    cases names with
    | nil => rw [String.intercalate_singleton, hs]
    | cons t names =>
      rw [String.intercalate_cons_cons, pieces_slash, hs,
        ih (List.cons_ne_nil t names) fun u hu => h u (List.mem_cons_of_mem s hu),
        List.singleton_append]

/-- Names with slashes between them do not start at the root. -/
theorem isAbsolute_intercalate {names : List String} (hne : names ≠ [])
    (h : ∀ s ∈ names, IsEntryName s) : isAbsolute ⟨"/".intercalate names⟩ = false := by
  refine Bool.eq_false_iff.2 fun habsolute => ?_
  obtain ⟨cs, hcs⟩ := List.head?_eq_some_iff.1 (beq_iff_eq.1 habsolute)
  have hpieces := pieces_intercalate hne h
  rw [pieces, hcs, Text.cutAll, if_pos rfl, List.map_cons] at hpieces
  have hempty : "" ∈ names := by
    rw [← hpieces]
    exact List.mem_cons_self
  exact (h "" hempty).ne_empty rfl

/-- **A path below another one.**  A slash is put between the two unless there is one. -/
theorem exists_text_join (hp : p.text ≠ "") (hq : q.isAbsolute = false) :
    ∃ a, p.join q = ⟨a ++ "/" ++ q.text⟩ ∧ (p.text = a ∧ a ≠ "" ∨ p.text = a ++ "/" ++ "") := by
  rw [join, if_neg (Bool.eq_false_iff.1 hq)]
  by_cases hslash : p.text.toList.getLast? = some '/'
  · rw [if_pos (.inr hslash)]
    obtain ⟨cs, hcs⟩ := List.getLast?_eq_some_iff.1 hslash
    have htext : p.text = String.ofList cs ++ "/" := by
      rw [← String.toList_inj, hcs, String.toList_append, String.toList_ofList]
      rfl
    refine ⟨String.ofList cs, by rw [← htext], .inr ?_⟩
    rw [String.append_empty]
    exact htext
  · rw [if_neg (not_or_intro hp hslash)]
    exact ⟨p.text, rfl, .inl ⟨rfl, hp⟩⟩

theorem text_join_ne (hp : p.text ≠ "") (hq : q.isAbsolute = false) : (p.join q).text ≠ "" := by
  obtain ⟨a, hjoin, -⟩ := exists_text_join hp hq
  rw [hjoin]
  intro hempty
  have hlength := congrArg String.length hempty
  simp only [String.length_append] at hlength
  have hslash : "/".length = 1 := rfl
  have hzero : "".length = 0 := rfl
  omega

/-- What is behind the first slash does not matter to what a path begins with. -/
theorem lead_slash (a b : String) :
    lead ⟨a ++ "/" ++ b⟩ = if a = "" then [.root] else lead ⟨a⟩ := by
  by_cases ha : a = ""
  · subst ha
    rw [if_pos rfl, lead, if_pos]
    rw [isAbsolute, toList_slash]
    rfl
  · have hne : a.toList ≠ [] := by rwa [Ne, String.toList_eq_nil_iff]
    have habsolute : isAbsolute ⟨a ++ "/" ++ b⟩ = isAbsolute ⟨a⟩ := by
      rw [isAbsolute, isAbsolute, toList_slash, List.head?_append_of_ne_nil _ hne]
    rw [if_neg ha, lead, lead, habsolute, pieces_slash,
      List.head?_append_of_ne_nil _ (pieces_ne_nil ⟨a⟩)]

/-- What a path begins with, and its pieces, once another path is put below it. -/
theorem exists_pieces_join (hp : p.text ≠ "") (hq : q.isAbsolute = false) :
    (p.join q).lead = p.lead ∧ ∃ front, (p.join q).pieces = front ++ q.pieces ∧
      (p.pieces = front ∨ p.pieces = front ++ [""]) := by
  obtain ⟨a, hjoin, ha | ha⟩ := exists_text_join hp hq
  · obtain ⟨rfl, hne⟩ := ha
    rw [hjoin, lead_slash, if_neg hne, pieces_slash]
    exact ⟨rfl, p.pieces, rfl, .inl rfl⟩
  · obtain ⟨text⟩ := p
    dsimp only at ha
    subst ha
    rw [hjoin, lead_slash, lead_slash, pieces_slash, pieces_slash]
    exact ⟨rfl, pieces ⟨a⟩, rfl, .inr rfl⟩

/-- **A path below another one has the components of both.** -/
theorem components_join (hp : p.text ≠ "") (hq : q.isAbsolute = false) :
    (p.join q).components = p.components ++ q.pieces.filterMap Component.ofSegment? := by
  obtain ⟨hlead, front, hpieces, hfront⟩ := exists_pieces_join hp hq
  have hnamed : p.pieces.filterMap Component.ofSegment? =
      front.filterMap Component.ofSegment? := by
    rcases hfront with hfront | hfront
    · rw [hfront]
    · rw [hfront, List.filterMap_append]
      exact List.append_nil _
  rw [components_eq, components_eq, hlead, hpieces, List.filterMap_append, hnamed,
    List.append_assoc]

/-! ## Paths below one another -/

/-- A path is spelled below another one if it goes on where that one ends, with names only. -/
def SpelledBelow (p root : FilePath) : Prop :=
  ∃ names : List String, p.components = root.components ++ names.map .name

theorem SpelledBelow.refl (p : FilePath) : p.SpelledBelow p :=
  ⟨[], (List.append_nil _).symm⟩

theorem SpelledBelow.trans {r : FilePath} (hpq : p.SpelledBelow q) (hqr : q.SpelledBelow r) :
    p.SpelledBelow r := by
  obtain ⟨names, hp⟩ := hpq
  obtain ⟨outer, hq⟩ := hqr
  refine ⟨outer ++ names, ?_⟩
  rw [hp, hq, List.map_append, List.append_assoc]

/-- What is spelled between two paths is spelled below the outer one. -/
theorem SpelledBelow.of_prefix {f : FilePath} (hf : f.SpelledBelow q)
    (hq : q.components <+: p.components) (hp : p.components <+: f.components) :
    p.SpelledBelow q := by
  obtain ⟨names, hnames⟩ := hf
  obtain ⟨between, hbetween⟩ := hq
  obtain ⟨rest, hrest⟩ := hp
  rw [← hrest, ← hbetween, List.append_assoc, List.append_cancel_left_eq] at hnames
  obtain ⟨inner, -, -, hinner, -⟩ := List.map_eq_append_iff.1 hnames.symm
  exact ⟨inner, by rw [hinner, hbetween]⟩

theorem placeFrom_eq_of_components_eq (cwd : Trail) (h : p.components = q.components) :
    p.placeFrom cwd = q.placeFrom cwd := by
  rw [placeFrom, placeFrom, h]

section SamePlace

variable {cwd : Trail} {f g root : FilePath}

/-- Two paths that are spelled below one and lead to one place are one path. -/
theorem components_eq_of_placeFrom_eq (hf : f.SpelledBelow root) (hg : g.SpelledBelow root)
    (hplace : f.placeFrom cwd = g.placeFrom cwd) : f.components = g.components := by
  obtain ⟨names, hnames⟩ := hf
  obtain ⟨others, hothers⟩ := hg
  rw [placeFrom, placeFrom, hnames, hothers, Trail.after_append, Trail.after_append,
    Trail.after_names, Trail.after_names, List.append_cancel_right_eq, List.reverse_inj] at hplace
  rw [hnames, hothers, hplace]

/-- **Two paths to one place**, each spelled below another path, are one path if and only if one
of the other two is spelled below the other. -/
theorem components_eq_iff_spelledBelow (hf : f.SpelledBelow p) (hg : g.SpelledBelow q)
    (hplace : f.placeFrom cwd = g.placeFrom cwd) :
    f.components = g.components ↔ p.SpelledBelow q ∨ q.SpelledBelow p := by
  constructor
  · intro hsame
    obtain ⟨names, hnames⟩ := id hf
    obtain ⟨others, hothers⟩ := id hg
    have hp : p.components <+: f.components := ⟨_, hnames.symm⟩
    have hq : q.components <+: g.components := ⟨_, hothers.symm⟩
    rcases List.prefix_or_prefix_of_prefix hp (hsame ▸ hq) with hpq | hqp
    · exact .inr (hf.of_prefix hpq (hsame ▸ hq))
    · exact .inl (hg.of_prefix hqp (hsame ▸ hp))
  · rintro (hpq | hqp)
    · exact components_eq_of_placeFrom_eq (hf.trans hpq) hg hplace
    · exact components_eq_of_placeFrom_eq hf (hg.trans hqp) hplace

end SamePlace

end FilePath

/-! ## Trees without links -/

/-- A tree without links, as a file system keeps it: in a directory every name is used once,
and it can be the name of an entry. -/
inductive Entry.LinkFree : Entry → Prop
  | file (bytes : ByteArray) : LinkFree (.file bytes)
  | barred (reason : String) : LinkFree (.barred reason)
  | dir {entries : List (String × Entry)} : (entries.map Prod.fst).Nodup →
      (∀ p ∈ entries, IsEntryName p.1) → (∀ p ∈ entries, LinkFree p.2) → LinkFree (.dir entries)

namespace Entry

variable {e c : Entry} {name : String} {names : List String} {entries : List (String × Entry)}

theorem LinkFree.ne_link (h : e.LinkFree) (target : String) : e ≠ .link target := by
  rintro rfl
  cases h

theorem LinkFree.child (h : e.LinkFree) (hc : e.child? name = some c) : c.LinkFree := by
  cases h with
  | file bytes => exact nomatch hc
  | barred reason => exact nomatch hc
  | dir hnodup hnames hall =>
    obtain ⟨before, after, rfl, -⟩ := List.lookup_eq_some_iff.1 hc
    exact hall (name, c) (List.mem_append_right before List.mem_cons_self)

theorem LinkFree.descend (h : e.LinkFree) (hc : e.descend? names = some c) : c.LinkFree := by
  induction names generalizing e with
  | nil =>
    obtain rfl := Option.some.inj hc
    exact h
  | cons name names ih =>
    obtain ⟨d, hd, hc⟩ := Option.bind_eq_some_iff.1 hc
    exact ih (h.child hd) hc

theorem LinkFree.isEntryName (h : LinkFree (.dir entries)) (hmem : (name, c) ∈ entries) :
    IsEntryName name := by
  cases h with
  | dir hnodup hnames hall => exact hnames (name, c) hmem

/-- An entry of a directory is the one that its name stands for. -/
theorem LinkFree.child?_eq (h : LinkFree (.dir entries)) (hmem : (name, c) ∈ entries) :
    child? (.dir entries) name = some c := by
  cases h with
  | dir hnodup hnames hall =>
    obtain ⟨before, after, rfl⟩ := List.append_of_mem hmem
    refine List.lookup_eq_some_iff.2 ⟨before, after, rfl, fun p hp => bne_iff_ne.2 ?_⟩
    rintro rfl
    rw [List.map_append, List.map_cons] at hnodup
    exact (List.nodup_append.1 hnodup).2.2 p.1 (List.mem_map_of_mem hp) p.1
      List.mem_cons_self rfl

end Entry

/-! ## Looking up -/

namespace FileSystem

variable {fs : FileSystem} {trail place : Trail} {links : Nat} {segment : String}
  {segments a b : List String} {p q : FilePath} {start : Trail} {e : Entry}

theorem linkFree_entryAt? (h : fs.root.LinkFree) (he : fs.entryAt? trail = some e) :
    e.LinkFree :=
  h.descend he

theorem entryAt?_cons (he : fs.entryAt? trail = some e) {name : String} {c : Entry}
    (hc : e.child? name = some c) : fs.entryAt? (name :: trail) = some c := by
  rw [entryAt?] at he ⊢
  rw [List.reverse_cons, Entry.descend?_append, he, Option.bind_some, Entry.descend?, hc,
    Option.bind_some, Entry.descend?_nil]

/-- **Looking up one segment.**  It asks for a directory to stand in and leads where it says. -/
theorem follow_cons_eq_ok_iff (h : fs.root.LinkFree) :
    fs.follow links trail (segment :: segments) = .ok place ↔
      (∃ e, fs.entryAt? trail = some e ∧ e.isDir = true) ∧
      fs.follow links (Trail.after trail (Component.ofSegment? segment).toList) segments =
        .ok place := by
  cases he : fs.entryAt? trail with
  | none => simp [follow, he]
  | some e =>
    by_cases hdir : e.isDir = true
    · have hstand : ∃ d, some e = some d ∧ d.isDir = true := ⟨e, rfl, hdir⟩
      rw [and_iff_right hstand, follow, he]
      dsimp only
      rw [if_pos hdir]
      rcases Component.ofSegment?_cases segment with hsegment | hsegment | hsegment
      · rw [hsegment]
        rfl
      · rw [hsegment]
        rfl
      · rw [hsegment]
        dsimp only
        split
        · -- there is no link to follow
          next target hchild =>
            exact absurd rfl (((linkFree_entryAt? h he).child hchild).ne_link target)
        · rfl
    · have hstand : ¬ ∃ d, some e = some d ∧ d.isDir = true := by
        rintro ⟨d, hd, hisDir⟩
        exact hdir (Option.some.inj hd ▸ hisDir)
      rw [follow, he]
      dsimp only
      rw [if_neg hdir]
      constructor
      · intro hplace
        contradiction
      · intro hboth
        exact absurd hboth.1 hstand

/-- **Looking up segments in two parts**: the second part is looked up from where the first one
leads. -/
theorem follow_append_eq_ok_iff (h : fs.root.LinkFree) :
    fs.follow links trail (a ++ b) = .ok place ↔
      ∃ mid, fs.follow links trail a = .ok mid ∧ fs.follow links mid b = .ok place := by
  induction a generalizing trail with
  | nil =>
    have hstay : fs.follow links trail [] = .ok trail := by rw [follow]
    rw [List.nil_append, hstay]
    simp only [Except.ok.injEq, exists_eq_left']
  | cons segment a ih =>
    rw [List.cons_append, follow_cons_eq_ok_iff h, ih]
    simp only [follow_cons_eq_ok_iff h, and_assoc, exists_and_left]

/-- Segments lead where they say. -/
theorem follow_eq (h : fs.root.LinkFree) (hplace : fs.follow links trail segments = .ok place) :
    place = Trail.after trail (segments.filterMap Component.ofSegment?) := by
  induction segments generalizing trail with
  | nil =>
    rw [follow] at hplace
    exact (Except.ok.inj hplace).symm
  | cons segment segments ih =>
    obtain ⟨-, hrest⟩ := (follow_cons_eq_ok_iff h).1 hplace
    have hfirst : (segment :: segments).filterMap Component.ofSegment? =
        (Component.ofSegment? segment).toList ++ segments.filterMap Component.ofSegment? := by
      rw [List.filterMap_eq_flatMap_toList, List.filterMap_eq_flatMap_toList, List.flatMap_cons]
    rw [hfirst, Trail.after_append]
    exact ih hrest

theorem text_ne_of_resolve (hplace : fs.resolve p = .ok place) : p.text ≠ "" := by
  intro hempty
  rw [resolve, if_pos hempty] at hplace
  contradiction

theorem resolve_eq_follow (hp : p.text ≠ "") :
    fs.resolve p = fs.follow maxLinks (startOf fs.cwd p) p.pieces := by
  rw [resolve, if_neg hp]

theorem locate_eq_ok_iff : fs.locate p = .ok (place, e) ↔
    fs.resolve p = .ok place ∧ fs.entryAt? place = some e := by
  unfold locate
  cases hresolve : fs.resolve p with
  | error err => simp [bind, Except.bind]
  | ok trail =>
    cases he : fs.entryAt? trail with
    | none =>
      simp only [bind, Except.bind, he]
      refine iff_of_false nofun ?_
      rintro ⟨hplace, hother⟩
      rw [← Except.ok.inj hplace, he] at hother
      contradiction
    | some c =>
      simp only [bind, Except.bind, he, Except.ok.injEq, Prod.mk.injEq]
      constructor
      · rintro ⟨rfl, rfl⟩
        exact ⟨rfl, he⟩
      · rintro ⟨rfl, hother⟩
        exact ⟨rfl, Option.some.inj (he.symm.trans hother)⟩

theorem exists_locate_of_isFile (h : fs.isFile p = true) :
    ∃ trail bytes, fs.locate p = .ok (trail, .file bytes) := by
  unfold isFile at h
  split at h
  · next trail bytes hlocate => exact ⟨trail, bytes, hlocate⟩
  · contradiction

theorem exists_locate_of_dirTrail? (h : fs.dirTrail? p = some trail) :
    ∃ e, fs.locate p = .ok (trail, e) ∧ e.isDir = true := by
  unfold dirTrail? at h
  split at h
  · next place e hlocate =>
    split at h
    · next hdir =>
      obtain rfl := Option.some.inj h
      exact ⟨e, hlocate, hdir⟩
    · contradiction
  · contradiction

/-- **A path leads where its components say.** -/
theorem resolve_eq (h : fs.root.LinkFree) (hplace : fs.resolve p = .ok place) :
    place = p.placeFrom fs.cwd := by
  rw [resolve_eq_follow (text_ne_of_resolve hplace)] at hplace
  rw [FilePath.placeFrom_eq]
  exact follow_eq h hplace

/-- **Looking up a path below another one**: it is looked up from where that one leads. -/
theorem resolve_join (h : fs.root.LinkFree) (hstart : fs.resolve p = .ok start)
    (hq : q.isAbsolute = false) (hplace : fs.follow maxLinks start q.pieces = .ok place) :
    fs.resolve (p.join q) = .ok place := by
  have hp := text_ne_of_resolve hstart
  obtain ⟨hlead, front, hpieces, hfront⟩ := FilePath.exists_pieces_join hp hq
  have hjoin := FilePath.text_join_ne hp hq
  have hsame : startOf fs.cwd (p.join q) = startOf fs.cwd p := by
    rw [← FilePath.after_lead, ← FilePath.after_lead, hlead]
  -- a slash at the end of a path asks for a directory, and leads nowhere else
  have hmid : fs.follow maxLinks (startOf fs.cwd p) front = .ok start := by
    rw [resolve_eq_follow hp] at hstart
    rcases hfront with hfront | hfront
    · rwa [hfront] at hstart
    · rw [hfront] at hstart
      obtain ⟨mid, hmid, hslash⟩ := (follow_append_eq_ok_iff h).1 hstart
      obtain rfl : start = mid := follow_eq h hslash
      exact hmid
  rw [resolve_eq_follow hjoin, hsame, hpieces, follow_append_eq_ok_iff h]
  exact ⟨start, hmid, hplace⟩

end FileSystem

end ForbiddenCalls
