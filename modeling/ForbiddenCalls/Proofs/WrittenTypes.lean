import ForbiddenCalls.Proofs.DottedNames
import ForbiddenCalls.Proofs.LayoutFacts
import Mathlib.Data.List.DropRight

/-!
# Written types without decoration

A written type is a dotted name with decorations: type arguments behind any of its segments,
and behind the whole brackets and question marks in any order.  It is normalised by cutting it
at its first argument list, then at the brackets at its end, and then at the question marks in
front of these.  This takes away all the decorations of `Map.Entry<K, V>[]` and of `Log?[]`.
But `Outer<String>.Inner` loses its second segment, and the brackets of `Log[]?` stay, since
they are not at the end when they are looked for.

* `normalizeType_of_trimmed`, `exists_trimmed`: normalising by an equation, for every text.
* `WrittenType.normalizeType_of_arguments`, `WrittenType.normalizeType_of_no_arguments`: what
  is left of a written type.
* `WrittenType.normalizeType_eq_name_iff`: the written types that lose all their decorations,
  and nothing else.
* `normalizeType_answers`: these, and what is true of the result for every text.
* `normalizeType_decorated`: two types that are not normalised to their names.
-/

namespace ForbiddenCalls

namespace Text

/-! ## Dropping a repeated text -/

section DropRepeated

variable {suffix cs : List Char}

theorem dropRepeated_of_not_starts (h : ¬ suffix <+: cs) : dropRepeated suffix cs = cs := by
  rw [dropRepeated, dif_neg]
  rintro ⟨hstarts, -⟩
  exact h (List.isPrefixOf_iff_prefix.1 hstarts)

theorem dropRepeated_append (hne : suffix ≠ []) (n : Nat) (cs : List Char) :
    dropRepeated suffix ((List.replicate n suffix).flatten ++ cs) = dropRepeated suffix cs := by
  induction n with
  | zero => rfl
  | succ n ih =>
    have hstarts : suffix <+: suffix ++ ((List.replicate n suffix).flatten ++ cs) :=
      List.prefix_append _ _
    rw [List.replicate_succ, List.flatten_cons, List.append_assoc, dropRepeated,
      dif_pos ⟨List.isPrefixOf_iff_prefix.2 hstarts, hne⟩, List.drop_left, ih]

/-- What is dropped is a repetition, and what is left does not start with another one. -/
theorem exists_dropRepeated (hne : suffix ≠ []) (cs : List Char) :
    ∃ n, cs = (List.replicate n suffix).flatten ++ dropRepeated suffix cs ∧
      ¬ suffix <+: dropRepeated suffix cs := by
  induction cs using dropRepeated.induct suffix with
  | case1 cs h ih =>
    obtain ⟨n, hcs, hrest⟩ := ih
    obtain ⟨rest, rfl⟩ := List.isPrefixOf_iff_prefix.1 h.1
    rw [List.drop_left] at hcs hrest
    have hdrop : dropRepeated suffix (suffix ++ rest) = dropRepeated suffix rest := by
      simpa using dropRepeated_append hne 1 rest
    rw [hdrop]
    refine ⟨n + 1, ?_, hrest⟩
    rw [List.replicate_succ, List.flatten_cons, List.append_assoc, ← hcs]
  | case2 cs h =>
    have hstarts : ¬ suffix <+: cs := fun hstarts =>
      h ⟨List.isPrefixOf_iff_prefix.2 hstarts, hne⟩
    rw [dropRepeated_of_not_starts hstarts]
    exact ⟨0, rfl, hstarts⟩

end DropRepeated

/-! ## Characters of identifiers -/

/-- The blanks, one by one. -/
def blanks : List Char :=
  ([9, 10, 11, 12, 13, 32, 0x85, 0xA0, 0x1680, 0x2000, 0x2001, 0x2002, 0x2003, 0x2004, 0x2005,
    0x2006, 0x2007, 0x2008, 0x2009, 0x200A, 0x2028, 0x2029, 0x202F, 0x205F, 0x3000] : List Nat).map
    Char.ofNat

theorem mem_blanks {c : Char} (h : isBlank c = true) : c ∈ blanks := by
  rw [← Char.ofNat_toNat c]
  refine List.mem_map_of_mem ?_
  simp only [isBlank, Bool.or_eq_true, Bool.and_eq_true, decide_eq_true_eq, beq_iff_eq] at h
  simp only [List.mem_cons, List.not_mem_nil, or_false]
  omega

/-- No blank is part of an identifier. -/
theorem isBlank_of_isIdentifierPart {c : Char} (h : isIdentifierPart c = true) :
    isBlank c = false := by
  have hblanks : (blanks.all fun b => !isIdentifierPart b) = true := by decide +kernel
  by_contra hblank
  have hpart := List.all_eq_true.1 hblanks c (mem_blanks (Bool.not_eq_false _ ▸ hblank))
  rw [h] at hpart
  exact Bool.false_ne_true hpart

/-! ## Balanced brackets -/

/-- A text in which every angle bracket has its partner.  The tip of an arrow is no bracket. -/
inductive IsBalanced : List Char → Prop where
  | nil : IsBalanced []
  | char {c : Char} {cs : List Char} : c ≠ '<' → c ≠ '>' → IsBalanced cs → IsBalanced (c :: cs)
  | arrow {cs : List Char} : IsBalanced cs → IsBalanced ('-' :: '>' :: cs)
  | nested {inner cs : List Char} : IsBalanced inner → IsBalanced cs →
      IsBalanced ('<' :: inner ++ '>' :: cs)

/-- A text is spelled with some tokens: they follow one another in it with nothing but blanks
between them and at the ends. -/
inductive IsSpelled : List (List Char) → List Char → Prop where
  | nil {blanks : List Char} : (∀ c ∈ blanks, isBlank c = true) → IsSpelled [] blanks
  | cons {blanks token text : List Char} {tokens : List (List Char)} :
      (∀ c ∈ blanks, isBlank c = true) → IsSpelled tokens text →
      IsSpelled (token :: tokens) (blanks ++ token ++ text)

theorem compact_of_blanks {cs : List Char} (h : ∀ c ∈ cs, isBlank c = true) : compact cs = [] := by
  refine List.filter_eq_nil_iff.2 fun c hc => ?_
  rw [h c hc]
  exact Bool.false_ne_true

theorem compact_of_no_blanks {cs : List Char} (h : ∀ c ∈ cs, isBlank c = false) :
    compact cs = cs := by
  refine List.filter_eq_self.2 fun c hc => ?_
  rw [h c hc]
  rfl

/-- Without its blanks a text is that of its tokens. -/
theorem IsSpelled.compact_eq {tokens : List (List Char)} {text : List Char}
    (h : IsSpelled tokens text) : compact text = compact tokens.flatten := by
  induction h with
  | nil hblanks => exact compact_of_blanks hblanks
  | cons hblanks _ ih =>
    rw [List.flatten_cons, compact_append, compact_append, compact_append, ih,
      compact_of_blanks hblanks, List.nil_append]

/-- A text ends with what a last part of it ends with. -/
theorem getLast?_of_suffix {a cs : List Char} {c : Char} (h : a ++ [c] <:+ cs) :
    cs.getLast? = some c := by
  obtain ⟨front, rfl⟩ := h
  rw [← List.append_assoc, List.getLast?_concat]

end Text

/-! ## Normalising by an equation -/

/-- A text without its blanks, up to the first opening angle bracket. -/
def typeHead (text : String) : List Char :=
  Text.compact (text.toList.takeWhile (· != '<'))

/-- A text is trimmed to a part in front: behind this stand some question marks and then some
pairs of brackets, as many as there are. -/
structure Trimmed (text rest : List Char) (marks brackets : Nat) : Prop where
  eq : text = rest ++ List.replicate marks '?' ++ (List.replicate brackets ['[', ']']).flatten
  no_brackets : ¬ ['[', ']'] <:+ rest ++ List.replicate marks '?'
  no_mark : ¬ ['?'] <:+ rest

section Trimmed

variable {text : String} {rest : List Char} {marks brackets : Nat}

theorem normalizeType_of_trimmed (h : Trimmed (typeHead text) rest marks brackets) :
    normalizeType text = String.ofList rest := by
  have hreverse : (typeHead text).reverse =
      (List.replicate brackets [']', '[']).flatten ++
        ((List.replicate marks ['?']).flatten ++ rest.reverse) := by
    rw [h.eq, List.flatten_replicate_singleton]
    simp [List.reverse_flatten]
  have hbrackets : ¬ [']', '['] <+: (List.replicate marks ['?']).flatten ++ rest.reverse := by
    rw [← List.reverse_suffix, List.flatten_replicate_singleton]
    simpa using h.no_brackets
  have hmark : ¬ ['?'] <+: rest.reverse := by
    rw [← List.reverse_suffix, List.reverse_reverse]
    exact h.no_mark
  have hnormal : normalizeType text = String.ofList (Text.dropRepeated ['?']
      (Text.dropRepeated [']', '['] (typeHead text).reverse)).reverse := rfl
  rw [hnormal, hreverse, Text.dropRepeated_append (by decide),
    Text.dropRepeated_of_not_starts hbrackets, Text.dropRepeated_append (by decide),
    Text.dropRepeated_of_not_starts hmark, List.reverse_reverse]

/-- **Every text is trimmed by normalising it.** -/
theorem exists_trimmed (text : String) :
    ∃ marks brackets, Trimmed (typeHead text) (normalizeType text).toList marks brackets := by
  obtain ⟨brackets, hbrackets, hfirst⟩ :=
    Text.exists_dropRepeated (by decide : [']', '['] ≠ []) (typeHead text).reverse
  obtain ⟨marks, hmarks, hsecond⟩ := Text.exists_dropRepeated (by decide : ['?'] ≠ [])
    (Text.dropRepeated [']', '['] (typeHead text).reverse)
  have hnormal : (normalizeType text).toList = (Text.dropRepeated ['?']
      (Text.dropRepeated [']', '['] (typeHead text).reverse)).reverse := String.toList_ofList
  rw [← List.reverse_reverse (Text.dropRepeated ['?'] _), ← hnormal,
    List.flatten_replicate_singleton] at hmarks
  rw [hmarks] at hbrackets hfirst
  refine ⟨marks, brackets, ?_, ?_, ?_⟩
  · rw [← List.reverse_reverse (typeHead text), hbrackets]
    simp [List.reverse_flatten]
  · rw [← List.reverse_prefix]
    simpa using hfirst
  · rw [← List.reverse_prefix, hnormal, List.reverse_reverse]
    exact hsecond

/-! ## What is true of every result -/

theorem mem_typeHead {c : Char} (h : c ∈ typeHead text) : Text.isBlank c = false ∧ c ≠ '<' := by
  obtain ⟨hmem, hblank⟩ := List.mem_filter.1 h
  exact ⟨by simpa using hblank, by simpa using List.mem_takeWhile_imp hmem⟩

theorem mem_typeHead_of_mem_normalizeType {c : Char} (h : c ∈ (normalizeType text).toList) :
    c ∈ typeHead text := by
  obtain ⟨marks, brackets, htrimmed⟩ := exists_trimmed text
  rw [htrimmed.eq]
  exact List.mem_append_left _ (List.mem_append_left _ h)

/-- A normalised type is its own head. -/
theorem typeHead_normalizeType (text : String) :
    typeHead (normalizeType text) = (normalizeType text).toList := by
  have hmem : ∀ c ∈ (normalizeType text).toList, Text.isBlank c = false ∧ c ≠ '<' :=
    fun c hc => mem_typeHead (mem_typeHead_of_mem_normalizeType hc)
  have hwhole : (normalizeType text).toList.takeWhile (· != '<') = (normalizeType text).toList :=
    List.takeWhile_eq_self_iff.2 fun c hc => by simpa using (hmem c hc).2
  rw [typeHead, hwhole]
  exact Text.compact_of_no_blanks fun c hc => (hmem c hc).1

/-- **The results that end with brackets**: those of texts with a question mark behind the
brackets, in front of the arguments. -/
theorem suffix_brackets_normalizeType_iff :
    ['[', ']'] <:+ (normalizeType text).toList ↔
      ∃ front marks brackets, typeHead text = front ++ ['[', ']'] ++
        List.replicate (marks + 1) '?' ++ (List.replicate brackets ['[', ']']).flatten := by
  constructor
  · intro hsuffix
    obtain ⟨marks, brackets, htrimmed⟩ := exists_trimmed text
    obtain ⟨front, hfront⟩ := hsuffix
    match marks with
    | 0 =>
      have hends : ['[', ']'] <:+ (normalizeType text).toList ++ List.replicate 0 '?' :=
        ⟨front, by rw [hfront, List.replicate_zero, List.append_nil]⟩
      exact absurd hends htrimmed.no_brackets
    | marks + 1 => exact ⟨front, marks, brackets, by rw [hfront, ← htrimmed.eq]⟩
  · rintro ⟨front, marks, brackets, hhead⟩
    have htrimmed : Trimmed (typeHead text) (front ++ ['[', ']']) (marks + 1) brackets := by
      refine ⟨hhead, fun hsuffix => ?_, fun hsuffix => ?_⟩
      · have hlast := Text.getLast?_of_suffix (a := ['[']) hsuffix
        rw [List.replicate_succ', ← List.append_assoc, List.getLast?_concat] at hlast
        exact absurd hlast (by decide)
      · have hlast := Text.getLast?_of_suffix (a := []) hsuffix
        have hconcat : front ++ ['[', ']'] = (front ++ ['[']) ++ [']'] := by simp
        rw [hconcat, List.getLast?_concat] at hlast
        exact absurd hlast (by decide)
    rw [normalizeType_of_trimmed htrimmed, String.toList_ofList]
    exact List.suffix_append front ['[', ']']

/-- **Normalising once more** changes exactly the results that end with brackets. -/
theorem normalizeType_normalizeType_iff :
    normalizeType (normalizeType text) = normalizeType text ↔
      ¬ ['[', ']'] <:+ (normalizeType text).toList := by
  constructor
  · intro hsame
    obtain ⟨marks, brackets, htrimmed⟩ := exists_trimmed (normalizeType text)
    rw [typeHead_normalizeType, hsame] at htrimmed
    -- nothing is left to trim, so there are no question marks
    have hlength := congrArg List.length htrimmed.eq
    rw [List.length_append, List.length_append, List.length_replicate] at hlength
    have hmarks : marks = 0 := by omega
    have hends := htrimmed.no_brackets
    rwa [hmarks, List.replicate_zero, List.append_nil] at hends
  · intro hends
    obtain ⟨marks, brackets, htrimmed⟩ := exists_trimmed text
    have hself : Trimmed (typeHead (normalizeType text)) (normalizeType text).toList 0 0 := by
      refine ⟨?_, ?_, htrimmed.no_mark⟩
      · rw [typeHead_normalizeType]
        simp
      · rwa [List.replicate_zero, List.append_nil]
    rw [normalizeType_of_trimmed hself, String.ofList_toList]

end Trimmed

/-! ## Written types -/

/-- A list of type arguments: what stands between two angle brackets. -/
structure TypeArguments where
  inner : List Char
  balanced : Text.IsBalanced inner

/-- The text of an argument list. -/
def TypeArguments.text (a : TypeArguments) : List Char := '<' :: a.inner ++ ['>']

/-- A segment of a written type: an identifier, perhaps with arguments. -/
structure TypeSegment where
  name : String
  arguments? : Option TypeArguments
  isIdentifier : Text.isIdentifier name = true

/-- What may stand behind a written type. -/
inductive TypeSuffix where
  | brackets
  | questionMark
  deriving DecidableEq

/-- A written type: segments joined by dots, and then suffixes. -/
structure WrittenType where
  first : TypeSegment
  later : List TypeSegment
  suffixes : List TypeSuffix

/-- The tokens of a segment. -/
def TypeSegment.tokens (s : TypeSegment) : List (List Char) :=
  s.name.toList :: (s.arguments?.map TypeArguments.text).toList

/-- The tokens of a suffix. -/
def TypeSuffix.tokens : TypeSuffix → List (List Char)
  | .brackets => [['['], [']']]
  | .questionMark => [['?']]

/-- The last character of a suffix. -/
def TypeSuffix.lastChar : TypeSuffix → Char
  | .brackets => ']'
  | .questionMark => '?'

theorem TypeSuffix.lastChar_inj {x y : TypeSuffix} (h : x.lastChar = y.lastChar) : x = y := by
  cases x <;> cases y
  · rfl
  · exact absurd h (by decide)
  · exact absurd h (by decide)
  · rfl

/-- The text of a segment without blanks around its arguments. -/
def TypeSegment.text (s : TypeSegment) : List Char := s.tokens.flatten

/-- The names of some segments, joined by dots. -/
def dotted (segments : List TypeSegment) : String :=
  ".".intercalate (segments.map TypeSegment.name)

/-- Suffixes without blanks. -/
def suffixText (suffixes : List TypeSuffix) : List Char :=
  (suffixes.flatMap TypeSuffix.tokens).flatten

/-- The suffixes that are not reached from the end: those in front of the last brackets and of
the question marks in front of these. -/
def keptSuffixes (suffixes : List TypeSuffix) : List TypeSuffix :=
  (suffixes.rdropWhile (· = .brackets)).rdropWhile (· = .questionMark)

namespace WrittenType

/-- All segments of a written type. -/
def segments (w : WrittenType) : List TypeSegment := w.first :: w.later

/-- The tokens of a written type. -/
def tokens (w : WrittenType) : List (List Char) :=
  [['.']].intercalate (w.segments.map TypeSegment.tokens) ++ w.suffixes.flatMap TypeSuffix.tokens

/-- A text of a written type, with any blanks between its tokens. -/
def IsWrittenAs (w : WrittenType) (text : String) : Prop :=
  Text.IsSpelled w.tokens text.toList

/-- The dotted name of a written type, without its decorations. -/
def name (w : WrittenType) : String := dotted w.segments

end WrittenType

/-! ## Joining lists -/

section Join

variable {α : Type} {sep a b : List α} {front rest : List (List α)}

theorem intercalate_cons (sep a : List α) (rest : List (List α)) :
    sep.intercalate (a :: rest) = a ++ rest.flatMap (sep ++ ·) := by
  induction rest generalizing a with
  | nil => simp
  | cons b rest ih => rw [List.intercalate_cons_cons, ih, List.flatMap_cons, List.append_assoc,
      List.append_assoc]

/-- What follows one of the lists follows the lists up to this one. -/
theorem intercalate_append_cons (sep a : List α) (front rest : List (List α)) :
    sep.intercalate (front ++ a :: rest) =
      sep.intercalate (front ++ [a]) ++ rest.flatMap (sep ++ ·) := by
  cases front with
  | nil => rw [List.nil_append, List.nil_append, intercalate_cons, List.intercalate_singleton]
  | cons b front =>
    simp only [List.cons_append, intercalate_cons, List.flatMap_append, List.flatMap_cons,
      List.flatMap_nil, List.append_nil, List.append_assoc]

/-- The end of the last list is the end of all. -/
theorem intercalate_concat_append (sep a b : List α) (front : List (List α)) :
    sep.intercalate (front ++ [a ++ b]) = sep.intercalate (front ++ [a]) ++ b := by
  cases front with
  | nil => rw [List.nil_append, List.nil_append, List.intercalate_singleton,
      List.intercalate_singleton]
  | cons c front =>
    simp only [List.cons_append, intercalate_cons, List.flatMap_append, List.flatMap_cons,
      List.flatMap_nil, List.append_nil, List.append_assoc]

theorem flatten_intercalate (sep : List α) (xss : List (List (List α))) :
    ([sep].intercalate xss).flatten = sep.intercalate (xss.map List.flatten) := by
  cases xss with
  | nil => rfl
  | cons xs xss =>
    rw [intercalate_cons, List.map_cons, intercalate_cons, List.flatten_append, List.flatMap_map]
    congr 1
    induction xss with
    | nil => rfl
    | cons ys xss ih => rw [List.flatMap_cons, List.flatMap_cons, List.flatten_append, ih]; rfl

end Join

/-! ## Names and suffixes -/

theorem toList_dotted (segments : List TypeSegment) :
    (dotted segments).toList = ['.'].intercalate (segments.map fun s => s.name.toList) := by
  rw [dotted, String.toList_intercalate, List.map_map]
  rfl

/-- A name is made of dots and of characters of identifiers. -/
theorem mem_dotted {segments : List TypeSegment} {c : Char} (h : c ∈ (dotted segments).toList) :
    c = '.' ∨ Text.isIdentifierPart c = true := by
  have hname : ∀ s : TypeSegment, c ∈ s.name.toList → Text.isIdentifierPart c = true :=
    fun s hc => Text.isIdentifierPart_of_mem s.isIdentifier hc
  rw [toList_dotted] at h
  cases segments with
  | nil => exact absurd h List.not_mem_nil
  | cons s segments =>
    rw [List.map_cons, intercalate_cons, List.mem_append, List.flatMap_map, List.mem_flatMap] at h
    rcases h with h | ⟨t, -, h⟩
    · exact .inr (hname s h)
    · rcases List.mem_append.1 h with h | h
      · exact .inl (List.mem_singleton.1 h)
      · exact .inr (hname t h)

theorem ne_of_mem_dotted {segments : List TypeSegment} {c d : Char}
    (h : c ∈ (dotted segments).toList) (hd : d ≠ '.' ∧ Text.isIdentifierPart d = false) : c ≠ d := by
  rintro rfl
  rcases mem_dotted h with hdot | hpart
  · exact hd.1 hdot
  · exact absurd (hd.2.symm.trans hpart) Bool.false_ne_true

theorem isBlank_of_mem_dotted {segments : List TypeSegment} {c : Char}
    (h : c ∈ (dotted segments).toList) : Text.isBlank c = false := by
  rcases mem_dotted h with rfl | hpart
  · decide
  · exact Text.isBlank_of_isIdentifierPart hpart

/-- More segments make a longer name. -/
theorem dotted_append_cons (front rest : List TypeSegment) (s : TypeSegment) :
    (dotted (front ++ s :: rest)).toList =
      (dotted (front ++ [s])).toList ++ rest.flatMap fun t => '.' :: t.name.toList := by
  rw [toList_dotted, toList_dotted, List.map_append, List.map_cons, intercalate_append_cons,
    List.map_append, List.flatMap_map]
  rfl

theorem suffixText_append (a b : List TypeSuffix) :
    suffixText (a ++ b) = suffixText a ++ suffixText b := by
  rw [suffixText, List.flatMap_append, List.flatten_append]
  rfl

theorem suffixText_marks (n : Nat) :
    suffixText (List.replicate n .questionMark) = List.replicate n '?' := by
  induction n with
  | zero => rfl
  | succ n ih => rw [List.replicate_succ, List.replicate_succ, ← ih]; rfl

theorem suffixText_brackets (n : Nat) :
    suffixText (List.replicate n .brackets) = (List.replicate n ['[', ']']).flatten := by
  induction n with
  | zero => rfl
  | succ n ih => rw [List.replicate_succ, List.replicate_succ, List.flatten_cons, ← ih]; rfl

theorem suffixText_eq_nil_iff {suffixes : List TypeSuffix} :
    suffixText suffixes = [] ↔ suffixes = [] := by
  cases suffixes with
  | nil => exact iff_of_true rfl rfl
  | cons x suffixes => cases x <;> exact iff_of_false nofun nofun

/-- A name with suffixes ends like a suffix only if this is the last one. -/
theorem getLast?_eq_of_lastChar {segments : List TypeSegment} {suffixes : List TypeSuffix}
    {x : TypeSuffix}
    (h : ((dotted segments).toList ++ suffixText suffixes).getLast? = some x.lastChar) :
    suffixes.getLast? = some x := by
  rcases suffixes.eq_nil_or_concat' with rfl | ⟨front, y, rfl⟩
  · have hnil : suffixText [] = [] := rfl
    rw [hnil, List.append_nil] at h
    have hmem := List.mem_of_getLast? h
    have hname : x.lastChar ≠ '.' ∧ Text.isIdentifierPart x.lastChar = false := by
      cases x <;> decide
    exact absurd rfl (ne_of_mem_dotted hmem hname)
  · have hend : (suffixText [y]).getLast? = some y.lastChar := by
      cases y <;> rfl
    rw [suffixText_append, ← List.append_assoc, List.getLast?_append, hend, Option.some_or,
      Option.some_inj] at h
    rw [List.getLast?_concat, TypeSuffix.lastChar_inj h]

theorem exists_rdropWhile (x : TypeSuffix) (suffixes : List TypeSuffix) :
    ∃ n, suffixes = suffixes.rdropWhile (· = x) ++ List.replicate n x ∧
      (suffixes.rdropWhile (· = x)).getLast? ≠ some x := by
  induction suffixes using List.reverseRecOn with
  | nil => exact ⟨0, rfl, nofun⟩
  | append_singleton suffixes y ih =>
    by_cases hy : y = x
    · obtain ⟨n, heq, hlast⟩ := ih
      rw [List.rdropWhile_concat_pos _ _ _ (by simpa using hy)]
      refine ⟨n + 1, ?_, hlast⟩
      rw [List.replicate_succ', ← List.append_assoc, ← heq, hy]
    · rw [List.rdropWhile_concat_neg _ _ _ (by simpa using hy)]
      refine ⟨0, (List.append_nil _).symm, ?_⟩
      rw [List.getLast?_concat]
      exact fun heq => hy (Option.some_inj.1 heq)

/-- The suffixes that are kept, and those that are not. -/
theorem exists_keptSuffixes (suffixes : List TypeSuffix) :
    ∃ marks brackets, suffixes = keptSuffixes suffixes ++ List.replicate marks .questionMark ++
        List.replicate brackets .brackets ∧
      (keptSuffixes suffixes ++ List.replicate marks TypeSuffix.questionMark).getLast? ≠
        some .brackets ∧
      (keptSuffixes suffixes).getLast? ≠ some .questionMark := by
  obtain ⟨brackets, hbrackets, hfirst⟩ := exists_rdropWhile .brackets suffixes
  obtain ⟨marks, hmarks, hsecond⟩ :=
    exists_rdropWhile .questionMark (suffixes.rdropWhile (· = TypeSuffix.brackets))
  refine ⟨marks, brackets, ?_, ?_, hsecond⟩
  · rw [keptSuffixes, ← hmarks, ← hbrackets]
  · rwa [keptSuffixes, ← hmarks]

theorem rdropWhile_append_replicate (x : TypeSuffix) (suffixes : List TypeSuffix) (n : Nat) :
    (suffixes ++ List.replicate n x).rdropWhile (· = x) = suffixes.rdropWhile (· = x) := by
  induction n with
  | zero => rw [List.replicate_zero, List.append_nil]
  | succ n ih =>
    rw [List.replicate_succ', ← List.append_assoc,
      List.rdropWhile_concat_pos (fun y => y = x) _ x (decide_eq_true rfl), ih]

/-- No suffix is kept exactly if all question marks are in front of all brackets. -/
theorem keptSuffixes_eq_nil_iff {suffixes : List TypeSuffix} :
    keptSuffixes suffixes = [] ↔ ∃ marks brackets, suffixes =
      List.replicate marks .questionMark ++ List.replicate brackets .brackets := by
  constructor
  · intro hnil
    obtain ⟨marks, brackets, hsplit, -, -⟩ := exists_keptSuffixes suffixes
    rw [hnil, List.nil_append] at hsplit
    exact ⟨marks, brackets, hsplit⟩
  · rintro ⟨marks, brackets, rfl⟩
    have hmarks : (List.replicate marks TypeSuffix.questionMark).rdropWhile (· = .brackets) =
        [] ++ List.replicate marks .questionMark := by
      rw [List.nil_append, List.rdropWhile_eq_self_iff]
      intro hne
      rw [List.getLast_replicate]
      exact of_decide_eq_false rfl
    rw [keptSuffixes, rdropWhile_append_replicate, hmarks, rdropWhile_append_replicate]
    rfl

/-- Suffixes are made of three signs. -/
theorem mem_suffixText {suffixes : List TypeSuffix} {c : Char} (h : c ∈ suffixText suffixes) :
    c ∈ ['[', ']', '?'] := by
  have hsigns : ∀ x : TypeSuffix, ∀ token ∈ x.tokens, ∀ d ∈ token, d ∈ ['[', ']', '?'] := by
    intro x
    cases x <;> simp [TypeSuffix.tokens]
  obtain ⟨token, htoken, hc⟩ := List.mem_flatten.1 h
  obtain ⟨x, -, hx⟩ := List.mem_flatMap.1 htoken
  exact hsigns x token hx c hc

/-- A name with suffixes is normalised by keeping the suffixes that are not reached. -/
theorem normalizeType_of_typeHead {text : String} {segments : List TypeSegment}
    {suffixes : List TypeSuffix}
    (h : typeHead text = (dotted segments).toList ++ suffixText suffixes) :
    normalizeType text =
      String.ofList ((dotted segments).toList ++ suffixText (keptSuffixes suffixes)) := by
  obtain ⟨marks, brackets, hsplit, hbrackets, hmark⟩ := exists_keptSuffixes suffixes
  have htext : suffixText suffixes = suffixText (keptSuffixes suffixes) ++
      List.replicate marks '?' ++ (List.replicate brackets ['[', ']']).flatten := by
    rw [← suffixText_marks, ← suffixText_brackets, ← suffixText_append, ← suffixText_append,
      ← hsplit]
  have htrimmed : Trimmed (typeHead text)
      ((dotted segments).toList ++ suffixText (keptSuffixes suffixes)) marks brackets := by
    refine ⟨?_, fun hsuffix => ?_, fun hsuffix => ?_⟩
    · rw [h, htext, ← List.append_assoc, ← List.append_assoc]
    · have hlast := Text.getLast?_of_suffix (a := ['[']) hsuffix
      rw [← suffixText_marks, List.append_assoc, ← suffixText_append] at hlast
      exact hbrackets (getLast?_eq_of_lastChar (x := .brackets) hlast)
    · have hlast := Text.getLast?_of_suffix (a := []) hsuffix
      exact hmark (getLast?_eq_of_lastChar (x := .questionMark) hlast)
  exact normalizeType_of_trimmed htrimmed

namespace TypeSegment

theorem text_of_none {s : TypeSegment} (h : s.arguments? = none) : s.text = s.name.toList := by
  rw [text, tokens, h]
  exact List.append_nil _

theorem text_of_some {s : TypeSegment} {a : TypeArguments} (h : s.arguments? = some a) :
    s.text = s.name.toList ++ a.text := by
  rw [text, tokens, h]
  show s.name.toList ++ (a.text ++ []) = _
  rw [List.append_nil]

end TypeSegment

namespace WrittenType

variable {w : WrittenType} {text : String} {front rest : List TypeSegment} {s : TypeSegment}

/-! ## What is left of a written type -/

theorem flatten_tokens (w : WrittenType) :
    w.tokens.flatten = ['.'].intercalate (w.segments.map TypeSegment.text) ++
      suffixText w.suffixes := by
  rw [tokens, List.flatten_append, flatten_intercalate, List.map_map]
  rfl

theorem typeHead_eq (h : w.IsWrittenAs text) :
    typeHead text = (Text.compact w.tokens.flatten).takeWhile (· != '<') := by
  rw [typeHead, Text.compact_takeWhile, h.compact_eq]

theorem map_text_eq (h : ∀ t ∈ front, t.arguments? = none) :
    front.map TypeSegment.text = front.map fun t => t.name.toList :=
  List.map_congr_left fun t ht => TypeSegment.text_of_none (h t ht)

/-- **Arguments end a type.**  Only the segments up to the first one with arguments are left,
and nothing of what follows them. -/
theorem normalizeType_of_arguments (h : w.IsWrittenAs text) (hsplit : w.segments = front ++ s :: rest)
    (hfront : ∀ t ∈ front, t.arguments? = none) (hs : s.arguments? ≠ none) :
    normalizeType text = dotted (front ++ [s]) := by
  obtain ⟨a, ha⟩ := Option.ne_none_iff_exists'.1 hs
  have htext : s.text = s.name.toList ++ '<' :: (a.inner ++ ['>']) := TypeSegment.text_of_some ha
  -- up to the bracket the text is the name
  obtain ⟨more, hmore⟩ : ∃ more,
      w.tokens.flatten = (dotted (front ++ [s])).toList ++ '<' :: more := by
    rw [flatten_tokens, hsplit, List.map_append, List.map_cons, intercalate_append_cons, htext,
      intercalate_concat_append, map_text_eq hfront, toList_dotted, List.map_append,
      List.map_singleton, List.append_assoc, List.append_assoc, List.cons_append]
    exact ⟨_, rfl⟩
  have hblank : ∀ c ∈ (dotted (front ++ [s])).toList, Text.isBlank c = false :=
    fun c hc => isBlank_of_mem_dotted hc
  have hangle : ∀ c ∈ (dotted (front ++ [s])).toList, (c != '<') = true := fun c hc => by
    simpa using ne_of_mem_dotted hc (by decide)
  have hhead : typeHead text = (dotted (front ++ [s])).toList ++ suffixText [] := by
    have hcompact : Text.compact ('<' :: more) = '<' :: Text.compact more :=
      List.filter_cons_of_pos (by decide)
    rw [typeHead_eq h, hmore, Text.compact_append, Text.compact_of_no_blanks hblank, hcompact,
      List.takeWhile_append_of_pos hangle, List.takeWhile_cons_of_neg (by decide)]
    rfl
  rw [normalizeType_of_typeHead hhead]
  have hkept : suffixText (keptSuffixes []) = [] := rfl
  rw [hkept, List.append_nil, String.ofList_toList]

/-- **Without arguments** the name is left, with the suffixes that are not reached from the
end. -/
theorem normalizeType_of_no_arguments (h : w.IsWrittenAs text)
    (hnone : ∀ t ∈ w.segments, t.arguments? = none) :
    normalizeType text = String.ofList (w.name.toList ++ suffixText (keptSuffixes w.suffixes)) := by
  refine normalizeType_of_typeHead ?_
  have hflatten : w.tokens.flatten = w.name.toList ++ suffixText w.suffixes := by
    rw [flatten_tokens, map_text_eq hnone, name, toList_dotted]
  have hblank : ∀ c ∈ w.name.toList ++ suffixText w.suffixes, Text.isBlank c = false := by
    intro c hc
    rcases List.mem_append.1 hc with hc | hc
    · exact isBlank_of_mem_dotted hc
    · have hsigns : (['[', ']', '?'].all fun d => !Text.isBlank d) = true := by decide
      simpa using List.all_eq_true.1 hsigns c (mem_suffixText hc)
  have hangle : ∀ c ∈ w.name.toList ++ suffixText w.suffixes, (c != '<') = true := by
    intro c hc
    rcases List.mem_append.1 hc with hc | hc
    · simpa using ne_of_mem_dotted hc (by decide)
    · have hsigns : (['[', ']', '?'].all fun d => d != '<') = true := by decide
      exact List.all_eq_true.1 hsigns c (mem_suffixText hc)
  rw [typeHead_eq h, hflatten, Text.compact_of_no_blanks hblank,
    List.takeWhile_eq_self_iff.2 hangle]
  rfl

/-- The decorations of a written type are in the order in which they are looked for: its last
segment is the only one with arguments, or no segment has any and the question marks are in
front of the brackets. -/
def IsOrderly (w : WrittenType) : Prop :=
  (∃ front last, w.segments = front ++ [last] ∧ (∀ t ∈ front, t.arguments? = none) ∧
    last.arguments? ≠ none) ∨
  (∀ t ∈ w.segments, t.arguments? = none) ∧ ∃ marks brackets, w.suffixes =
    List.replicate marks .questionMark ++ List.replicate brackets .brackets

/-- A written type has no arguments, or a first segment with some. -/
theorem exists_first_arguments (segments : List TypeSegment) :
    (∀ t ∈ segments, t.arguments? = none) ∨ ∃ front s rest, segments = front ++ s :: rest ∧
      (∀ t ∈ front, t.arguments? = none) ∧ s.arguments? ≠ none := by
  induction segments with
  | nil => exact .inl nofun
  | cons s segments ih =>
    by_cases hs : s.arguments? = none
    · rcases ih with hnone | ⟨front, t, rest, rfl, hfront, ht⟩
      · exact .inl (List.forall_mem_cons.2 ⟨hs, hnone⟩)
      · exact .inr ⟨s :: front, t, rest, rfl, List.forall_mem_cons.2 ⟨hs, hfront⟩, ht⟩
    · exact .inr ⟨[], s, segments, rfl, nofun, hs⟩

/-- **The types that are normalised to their names.** -/
theorem normalizeType_eq_name_iff (h : w.IsWrittenAs text) :
    normalizeType text = w.name ↔ w.IsOrderly := by
  rcases exists_first_arguments w.segments with hnone | ⟨front, s, rest, hsplit, hfront, hs⟩
  · have hkept : normalizeType text = w.name ↔ keptSuffixes w.suffixes = [] := by
      rw [normalizeType_of_no_arguments h hnone, ← String.toList_inj, String.toList_ofList,
        List.append_right_eq_self, suffixText_eq_nil_iff]
    rw [hkept, keptSuffixes_eq_nil_iff, IsOrderly]
    constructor
    · exact fun hsuffixes => .inr ⟨hnone, hsuffixes⟩
    · rintro (⟨front, last, hsegments, -, hlast⟩ | ⟨-, hsuffixes⟩)
      · exact absurd (hnone last (hsegments ▸ by simp)) hlast
      · exact hsuffixes
  · have hrest : normalizeType text = w.name ↔ rest = [] := by
      rw [normalizeType_of_arguments h hsplit hfront hs, name, hsplit, ← String.toList_inj,
        dotted_append_cons front rest, List.self_eq_append_right, List.flatMap_eq_nil_iff]
      constructor
      · intro hnil
        refine List.eq_nil_iff_forall_not_mem.2 fun t ht => ?_
        exact nomatch hnil t ht
      · rintro rfl
        exact nofun
    rw [hrest, IsOrderly]
    constructor
    · rintro rfl
      exact .inl ⟨front, s, hsplit, hfront, hs⟩
    · rintro (⟨front', last, hsegments, hfront', -⟩ | ⟨hnone, -⟩)
      · by_contra hne
        -- behind the segment there is another one, so it is not the last one
        have hmem : s ∈ front' := by
          have hdrop := congrArg List.dropLast (hsplit.symm.trans hsegments)
          rw [List.dropLast_concat, List.dropLast_append_of_ne_nil (by simp),
            List.dropLast_cons_of_ne_nil hne] at hdrop
          rw [← hdrop]
          simp
        exact hs (hfront' s hmem)
      · exact absurd (hnone s (hsplit ▸ by simp)) hs

end WrittenType

/-- **What normalising a type does.**  A written type, spelled with any blanks between its
tokens, is normalised to its dotted name exactly if its decorations are in order.  Of a type
with arguments the segments up to the first one that has some are left; of a type without
arguments the name is left with the suffixes that are not reached from the end.  Whatever the
text is, the result has no opening angle bracket and no blank, and no question mark at its end;
it ends with brackets exactly where a question mark stands behind them in the text, and it is
these results that a second pass changes. -/
theorem normalizeType_answers (text : String) :
    (∀ w : WrittenType, w.IsWrittenAs text →
      (normalizeType text = w.name ↔ w.IsOrderly) ∧
      (∀ front s rest, w.segments = front ++ s :: rest → (∀ t ∈ front, t.arguments? = none) →
        s.arguments? ≠ none → normalizeType text = dotted (front ++ [s])) ∧
      ((∀ t ∈ w.segments, t.arguments? = none) → normalizeType text =
        String.ofList (w.name.toList ++ suffixText (keptSuffixes w.suffixes)))) ∧
    (∀ c ∈ (normalizeType text).toList, c ≠ '<' ∧ Text.isBlank c = false) ∧
    ¬ ['?'] <:+ (normalizeType text).toList ∧
    (['[', ']'] <:+ (normalizeType text).toList ↔
      ∃ front marks brackets, typeHead text = front ++ ['[', ']'] ++
        List.replicate (marks + 1) '?' ++ (List.replicate brackets ['[', ']']).flatten) ∧
    (normalizeType (normalizeType text) = normalizeType text ↔
      ¬ ['[', ']'] <:+ (normalizeType text).toList) := by
  refine ⟨fun w h => ⟨WrittenType.normalizeType_eq_name_iff h, ?_, ?_⟩, ?_, ?_, ?_, ?_⟩
  · intro front s rest hsplit hfront hs
    exact WrittenType.normalizeType_of_arguments h hsplit hfront hs
  · exact WrittenType.normalizeType_of_no_arguments h
  · intro c hc
    obtain ⟨hblank, hangle⟩ := mem_typeHead (mem_typeHead_of_mem_normalizeType hc)
    exact ⟨hangle, hblank⟩
  · obtain ⟨marks, brackets, htrimmed⟩ := exists_trimmed text
    exact htrimmed.no_mark
  · exact suffix_brackets_normalizeType_iff
  · exact normalizeType_normalizeType_iff

/-! ## Three types -/

/-- Arguments with arguments of their own. -/
def nestedArguments : TypeArguments where
  inner := ['V', '<', 'K', '>']
  balanced := by
    have hinner : Text.IsBalanced ['K'] := .char (by decide) (by decide) .nil
    have hnested : Text.IsBalanced ('<' :: ['K'] ++ '>' :: []) := .nested hinner .nil
    exact .char (by decide) (by decide) hnested

/-- A nested type with arguments at its end, and suffixes. -/
def entryType : WrittenType where
  first := ⟨"Map", none, by decide⟩
  later := [⟨"Entry", some nestedArguments, by decide⟩]
  suffixes := [.brackets, .questionMark]

theorem isWrittenAs_entryType : entryType.IsWrittenAs "Map . Entry<V<K>> []?" := by
  have hblank : ∀ c ∈ [' '], Text.isBlank c = true := List.forall_mem_singleton.2 (by decide)
  have htext : "Map . Entry<V<K>> []?".toList = [] ++ "Map".toList ++ ([' '] ++ ['.'] ++
      ([' '] ++ "Entry".toList ++ ([] ++ "<V<K>>".toList ++ ([' '] ++ ['['] ++
        ([] ++ [']'] ++ ([] ++ ['?'] ++ [])))))) := by decide
  rw [WrittenType.IsWrittenAs, htext]
  exact .cons nofun (.cons hblank (.cons hblank (.cons nofun (.cons hblank
    (.cons nofun (.cons nofun (.nil nofun)))))))

/-- Everything behind the first argument list goes at once. -/
theorem normalizeType_answers_entryType :
    entryType.IsWrittenAs "Map . Entry<V<K>> []?" ∧ entryType.name = "Map.Entry" ∧
    normalizeType "Map . Entry<V<K>> []?" = "Map.Entry" := by
  have hname : entryType.name = "Map.Entry" := by decide
  have horderly : entryType.IsOrderly :=
    .inl ⟨[⟨"Map", none, by decide⟩], ⟨"Entry", some nestedArguments, by decide⟩, rfl, by simp, nofun⟩
  refine ⟨isWrittenAs_entryType, hname, ?_⟩
  rw [← hname]
  obtain ⟨hwritten, -⟩ := normalizeType_answers "Map . Entry<V<K>> []?"
  obtain ⟨hiff, -, -⟩ := hwritten entryType isWrittenAs_entryType
  exact hiff.2 horderly

/-- A nested type of a type with arguments. -/
def innerType : WrittenType where
  first := ⟨"Outer", some nestedArguments, by decide⟩
  later := [⟨"Inner", none, by decide⟩]
  suffixes := []

/-- A type with a question mark behind brackets. -/
def nullableArray : WrittenType where
  first := ⟨"Log", none, by decide⟩
  later := []
  suffixes := [.brackets, .questionMark]

theorem isWrittenAs_innerType : innerType.IsWrittenAs "Outer<V<K>>.Inner" := by
  have htext : "Outer<V<K>>.Inner".toList = [] ++ "Outer".toList ++ ([] ++ "<V<K>>".toList ++
      ([] ++ ['.'] ++ ([] ++ "Inner".toList ++ []))) := by decide
  rw [WrittenType.IsWrittenAs, htext]
  exact .cons nofun (.cons nofun (.cons nofun (.cons nofun (.nil nofun))))

theorem isWrittenAs_nullableArray : nullableArray.IsWrittenAs "Log[]?" := by
  have htext : "Log[]?".toList = [] ++ "Log".toList ++ ([] ++ ['['] ++ ([] ++ [']'] ++
      ([] ++ ['?'] ++ []))) := by decide
  rw [WrittenType.IsWrittenAs, htext]
  exact .cons nofun (.cons nofun (.cons nofun (.cons nofun (.nil nofun))))

/-- **Two types that are not normalised to their names.**  Behind arguments a segment is lost,
and behind a question mark brackets are kept, which a second pass would take away. -/
theorem normalizeType_decorated :
    innerType.IsWrittenAs "Outer<V<K>>.Inner" ∧ innerType.name = "Outer.Inner" ∧
    normalizeType "Outer<V<K>>.Inner" = "Outer" ∧
    nullableArray.IsWrittenAs "Log[]?" ∧ nullableArray.name = "Log" ∧
    normalizeType "Log[]?" = "Log[]" ∧ normalizeType (normalizeType "Log[]?") = "Log" := by
  have hsegments : innerType.segments =
      [] ++ ⟨"Outer", some nestedArguments, by decide⟩ :: innerType.later := rfl
  have hinner : normalizeType "Outer<V<K>>.Inner" = "Outer" :=
    WrittenType.normalizeType_of_arguments isWrittenAs_innerType hsegments nofun nofun
  have hkept : normalizeType "Log[]?" = "Log[]" := by
    have hnone : ∀ t ∈ nullableArray.segments, t.arguments? = none := by decide
    rw [WrittenType.normalizeType_of_no_arguments isWrittenAs_nullableArray hnone]
    decide
  have hagain : normalizeType "Log[]" = "Log" := by
    simp [normalizeType, Text.compact, Text.isBlank, Text.dropRepeated]
  refine ⟨isWrittenAs_innerType, by decide, hinner, isWrittenAs_nullableArray, by decide, hkept, ?_⟩
  rw [hkept, hagain]

end ForbiddenCalls
