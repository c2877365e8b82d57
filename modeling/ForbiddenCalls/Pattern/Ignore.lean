import ForbiddenCalls.Pattern.Rests

/-!
# Ignore patterns

An ignore pattern is compared with the whole of a relative path, byte by byte.

* `?` stands for one byte and `*` for any number of them, slashes excepted.
* `[abc]` and `[a-z]` stand for one of the given characters, and `[!abc]` or
  `[^abc]` for any other byte.  A bracket that is never closed stands for itself,
  and so do all brackets after it.
* `{a,b}` stands for what one of the patterns between the commas stands for.
* `**` as a whole component stands for any number of components.  Elsewhere it is
  two stars.
* A backslash takes away the meaning of the character after it.

The pattern is read from left to right.  While braces are open, a `Draft` for the
innermost pair of them lies on top of the drafts for the pairs around it, and the
lowest draft is the pattern itself.
-/

namespace ForbiddenCalls.Pattern

/-- A part of an ignore pattern. -/
inductive IgnoreToken where
  | literal (bytes : List UInt8)
  | anyByte
  | run
  | leadingComponents
  | trailingComponents
  | innerComponents
  | oneOf (negated : Bool) (ranges : List (UInt8 × UInt8))
  | choice (branches : List (List IgnoreToken))
  deriving Inhabited

namespace IgnoreToken

/-- The slash. -/
def slash : UInt8 := 47

/-- Whether a byte lies in one of the given ranges. -/
def inRanges (ranges : List (UInt8 × UInt8)) (b : UInt8) : Bool :=
  ranges.any fun r => decide (r.1 ≤ b) && decide (b ≤ r.2)

/-- Takes leading components, each with its slash. -/
def components : Step UInt8 := .either .nothing (.through (· == slash))

mutual

/-- Whether a part of a pattern has no content at all. -/
def isVacuous : IgnoreToken → Bool
  | choice branches => branchesVacuous branches
  | _ => false

/-- Whether no part of a list has content. -/
def partsVacuous : List IgnoreToken → Bool
  | [] => true
  | t :: ts => t.isVacuous && partsVacuous ts

/-- Whether no branch has content. -/
def branchesVacuous : List (List IgnoreToken) → Bool
  | [] => true
  | b :: bs => partsVacuous b && branchesVacuous bs

end

mutual

/-- What a part of a pattern may leave of a path.  Of a choice only the branches
with content count, and a choice without such branches takes nothing. -/
def step : IgnoreToken → Step UInt8
  | literal bytes => .exactly bytes
  | anyByte => .one (· != slash)
  | run => .run (· != slash)
  | leadingComponents => .either components (.exactly [slash])
  | trailingComponents => .andThen (.exactly [slash]) .anything
  | innerComponents => .andThen (.exactly [slash]) components
  | oneOf negated ranges => .one fun b => inRanges ranges b != negated
  | choice branches =>
    if branchesVacuous branches then .nothing else stepBranches branches

/-- What a list of parts may leave, after a step in front of them. -/
def stepParts : Step UInt8 → List IgnoreToken → Step UInt8
  | front, [] => front
  | front, t :: ts => stepParts (front.andThen t.step) ts

/-- What one of several branches may leave. -/
def stepBranches : List (List IgnoreToken) → Step UInt8
  | [] => fun _ => []
  | b :: bs =>
    if partsVacuous b then stepBranches bs else .either (stepParts .nothing b) (stepBranches bs)

end

/-- The bytes of a character. -/
def bytesOf (c : Char) : List UInt8 := (String.ofList [c]).toUTF8.toList

/-- The ranges of bytes that a range of characters gives: from the last byte of
the first character to the first byte of the last one, and all their other
bytes. -/
def byteRanges (a b : Char) : List (UInt8 × UInt8) :=
  let one (x : UInt8) := (x, x)
  match (bytesOf a).reverse, bytesOf b with
  | x :: before, y :: after =>
    if a = b then (bytesOf a).map one
    else before.reverse.map one ++ (x, y) :: after.map one
  | _, _ => []

end IgnoreToken

/-- What is known of a pair of braces that is still open: its finished branches,
and the parts of the present branch, the last one first. -/
structure Draft where
  finished : List (List IgnoreToken) := []
  current : List IgnoreToken := []

/-- What has been read of a pattern. -/
structure IgnoreReading where
  top : Draft := {}
  below : List Draft := []
  bracketsOff : Bool := false

namespace IgnoreReading

/-- Whether braces are open. -/
def nested (s : IgnoreReading) : Bool := !s.below.isEmpty

/-- Adds a part. -/
def push (s : IgnoreReading) (t : IgnoreToken) : IgnoreReading :=
  { s with top := { s.top with current := t :: s.top.current } }

/-- Puts a part in the place of the slash before it.  Components that were read
before swallow the new ones. -/
def replaceLast (s : IgnoreReading) (t : IgnoreToken) : IgnoreReading :=
  let current :=
    match s.top.current with
    | .leadingComponents :: _ => s.top.current
    | .trailingComponents :: _ => s.top.current
    | _ :: ts => t :: ts
    | [] => [t]
  { s with top := { s.top with current } }

/-- Opens a pair of braces. -/
def openBraces (s : IgnoreReading) : IgnoreReading :=
  { s with top := {}, below := s.top :: s.below }

/-- Ends a branch. -/
def endBranch (s : IgnoreReading) : IgnoreReading :=
  { s with top := { finished := s.top.finished ++ [s.top.current.reverse] } }

/-- Closes a pair of braces, if one is open. -/
def closeBraces? (s : IgnoreReading) : Option IgnoreReading :=
  match s.below with
  | [] => none
  | outer :: below =>
    some (push { s with top := outer, below }
      (.choice (s.top.finished ++ [s.top.current.reverse])))

/-! ## Brackets -/

/-- What comes of reading brackets. -/
inductive Brackets where
  | closed (ranges : List (Char × Char)) (rest : List Char)
  | unclosed
  | reversed

/-- Reads what stands between brackets.  The ranges so far are given with the last
one first. -/
def readRanges (first inRange : Bool) (ranges : List (Char × Char)) : List Char → Brackets
  | [] => .unclosed
  | c :: rest =>
    if c = ']' ∧ first = false then
      .closed (if inRange then ('-', '-') :: ranges else ranges) rest
    else if c = '-' ∧ first = false ∧ inRange = false then readRanges false true ranges rest
    else
      match inRange, ranges with
      | true, (a, _) :: more =>
        if c < a then .reversed else readRanges false false ((a, c) :: more) rest
      | _, _ => readRanges false false ((c, c) :: ranges) rest

theorem length_lt_of_readRanges {first inRange : Bool} {ranges found : List (Char × Char)}
    {cs rest : List Char} (h : readRanges first inRange ranges cs = .closed found rest) :
    rest.length < cs.length := by
  fun_induction readRanges first inRange ranges cs with
  | case1 => cases h
  | case2 =>
    cases h
    simp
  | case3 _ _ _ _ _ _ _ ih => exact Nat.lt_succ_of_lt (ih h)
  | case4 => cases h
  | case5 _ _ _ _ _ _ _ _ _ ih => exact Nat.lt_succ_of_lt (ih h)
  | case6 _ _ _ _ _ _ _ _ ih => exact Nat.lt_succ_of_lt (ih h)

/-- Reads what stands after an opening bracket. -/
def readBrackets (s : IgnoreReading) (cs : List Char) : Option (IgnoreReading × List Char) :=
  let inner :=
    match cs with
    | '!' :: rest => (true, rest)
    | '^' :: rest => (true, rest)
    | _ => (false, cs)
  match readRanges true false [] inner.2 with
  | .closed ranges rest =>
    some (s.push (.oneOf inner.1 (ranges.flatMap fun r => IgnoreToken.byteRanges r.1 r.2)), rest)
  | .unclosed => some ({ s with bracketsOff := true }.push (.literal (IgnoreToken.bytesOf '[')), cs)
  | .reversed => none

theorem length_le_of_readBrackets {s s' : IgnoreReading} {cs rest : List Char}
    (h : s.readBrackets cs = some (s', rest)) : rest.length ≤ cs.length := by
  unfold readBrackets at h
  simp only at h
  split at h
  · next found hr =>
    cases h
    have := length_lt_of_readRanges hr
    split at this <;> simp only [List.length_cons] at this ⊢ <;> omega
  · cases h; exact Nat.le_refl _
  · cases h

/-! ## Stars -/

/-- Reads what stands after two stars. -/
def readStars (s : IgnoreReading) (previous : Option Char) (cs : List Char) :
    IgnoreReading × List Char :=
  let twoStars := ((s.push .run).push .run, cs)
  if s.top.current.isEmpty then
    match cs with
    | [] => (s.push .leadingComponents, [])
    | c :: rest => if c = '/' then (s.push .leadingComponents, rest) else twoStars
  else if previous = some '/' ∨ s.nested ∧ (previous = some ',' ∨ previous = some '{') then
    match cs with
    | [] => (s.replaceLast .trailingComponents, [])
    | c :: rest =>
      if c = '/' then (s.replaceLast .innerComponents, rest)
      else if s.nested ∧ (c = ',' ∨ c = '}') then (s.replaceLast .trailingComponents, cs)
      else twoStars
  else twoStars

theorem length_le_of_readStars (s : IgnoreReading) (previous : Option Char) (cs : List Char) :
    (s.readStars previous cs).2.length ≤ cs.length := by
  unfold readStars
  simp only
  repeat' split
  all_goals simp

/-! ## Whole patterns -/

/-- Reads one part of a pattern, which begins with the character `c`. -/
def readPart (s : IgnoreReading) (previous : Option Char) (c : Char) (cs : List Char) :
    Option (IgnoreReading × List Char) :=
  if c = '?' then some (s.push .anyByte, cs)
  else if c = '*' then
    match cs with
    | '*' :: rest => some (s.readStars previous rest)
    | _ => some (s.push .run, cs)
  else if c = '[' ∧ s.bracketsOff = false then s.readBrackets cs
  else if c = '{' then some (s.openBraces, cs)
  else if c = '}' then s.closeBraces?.map fun s => (s, cs)
  else if c = ',' ∧ s.nested then some (s.endBranch, cs)
  else if c = '\\' then
    match cs with
    | [] => none
    | d :: rest => some (s.push (.literal (IgnoreToken.bytesOf d)), rest)
  else some (s.push (.literal (IgnoreToken.bytesOf c)), cs)

theorem length_le_of_readPart {s s' : IgnoreReading} {previous : Option Char} {c : Char}
    {cs rest : List Char} (h : s.readPart previous c cs = some (s', rest)) :
    rest.length ≤ cs.length := by
  unfold readPart at h
  split at h
  · cases h; exact Nat.le_refl _
  · split at h
    · split at h
      · next tail =>
        simp only [Option.some.injEq] at h
        have := length_le_of_readStars s previous tail
        simp only [h, List.length_cons] at this ⊢
        omega
      · cases h; exact Nat.le_refl _
    · split at h
      · exact length_le_of_readBrackets h
      · split at h
        · cases h; exact Nat.le_refl _
        · split at h
          · obtain ⟨_, _, hs⟩ := Option.map_eq_some_iff.1 h
            cases hs
            exact Nat.le_refl _
          · repeat' split at h
            all_goals simp_all

/-- Reads the rest of a pattern, given the character before it. -/
def read (s : IgnoreReading) (previous : Option Char) (cs : List Char) : Option IgnoreReading :=
  match cs with
  | [] => some s
  | c :: rest =>
    match _h : s.readPart previous c rest with
    | none => none
    | some (s, after) => read s ((c :: rest).take (rest.length + 1 - after.length)).getLast? after
  termination_by cs.length
  decreasing_by
    have := length_le_of_readPart _h
    simp only [List.length_cons]
    omega

end IgnoreReading

/-- A parsed ignore pattern. -/
abbrev IgnorePattern : Type := List IgnoreToken

namespace IgnorePattern

/-- Reads a pattern. -/
def parse? (cs : List Char) : Option IgnorePattern :=
  (IgnoreReading.read {} none cs).bind fun s =>
    if s.nested then none else some s.top.current.reverse

/-- Whether a pattern accepts a path.  Components alone accept everything. -/
def accepts (p : IgnorePattern) (path : String) : Bool :=
  match p with
  | [.leadingComponents] => true
  | _ => (IgnoreToken.stepParts .nothing p).accepts path.toUTF8.toList

end IgnorePattern

end ForbiddenCalls.Pattern
