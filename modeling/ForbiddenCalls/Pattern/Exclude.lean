import ForbiddenCalls.Diagnostic
import ForbiddenCalls.Pattern.Rests
import ForbiddenCalls.Text.Pieces

/-!
# Exclude patterns

An exclude pattern is compared with the whole of a relative path, character by
character.

* `?` stands for one character and `*` for any number of them, slashes included.
* `[abc]` and `[a-z]` stand for one of the given characters, and `[!abc]` for any
  other one.  The first character in the brackets is one of them even if it is a
  closing bracket.
* `**` must be a whole component of the pattern.  It stands for any number of
  leading components, and at the end of a pattern for everything.
* Every other character stands for itself.

`parse` reads a pattern, and says where and why a text is not one.
-/

namespace ForbiddenCalls.Pattern

/-- Why a text is not an exclude pattern. -/
inductive ExcludeFault where
  | invalidRange
  | partialRecursion
  | tooManyStars
  deriving DecidableEq, Repr

/-- The wording of a fault. -/
def ExcludeFault.message : ExcludeFault → String
  | invalidRange => "invalid range pattern"
  | partialRecursion => "recursive wildcards must form a single path component"
  | tooManyStars => "wildcards are either regular `*` or recursive `**`"

/-- A fault with its position, counted in characters. -/
structure ExcludeError where
  position : Nat
  fault : ExcludeFault
  deriving DecidableEq, Repr

/-- What an exclude error says. -/
def ExcludeError.message (e : ExcludeError) : String :=
  "Pattern syntax error near position " ++ toString e.position ++ ": " ++ e.fault.message

/-- A part of an exclude pattern. -/
inductive ExcludeToken where
  | char (c : Char)
  | anyChar
  | anySequence
  | components
  | within (ranges : List (Char × Char))
  | outside (ranges : List (Char × Char))
  deriving DecidableEq, Repr

/-- Whether a character lies in one of the given ranges. -/
def inRanges (ranges : List (Char × Char)) (c : Char) : Bool :=
  ranges.any fun r => decide (r.1 ≤ c) && decide (c ≤ r.2)

namespace ExcludeToken

/-- What a part of a pattern may leave of a path. -/
def step : ExcludeToken → Step Char
  | char c => .one (· == c)
  | anyChar => .one fun _ => true
  | anySequence => .anything
  | components => .either .nothing (.either (.through (· == '/')) fun _ => [[]])
  | within ranges => .one (inRanges ranges)
  | outside ranges => .one fun c => !inRanges ranges c

/-- The ranges that the text between brackets gives. -/
def rangesOf : List Char → List (Char × Char)
  | [] => []
  | [a] => [(a, a)]
  | [a, b] => [(a, a), (b, b)]
  | a :: b :: c :: rest =>
    if b = '-' then (a, c) :: rangesOf rest else (a, a) :: rangesOf (b :: c :: rest)

/-- Reads what stands after an opening bracket, up to the closing one. -/
def readBrackets (cs : List Char) : Option (ExcludeToken × List Char) :=
  match cs with
  | '!' :: c :: rest => (Text.cutFirst ']' rest).map fun p => (outside (rangesOf (c :: p.1)), p.2)
  | ['!'] => none
  | c :: rest => (Text.cutFirst ']' rest).map fun p => (within (rangesOf (c :: p.1)), p.2)
  | [] => none

theorem length_lt_of_cutFirst {sep : Char} {cs a b : List Char}
    (h : Text.cutFirst sep cs = some (a, b)) : b.length < cs.length := by
  simp [Text.eq_of_cutFirst h]
  omega

theorem length_lt_of_readBrackets {cs rest : List Char} {t : ExcludeToken}
    (h : readBrackets cs = some (t, rest)) : rest.length < cs.length := by
  unfold readBrackets at h
  split at h
  · obtain ⟨p, hp, he⟩ := Option.map_eq_some_iff.1 h
    have := length_lt_of_cutFirst hp
    simp only [Prod.mk.injEq] at he
    simp only [← he.2, List.length_cons]
    omega
  · simp at h
  · obtain ⟨p, hp, he⟩ := Option.map_eq_some_iff.1 h
    have := length_lt_of_cutFirst hp
    simp only [Prod.mk.injEq] at he
    simp only [← he.2, List.length_cons]
    omega
  · simp at h

end ExcludeToken

/-- A parsed exclude pattern. -/
abbrev ExcludePattern : Type := List ExcludeToken

namespace ExcludePattern

/-- Reads the rest of a pattern, given its position and the character before it. -/
def read (position : Nat) (previous : Option Char) (cs : List Char) :
    Except ExcludeError ExcludePattern :=
  match cs with
  | [] => .ok []
  | '?' :: rest => return .anyChar :: (← read (position + 1) (some '?') rest)
  | '*' :: '*' :: '*' :: _ => .error ⟨position + 2, .tooManyStars⟩
  | '*' :: '*' :: rest =>
    if previous = none ∨ previous = some '/' then
      match rest with
      | [] => .ok [.components]
      | '/' :: rest => return .components :: (← read (position + 3) (some '/') rest)
      | _ => .error ⟨position + 2, .partialRecursion⟩
    else .error ⟨position - 1, .partialRecursion⟩
  | '*' :: rest => return .anySequence :: (← read (position + 1) (some '*') rest)
  | '[' :: rest =>
    match _h : ExcludeToken.readBrackets rest with
    | none => .error ⟨position, .invalidRange⟩
    | some (token, after) =>
      return token :: (← read (position + (rest.length + 1 - after.length)) (some ']') after)
  | c :: rest => return .char c :: (← read (position + 1) (some c) rest)
  termination_by cs.length
  decreasing_by
    all_goals simp_wf
    any_goals omega
    have := ExcludeToken.length_lt_of_readBrackets _h
    omega

/-- Reads a pattern. -/
def parse (text : String) : Except ExcludeError ExcludePattern := read 0 none text.toList

/-- What a pattern may leave of a path. -/
def step (p : ExcludePattern) : Step Char := p.foldl (fun s t => s.andThen t.step) .nothing

/-- Whether a pattern accepts a path. -/
def accepts (p : ExcludePattern) (path : String) : Bool := p.step.accepts path.toList

end ExcludePattern

end ForbiddenCalls.Pattern
