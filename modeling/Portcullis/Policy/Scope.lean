import Portcullis.Regex.Pattern

/-! Where a rule applies: a pattern for whole paths, and exceptions from it. -/
namespace Portcullis.Policy

/-- A pattern that has to match the whole of a text. -/
structure WholePattern where
  source : String
  regex : Regex

namespace WholePattern

/-- The pattern in a group between the two ends of the text. -/
def anchored (source : String) : String :=
  "^(?:" ++ source ++ ")$"

def ofSource? (source : String) : Option WholePattern :=
  (Regex.ofText? (anchored source)).map (⟨source, ·⟩)

def isMatch (p : WholePattern) (s : String) : Bool :=
  p.regex.isMatchText s

end WholePattern

/-- A carve-out from the paths that a rule covers. -/
inductive Exemption where
  | literal (path : String)
  | pattern (p : WholePattern)

def Exemption.isMatch (e : Exemption) (path : String) : Bool :=
  match e with
  | .literal l => l == path
  | .pattern p => p.isMatch path

/-- How a path relates to a rule. -/
inductive Coverage where
  | outside
  | exempt (index : Nat)
  | covered
  deriving DecidableEq, Repr

/-- The paths that a rule covers. Of several exceptions for a path the first one counts. -/
structure Scope where
  pattern : WholePattern
  exceptions : List Exemption := []

namespace Scope

def firstException? (s : Scope) (path : String) : Option Nat :=
  s.exceptions.findIdx? (·.isMatch path)

def coverage (s : Scope) (path : String) : Coverage :=
  if !s.pattern.isMatch path then .outside
  else
    match s.firstException? path with
    | some i => .exempt i
    | none => .covered

def covers (s : Scope) (path : String) : Bool :=
  s.coverage path == .covered

end Scope

end Portcullis.Policy
