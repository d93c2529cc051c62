import Portcullis.Regex.Parser
import Portcullis.Regex.Elaborate
import Portcullis.Regex.Size
import Portcullis.Regex.Replace

/-! Compiled patterns. -/
namespace Portcullis

/-- A pattern that was read and compiled. -/
structure Regex where
  subject : Regex.Subject
  expr : Regex.Expr
  program : Array Regex.Inst

namespace Regex

/-- Compiles a pattern. One that is not well formed, too deeply nested or too large is refused. -/
def compile? (subject : Subject) (pattern : String) : Option Regex := do
  let ast ← parse? pattern.toList
  let e ← ast.expr? subject
  if e.size ≤ maxSize then some ⟨subject, e, e.program⟩ else none

def ofText? (pattern : String) : Option Regex :=
  compile? .text pattern

def ofBytes? (pattern : String) : Option Regex :=
  compile? .bytes pattern

def find? (r : Regex) (bs : Bytes) : Option Match :=
  search r.program (r.subject == .text) (.ofBytes bs) 0

def isMatch (r : Regex) (bs : Bytes) : Bool :=
  (r.find? bs).isSome

def isMatchText (r : Regex) (s : String) : Bool :=
  r.isMatch (Bytes.ofText s)

/-- Replaces every match; `none` if there is none. -/
def replaceAll? (r : Regex) (replacement : List Piece) (bs : Bytes) : Option Bytes :=
  let h := Haystack.ofBytes bs
  match allMatches r.program (r.subject == .text) h with
  | [] => none
  | ms => some (substitute r.expr.names replacement h 0 ms)

end Regex

end Portcullis
