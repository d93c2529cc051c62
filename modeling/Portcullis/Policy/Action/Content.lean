import Portcullis.Policy.Rule
import Portcullis.Policy.Action.Keywords
import Portcullis.Regex.Pattern

/-! Actions on the body of a response. -/
namespace Portcullis.Policy
open Http

/-- Whether the content type of a response satisfies a filter. Without a filter every response does,
with one a response without readable content type does not. -/
def acceptsContentType (filter : Option Regex) (headers : Headers) : Bool :=
  match filter with
  | none => true
  | some r => ((headers.get? .contentType).bind HeaderValue.text?).any r.isMatchText

structure ReplaceContent where
  pattern : Regex
  replacement : List Regex.Piece
  contentType : Option Regex

namespace ReplaceContent

/-- Replaces the body, if it is text and something in it matches, and drops its length. -/
def run (a : ReplaceContent) (c : Canvas) : Canvas × Outcome :=
  if !acceptsContentType a.contentType c.headers || (Utf8.decode? c.body).isNone then (c, .pass)
  else
    match a.pattern.replaceAll? a.replacement c.body with
    | none => (c, .pass)
    | some body =>
      match c.writeAll [.setBody body, .removeHeader .contentLength] with
      | .ok c => (c, .applied)
      | .error e => (c, .anomaly ("could not rewrite body: " ++ e.message))

end ReplaceContent

inductive ContentSignature where
  | pattern (r : Regex)
  | keywords (k : Keywords)

/-- Where the first match begins. -/
def ContentSignature.find? (s : ContentSignature) (body : Bytes) : Option Nat :=
  match s with
  | .pattern r => (r.find? body).map (·.start)
  | .keywords k => k.find? body

/-- Stops a response that holds what it must not. -/
structure DetectContent where
  signature : ContentSignature
  contentType : Option Regex
  status : Option Status

namespace DetectContent

def run (a : DetectContent) (c : Canvas) : Canvas × Outcome :=
  if !acceptsContentType a.contentType c.headers then (c, .pass)
  else
    match a.signature.find? c.body with
    | some i =>
      (c, .abort (a.status.map .block) (some ("outbound content matched at byte " ++ toString i)))
    | none => (c, .pass)

end DetectContent

end Portcullis.Policy
