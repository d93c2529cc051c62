import Portcullis.Http.Message
import Portcullis.Text.Blank

/-! Users by the header fields that a gateway sets. -/
namespace Portcullis.Boundary
open Http

/-- The fields that carry identity, and whether they are trusted. -/
structure IdentityHeaders where
  enabled : Bool := false
  user : String := "x-authenticated-user"
  roles : String := "x-authenticated-roles"
  deriving DecidableEq, Repr

/-- The first value under a name, trimmed, if it is text and not blank. -/
def trimmed? (headers : Headers) (name : String) : Option (List Char) :=
  (((HeaderName.parse? name).bind headers.get?).bind HeaderValue.chars?).bind fun cs =>
    let cs := Text.trim cs
    if cs.isEmpty then none else some cs

/-- The parts between commas that are not blank. -/
def roleNames (cs : List Char) : List String :=
  (((cs.splitOn ',').map Text.trim).filter (!·.isEmpty)).map String.ofList

/-- The user that the fields describe. Roles without a user count for nothing. -/
def IdentityHeaders.identify (i : IdentityHeaders) (headers : Headers) : User :=
  match trimmed? headers i.user with
  | some name => .withRoles (String.ofList name) (((trimmed? headers i.roles).map roleNames).getD [])
  | none => .anonymous

end Portcullis.Boundary
