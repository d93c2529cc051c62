/-! The user behind a request. -/
namespace Portcullis

/-- A user as an authenticating gateway describes it. -/
structure User where
  accountName : String
  roles : List String := []
  csrfToken : Option String := none
  loggedIn : Bool := false
  deriving DecidableEq, Repr, Inhabited

namespace User

def anonymousName : String := "anonymous"

/-- The placeholder for a request without identity. -/
def anonymous : User :=
  { accountName := anonymousName }

def isAnonymous (u : User) : Bool :=
  !u.loggedIn && u.accountName == anonymousName

def isInRole (u : User) (role : String) : Bool :=
  u.roles.contains role

/-- Roles in the order of their code points, each once. -/
def sortRoles (roles : List String) : List String :=
  (roles.mergeSort (fun a b => !decide (b < a))).eraseDups

/-- A logged-in user with the given roles. -/
def withRoles (name : String) (roles : List String) : User :=
  { accountName := name, roles := sortRoles roles, loggedIn := true }

end User

end Portcullis
