import Portcullis.Http.Method
import Portcullis.Http.Uri
import Portcullis.Http.Path
import Portcullis.User

/-! Requests and responses with buffered bodies. -/
namespace Portcullis.Http

/-- An inbound request, with the user that the boundary resolved for it. -/
structure Request where
  method : Method := .get
  uri : Uri
  headers : Headers := {}
  body : Bytes := []
  user : Option User := none
  deriving DecidableEq, Repr

/-- The path that every pattern and exception is matched against. -/
def Request.path (r : Request) : String :=
  normalizePath r.uri.path

structure Response where
  status : Status := .ok
  headers : Headers := {}
  body : Bytes := []
  deriving DecidableEq, Repr, Inhabited

def Response.bare (s : Status) : Response :=
  { status := s }

end Portcullis.Http
