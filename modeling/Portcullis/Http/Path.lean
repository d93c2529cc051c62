import Portcullis.Proofs.Http.Scan
import Portcullis.Url.Path

/-! The path of a request in the form that rules are matched against. -/
namespace Portcullis.Http

/-- Writes escaped unreserved characters plainly: every slice that this takes of the path is there. -/
def decodeUnreserved (path : List Char) : List Char :=
  (decodeUnreserved? path).get (isSome_decodeUnreserved? path)

/-- Nothing in the path calls for normalisation: no percent sign and no plain dot segment. -/
def isPlain (path : List Char) : Bool :=
  !path.contains '%' && !(path.splitOn '/').any fun s => s == ['.'] || s == ['.', '.']

/-- Two spellings of a path that differ in escapes of unreserved characters or in dot segments have
one normal form. Escapes of reserved characters stay. -/
def normalize (path : List Char) : List Char :=
  if isPlain path then path else Url.parsePath (decodeUnreserved path)

def normalizePath (path : String) : String :=
  String.ofList (normalize path.toList)

end Portcullis.Http
