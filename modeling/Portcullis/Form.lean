import Portcullis.Url.Percent

/-! Form encoding: the parameters of a query. -/
namespace Portcullis.Form

/-- A plus sign stands for a blank. -/
def unplus (b : UInt8) : UInt8 :=
  if b = 0x2B then 0x20 else b

/-- The text of a key or a value. -/
def decode (bs : Bytes) : List Char :=
  Utf8.lossy (Url.percentDecode (bs.map unplus))

/-- A pair is cut at its first equals sign. -/
def pair (bs : Bytes) : List Char × List Char :=
  (decode (bs.takeWhile (· != 0x3D)), decode ((bs.dropWhile (· != 0x3D)).drop 1))

/-- The pairs of a query. Nothing between two ampersands is no pair. -/
def parse (query : Bytes) : List (List Char × List Char) :=
  ((query.splitOn 0x26).filter (!·.isEmpty)).map pair

end Portcullis.Form
