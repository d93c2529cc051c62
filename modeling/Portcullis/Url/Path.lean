import Portcullis.Url.Percent

/-! Paths of web addresses: segments between slashes, with dot segments resolved. -/
namespace Portcullis.Url

abbrev Segment := List Char

def isSlash (c : Char) : Bool :=
  c == '/' || c == '\\'

/-- Drops escapes of the full stop down to the full stop itself. -/
def plainDots : Segment → Segment
  | '%' :: '2' :: 'e' :: rest => '.' :: plainDots rest
  | '%' :: '2' :: 'E' :: rest => '.' :: plainDots rest
  | c :: rest => c :: plainDots rest
  | [] => []

/-- The segment stays where it is: one full stop, in any spelling. -/
def isSingleDot (s : Segment) : Bool :=
  plainDots s == ['.']

/-- The segment climbs: two full stops, each in any spelling. -/
def isDoubleDot (s : Segment) : Bool :=
  plainDots s == ['.', '.']

/-- A letter and a colon or bar, which no climb removes. -/
def isDriveLetter : Segment → Bool
  | [c, d] => c.isAlpha && (d == ':' || d == '|')
  | _ => false

/-- Climbs from the innermost of the finished segments, given innermost first. -/
def climb : List Segment → List Segment
  | [] => []
  | s :: outer => if isDriveLetter s then s :: outer else outer

/-- The segments of a path, innermost first: `done` are the finished ones. A dot segment at the end
leaves an empty segment behind. -/
def resolve : List Segment → List Segment → List Segment
  | done, [] => done
  | done, [s] =>
    if isDoubleDot s then [] :: climb done else if isSingleDot s then [] :: done else s :: done
  | done, s :: rest =>
    if isDoubleDot s then resolve (climb done) rest
    else if isSingleDot s then resolve done rest
    else resolve (s :: done) rest

/-- A slash before each segment. -/
def joinSegments (segments : List Segment) : List Char :=
  segments.flatMap ('/' :: ·)

/-- The written form of a path: cut at slashes of either kind, escaped, and resolved. -/
def parsePath (cs : List Char) : List Char :=
  let cs := cs.filter (!isSkipped ·)
  let cs := match cs with
    | c :: rest => if isSlash c then rest else c :: rest
    | [] => []
  joinSegments (resolve [] ((cs.splitOnP isSlash).map (percentEncode pathSet))).reverse

end Portcullis.Url
