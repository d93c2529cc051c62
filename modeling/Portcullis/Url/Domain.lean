import Portcullis.Text.Utf8
import Portcullis.Unicode.Lookup
import Portcullis.Url.Punycode

/-! Domain names: labels between full stops, in ASCII form. -/
namespace Portcullis.Url.Domain

/-- Characters that no domain name has. -/
def isForbidden (c : Char) : Bool :=
  c.toNat ≤ 0x20 || c.toNat == 0x7F || "%#/:<>?@[\\]^|".toList.contains c

/-- Full stops of other scripts. -/
def isStop (c : Char) : Bool :=
  c == '.' || c == '\u3002' || c == '\uFF0E' || c == '\uFF61'

/-- Characters that stand for nothing. -/
def isIgnored (c : Char) : Bool :=
  let n := c.toNat
  n == 0xAD || n == 0x34F || (0x180B ≤ n && n ≤ 0x180D) || n == 0x180F || n == 0x200B || n == 0x2060
    || n == 0x2064 || (0xFE00 ≤ n && n ≤ 0xFE0F) || n == 0xFEFF || (0xE0100 ≤ n && n ≤ 0xE01EF)

/-- Small letters that are paired with others but stand for themselves. -/
def isOwnLetter (n : Nat) : Bool :=
  n == 0xDF || n == 0x3C2

/-- The small letter of a pair. -/
def small (n : Nat) : Nat :=
  if isOwnLetter n then n
  else ((Unicode.foldGroups.find? (·.contains n)).bind List.head?).getD n

/-- What a character is written as in a name. Beyond ASCII this approximates the compatibility mapping: it knows case
pairs, full-width forms, the stops of other scripts and characters that stand for nothing. Other compatibility forms
are taken as they are written, marks are not composed with their letters, and no rule is kept for joiners and for
names that run in both directions. -/
def fold (c : Char) : List Char :=
  let n := c.toNat
  if n < 0x80 then [c.toLower]
  else if isStop c then ['.']
  else if isIgnored c then []
  else if 0xFF01 ≤ n && n ≤ 0xFF5E then [(Char.ofNat (n - 0xFEE0)).toLower]
  else if n == 0x1E9E then ['s', 's']
  else [Char.ofNat (small n)]

/-- Marks, which do not begin a label. -/
def marks : CharSet := Unicode.unionOf ["Mc", "Me", "Mn"]

/-- A character that a label may have. -/
def isAllowed (c : Char) : Bool :=
  if c.toNat < 0x80 then !isForbidden c else !Unicode.shapeless.contains c.toNat && c != '\uFFFD'

def isLabel (cs : List Char) : Bool :=
  cs.all isAllowed && !(cs.head?.any fun c => marks.contains c.toNat)

/-- The mark of a label in ASCII form. -/
def encodedMark : List Char := ['x', 'n', '-', '-']

def isAscii (cs : List Char) : Bool :=
  cs.all (·.toNat < 0x80)

/-- The ASCII form of a label. One that is written so already has to stand for a label beyond ASCII. -/
def asciiLabel? (cs : List Char) : Option (List Char) :=
  if encodedMark.isPrefixOf cs then
    match Punycode.decode? (cs.drop 4) with
    | some decoded =>
      if !isAscii decoded && isLabel decoded && decoded.flatMap fold == decoded
          && encodedMark ++ Punycode.encode decoded == cs then some cs
      else none
    | none => none
  else if isAscii cs then if cs.any isForbidden then none else some cs
  else if isLabel cs then some (encodedMark ++ Punycode.encode cs)
  else none

/-- The ASCII form of a name. -/
def ascii? (cs : List Char) : Option (List Char) :=
  (((cs.flatMap fold).splitOn '.').mapM asciiLabel?).map fun labels => ['.'].intercalate labels

end Portcullis.Url.Domain
