import Portcullis.Text.Ascii

/-! Searching bytes for keywords, without regard to the case of ASCII letters. -/
namespace Portcullis.Policy

structure Keywords where
  lowered : List Bytes
  deriving DecidableEq, Repr

namespace Keywords

def ofTexts (words : List String) : Keywords :=
  ⟨words.map fun w => (Bytes.ofText w).map Ascii.lowerByte⟩

/-- The length of the longest keyword that ends where the bytes, latest first, were read. -/
def longestAt? (k : Keywords) (behind : Bytes) : Option Nat :=
  ((k.lowered.filter fun w => w.reverse.isPrefixOf behind).map List.length).max?

/-- The start of the first occurrence, given the bytes before the place, latest first, and their
number. -/
def findFrom? (k : Keywords) : Bytes → Nat → Bytes → Option Nat
  | behind, n, rest =>
    match k.longestAt? behind with
    | some l => some (n - l)
    | none =>
      match rest with
      | [] => none
      | b :: rest => k.findFrom? (Ascii.lowerByte b :: behind) (n + 1) rest
  termination_by structural _ _ rest => rest

/-- Where the occurrence begins that ends first, the longest of several. -/
def find? (k : Keywords) (body : Bytes) : Option Nat :=
  k.findFrom? [] 0 body

end Keywords

end Portcullis.Policy
