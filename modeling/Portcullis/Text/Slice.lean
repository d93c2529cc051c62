/-! Slices of a text, cut at byte offsets of its UTF-8 form. -/
namespace Portcullis.Text

/-- What is behind a byte offset: `none` if the offset is inside a character or beyond the end. -/
def dropBytes? : Nat → List Char → Option (List Char)
  | 0, cs => some cs
  | _ + 1, [] => none
  | n + 1, c :: rest => if c.utf8Size ≤ n + 1 then dropBytes? (n + 1 - c.utf8Size) rest else none

/-- What is before a byte offset: `none` if the offset is inside a character or beyond the end. -/
def takeBytes? : Nat → List Char → Option (List Char)
  | 0, _ => some []
  | _ + 1, [] => none
  | n + 1, c :: rest =>
    if c.utf8Size ≤ n + 1 then (takeBytes? (n + 1 - c.utf8Size) rest).map (c :: ·) else none

/-- The text from one byte offset to another: `none` if they are out of order, inside a character or
beyond the end. -/
def slice? (cs : List Char) (i j : Nat) : Option (List Char) :=
  if i ≤ j then (dropBytes? i cs).bind (takeBytes? (j - i)) else none

/-- The byte offsets of a character in a text whose first byte has the offset `n`. -/
def offsets (c : Char) : Nat → List Char → List Nat
  | _, [] => []
  | n, d :: rest =>
    if d == c then n :: offsets c (n + d.utf8Size) rest else offsets c (n + d.utf8Size) rest

end Portcullis.Text
