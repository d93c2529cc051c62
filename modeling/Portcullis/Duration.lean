/-! Lengths of time. As times they are counted from the epoch, and none is before it. -/
namespace Portcullis

structure Duration where
  seconds : Nat := 0
  nanoseconds : Nat := 0
  deriving DecidableEq, Repr, Inhabited

namespace Duration

def microseconds (d : Duration) : Nat :=
  d.seconds * 1000000 + d.nanoseconds / 1000

end Duration

end Portcullis
