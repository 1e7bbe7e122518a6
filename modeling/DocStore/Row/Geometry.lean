import DocStore.Number.Binary64

/-!
# Stored geometry

The engine stores a point as four bytes that name a reference system and the point's well-known
binary form: a byte for the byte order, the type number and the two coordinates.
-/

namespace DocStore

namespace Geometry

/-- The number that bytes stand for, the first byte being the highest. -/
def ofBytes (bytes : List UInt8) : Nat := bytes.foldl (fun n b => n * 256 + b.toNat) 0

/-- The number that `count` bytes from `start` on stand for, if there are so many. -/
def readAt (littleEndian : Bool) (bytes : List UInt8) (start count : Nat) : Option Nat :=
  let part := (bytes.drop start).take count
  if part.length < count then none
  else some (ofBytes (if littleEndian then part.reverse else part))

/-- The type number of a point. -/
def pointType : Nat := 1

/-- The coordinates of a stored point. -/
def point? (bytes : List UInt8) : Option (Binary64 × Binary64) := do
  let order ← bytes[4]?
  let littleEndian ← if order = 0 then some false else if order = 1 then some true else none
  let type ← readAt littleEndian bytes 5 4
  if type ≠ pointType then none
  let x ← readAt littleEndian bytes 9 8
  let y ← readAt littleEndian bytes 17 8
  return (⟨UInt64.ofNat x⟩, ⟨UInt64.ofNat y⟩)

end Geometry

end DocStore
