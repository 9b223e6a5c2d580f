import Criteria.Number.Basic
/-!
# Numbers by their width

The numbers that items and literals are written with: integers of a width,
with or without a sign, and floating-point numbers of single or double
precision. `Primitive.toNumber` widens each to a `Number` of its family,
which loses nothing.
-/

namespace Criteria

/-- A number of a fixed width. -/
inductive Primitive
  | int8 (n : Int8)
  | int16 (n : Int16)
  | int32 (n : Int32)
  | int64 (n : Int64)
  | uint8 (n : UInt8)
  | uint16 (n : UInt16)
  | uint32 (n : UInt32)
  | uint64 (n : UInt64)
  /-- A single-precision number, by its bits. -/
  | float32 (bits : UInt32)
  | float64 (x : Binary64)

namespace Primitive

/-- The number, widened. -/
def toNumber : Primitive → Number
  | int8 n => .signed n.toInt64
  | int16 n => .signed n.toInt64
  | int32 n => .signed n.toInt64
  | int64 n => .signed n
  | uint8 n => .unsigned n.toUInt64
  | uint16 n => .unsigned n.toUInt64
  | uint32 n => .unsigned n.toUInt64
  | uint64 n => .unsigned n
  | float32 bits => .float (.ofBinary32 bits)
  | float64 x => .float x

end Primitive

end Criteria
