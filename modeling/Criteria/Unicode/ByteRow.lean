/-!
# Characters by their bytes

In UTF-8 a character is one to four bytes long: a lead, which tells how
many follow it, and bytes with six bits each. A row says which bytes may
stand at each of the places of a character, and the characters of a stretch
are those of a few rows. At every place the whole sixty-fours within the
stretch are one row, and what is left before and after them goes by its
next bytes.
-/

namespace Criteria.Unicode

/-- Bytes for each place of a character, from a first to a last one. -/
abbrev ByteRow := List (Nat × Nat)

namespace ByteRow

/-- The bytes that may follow a lead. -/
def following : Nat × Nat := (0x80, 0xBF)

/-- The rows of the numbers from `low` to `high` that some bytes write, the
first of which is marked. -/
def ofNumbers : (followers mark low high : Nat) → List ByteRow
  | 0, mark, low, high => [[(mark + low, mark + high)]]
  | n + 1, mark, low, high =>
      let unit := 64 ^ (n + 1)
      let under (digit low high : Nat) : List ByteRow :=
        (ofNumbers n 0x80 low high).map ((mark + digit, mark + digit) :: ·)
      if low / unit = high / unit then under (low / unit) (low % unit) (high % unit)
      else
        let first := (low + unit - 1) / unit
        let past := (high + 1) / unit
        let before := if low % unit = 0 then [] else under (low / unit) (low % unit) (unit - 1)
        let whole :=
          if first < past then [(mark + first, mark + past - 1) :: List.replicate (n + 1) following]
          else []
        let after := if (high + 1) % unit = 0 then [] else under (high / unit) 0 (high % unit)
        before ++ whole ++ after

/-- The code points that are written with the same number of bytes: the
first and the last, and how many bytes follow a lead with which mark. -/
def lengths : List (Nat × Nat × Nat × Nat) :=
  [(0, 0x7F, 0, 0), (0x80, 0x7FF, 1, 0xC0), (0x800, 0xFFFF, 2, 0xE0), (0x10000, 0x10FFFF, 3, 0xF0)]

/-- The rows of the characters from `low` to `high`, shorter ones first. -/
def ofStretch (low high : Nat) : List ByteRow :=
  lengths.flatMap fun (first, last, followers, mark) =>
    if max low first ≤ min high last then
      ofNumbers followers mark (max low first) (min high last)
    else []

/-- How many places two rows begin with alike. -/
def shared : ByteRow → ByteRow → Nat
  | a :: rest, b :: others => if a = b then shared rest others + 1 else 0
  | _, _ => 0

/-- How many beginnings rows have that neither the ones before them in the
list nor `before` has, where rows with a common beginning stand together. -/
def beginnings (before : ByteRow) : List ByteRow → Nat
  | [] => 0
  | row :: rest => row.length - shared row before + beginnings row rest

end ByteRow

end Criteria.Unicode
