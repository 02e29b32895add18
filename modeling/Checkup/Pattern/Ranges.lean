/-!
# Sets of numbers as ranges

Bytes and code points are gathered in lists of inclusive ranges. The operations keep such a list
in order and without overlaps, so that the gaps of a list are its complement.
-/

namespace Checkup.Pattern

abbrev Ranges := List (Nat × Nat)

namespace Ranges

def contains (ranges : Ranges) (value : Nat) : Bool :=
  ranges.any fun range => range.1 ≤ value && value ≤ range.2

def single (value : Nat) : Ranges := [(value, value)]

/-- Joins what touches, in a list that is ordered by its lower ends and begins with `low`. -/
def joinFrom : (low high : Nat) → Ranges → Ranges
  | low, high, [] => [(low, high)]
  | low, high, (first, last) :: rest =>
    if first ≤ high + 1 then joinFrom low (max high last) rest
    else (low, high) :: joinFrom first last rest

def ofList (ranges : List (Nat × Nat)) : Ranges :=
  match ranges.mergeSort fun left right => left.1 ≤ right.1 with
  | [] => []
  | (low, high) :: rest => joinFrom low high rest

def union (left right : Ranges) : Ranges := ofList (left ++ right)

/-- The gaps from `low` to `top` of an ordered list. -/
def gaps (top : Nat) : (low : Nat) → Ranges → Ranges
  | low, [] => if low ≤ top then [(low, top)] else []
  | low, (first, last) :: rest =>
    if low < first then (low, first - 1) :: gaps top (last + 1) rest
    else gaps top (last + 1) rest

def complement (top : Nat) (ranges : Ranges) : Ranges := gaps top 0 ranges

def intersection (top : Nat) (left right : Ranges) : Ranges :=
  complement top (union (complement top left) (complement top right))

def difference (top : Nat) (left right : Ranges) : Ranges :=
  intersection top left (complement top right)

def symmetricDifference (top : Nat) (left right : Ranges) : Ranges :=
  difference top (union left right) (intersection top left right)

/-- The part of the set from `low` to `high`, moved by `offset`. -/
def slice (ranges : Ranges) (low high : Nat) (offset : Int) : Ranges :=
  ranges.filterMap fun (first, last) =>
    let first := max first low
    let last := min last high
    if first ≤ last then some ((first + offset).toNat, (last + offset).toNat) else none

/-- The set with the other case of each ASCII letter. -/
def foldAscii (ranges : Ranges) : Ranges :=
  union ranges (ranges.slice 0x41 0x5A 32 ++ ranges.slice 0x61 0x7A (-32))

end Ranges

end Checkup.Pattern
