/-!
# Sets of characters

A set is kept as the increasing list of its maximal ranges of code points, so that two sets with
the same members are the same value, the empty set is the empty list, and the complement is read
off the gaps.
-/

namespace LexGen

/-- A set of characters, as the increasing list of its ranges, both ends included. -/
structure CharSet where
  ranges : List (Nat × Nat)
deriving DecidableEq, Repr, Inhabited

namespace CharSet

/-- The largest code point. -/
def maxCodePoint : Nat := 0x10FFFF

/-- The code points that are no characters. -/
def surrogates : List (Nat × Nat) := [(0xD800, 0xDFFF)]

def empty : CharSet := ⟨[]⟩

def isEmpty (s : CharSet) : Bool := s.ranges.isEmpty

def holds (s : CharSet) (n : Nat) : Bool := s.ranges.any fun r => r.1 ≤ n && n ≤ r.2

def contains (s : CharSet) (c : Char) : Bool := s.holds c.toNat

/-- Two lists of ranges in increasing order of their starts, merged to one. -/
def merge : List (Nat × Nat) → List (Nat × Nat) → List (Nat × Nat)
  | [], ys => ys
  | x :: xs, ys =>
    ys.takeWhile (fun y => y.1 < x.1) ++ x :: merge xs (ys.dropWhile fun y => y.1 < x.1)

/-- Grows the range `lo … hi` over the ranges that overlap or touch it. -/
def absorb (lo hi : Nat) : List (Nat × Nat) → List (Nat × Nat)
  | [] => [(lo, hi)]
  | (a, b) :: rest =>
    if a ≤ hi + 1 then absorb lo (max hi b) rest else (lo, hi) :: absorb a b rest

/-- Joins ranges that overlap or touch. -/
def coalesce : List (Nat × Nat) → List (Nat × Nat)
  | [] => []
  | (a, b) :: rest => absorb a b rest

/-- The code points from `start` on that lie in none of the ranges. -/
def gaps (start : Nat) : List (Nat × Nat) → List (Nat × Nat)
  | [] => if start ≤ maxCodePoint then [(start, maxCodePoint)] else []
  | (a, b) :: rest => if start < a then (start, a - 1) :: gaps (b + 1) rest else gaps (b + 1) rest

def union (s t : CharSet) : CharSet := ⟨coalesce (merge s.ranges t.ranges)⟩

/-- All characters that are not in `s`. -/
def complement (s : CharSet) : CharSet := ⟨gaps 0 (coalesce (merge s.ranges surrogates))⟩

def inter (s t : CharSet) : CharSet := (s.complement.union t.complement).complement

def diff (s t : CharSet) : CharSet := s.inter t.complement

/-- The characters in exactly one of the two sets. -/
def symmDiff (s t : CharSet) : CharSet := (s.union t).diff (s.inter t)

/-- The characters from `lo` to `hi`. -/
def range (lo hi : Nat) : CharSet :=
  if lo ≤ hi then (⟨[(lo, hi)]⟩ : CharSet).diff ⟨surrogates⟩ else empty

def singleton (c : Char) : CharSet := ⟨[(c.toNat, c.toNat)]⟩

def ofRanges (rs : List (Nat × Nat)) : CharSet :=
  rs.foldl (fun s r => s.union (range r.1 r.2)) empty

/-- The only member, if there is exactly one. -/
def single? (s : CharSet) : Option Char :=
  match s.ranges with
  | [(a, b)] => if a = b then some (Char.ofNat a) else none
  | _ => none

def unions (ss : List CharSet) : CharSet := ss.foldl union empty

/-- Whether all members are ASCII characters. -/
def isAscii (s : CharSet) : Bool := s.ranges.all fun r => r.2 ≤ 0x7F

end CharSet
end LexGen
