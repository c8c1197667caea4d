/-!
Sets of characters given by ranges of code points, written as `first-last` in hexadecimal.
-/
namespace DocAtlas.Text

/-- Disjoint ranges of code points in ascending order. -/
structure CharSet where
  ranges : Array (Nat × Nat)

def hexDigit? (c : Char) : Option Nat :=
  if '0' ≤ c && c ≤ '9' then some (c.toNat - '0'.toNat)
  else if 'a' ≤ c && c ≤ 'f' then some (c.toNat - 'a'.toNat + 10)
  else if 'A' ≤ c && c ≤ 'F' then some (c.toNat - 'A'.toNat + 10)
  else none

/-- The number written by the hexadecimal digits of `s`; other characters are passed over. -/
def hexValue (s : List Char) : Nat :=
  (s.filterMap hexDigit?).foldl (fun n d => 16 * n + d) 0

namespace CharSet

def readRange (s : List Char) : Nat × Nat :=
  let first := s.takeWhile (· != '-')
  match s.drop first.length with
  | [] => (hexValue first, hexValue first)
  | _ :: last => (hexValue first, hexValue last)

/-- The set whose ranges stand on the given lines, separated by blanks. -/
def ofLines (ls : List String) : CharSet :=
  ⟨(ls.flatMap fun s => (s.splitToList (· == ' ')).map (readRange ·.toList)).toArray⟩

/-- Looks for the range that holds `n` among those with index from `lo` to before `hi`. -/
def search (ranges : Array (Nat × Nat)) (n lo hi : Nat) : Bool :=
  if _ : lo < hi then
    let mid := (lo + hi) / 2
    match ranges[mid]? with
    | none => false
    | some (a, b) =>
      if n < a then search ranges n lo mid
      else if b < n then search ranges n (mid + 1) hi
      else true
  else false
termination_by hi - lo

def contains (s : CharSet) (c : Char) : Bool :=
  search s.ranges c.toNat 0 s.ranges.size

end CharSet

end DocAtlas.Text
