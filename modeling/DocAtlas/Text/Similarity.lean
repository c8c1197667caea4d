/-!
How alike two texts are: twice the length of their matching blocks over the sum of their lengths.

A longest common block is taken first, the earliest one among equals, then the texts before it and
the texts after it are compared in the same way. A character that fills more than a hundredth of a
long second text begins no block, but a block may grow over it.
-/
namespace DocAtlas.Text.Similarity

structure Block where
  first : Nat
  second : Nat
  size : Nat

/-- The characters that are too frequent in `b` to begin a block. -/
def frequent (b : Array Char) : List Char :=
  if b.size < 200 then []
  else
    let limit := b.size / 100 + 1
    b.toList.eraseDups.filter fun c => limit < b.countP (· == c)

/-- One row of run lengths: `previous` holds those that end at the row before, by column. -/
def row (b : Array Char) (usual : Array Bool) (c : Char) (lo hi : Nat) (previous : Array Nat) :
    Array Nat :=
  ((List.range (hi - lo)).map fun k =>
    if b[lo + k]? == some c && usual.getD (lo + k) false then
      (if k = 0 then 0 else previous.getD (k - 1) 0) + 1
    else 0).toArray

/-- The best block after a further row, whose line in the first text is `i`. -/
def better (i lo : Nat) (best : Block) (runs : Array Nat) : Block :=
  (List.range runs.size).foldl (fun best k =>
    let size := runs.getD k 0
    if best.size < size then ⟨i + 1 - size, lo + k + 1 - size, size⟩ else best) best

def longestUsual (a b : Array Char) (usual : Array Bool) (alo ahi blo bhi : Nat) : Block :=
  ((List.range (ahi - alo)).foldl (fun (best, previous) k =>
    let runs := match a[alo + k]? with
      | some c => row b usual c blo bhi previous
      | none => #[]
    (better (alo + k) blo best runs, runs)) ((⟨alo, blo, 0⟩ : Block), (#[] : Array Nat))).1

/-- Equal characters before the block join it. -/
def growLeft (a b : Array Char) (alo blo : Nat) : Nat → Block → Block
  | 0, block => block
  | fuel + 1, block =>
    if alo < block.first && blo < block.second && a[block.first - 1]? == b[block.second - 1]? then
      growLeft a b alo blo fuel ⟨block.first - 1, block.second - 1, block.size + 1⟩
    else block

/-- Equal characters after the block join it. -/
def growRight (a b : Array Char) (ahi bhi : Nat) : Nat → Block → Block
  | 0, block => block
  | fuel + 1, block =>
    if block.first + block.size < ahi && block.second + block.size < bhi &&
        a[block.first + block.size]? == b[block.second + block.size]? then
      growRight a b ahi bhi fuel { block with size := block.size + 1 }
    else block

def longest (a b : Array Char) (usual : Array Bool) (alo ahi blo bhi : Nat) : Block :=
  growRight a b ahi bhi a.size
    (growLeft a b alo blo a.size (longestUsual a b usual alo ahi blo bhi))

/-- The number of characters in matching blocks; each block leaves less to compare. -/
def matched (a b : Array Char) (usual : Array Bool) : Nat → Nat → Nat → Nat → Nat → Nat
  | 0, _, _, _, _ => 0
  | fuel + 1, alo, ahi, blo, bhi =>
    if alo < ahi && blo < bhi then
      let block := longest a b usual alo ahi blo bhi
      if block.size = 0 then 0
      else
        matched a b usual fuel alo block.first blo block.second + block.size +
          matched a b usual fuel (block.first + block.size) ahi (block.second + block.size) bhi
    else 0

/-- The number of matching characters of two texts. -/
def common (a b : List Char) : Nat :=
  let first := a.toArray
  let second := b.toArray
  let rare := frequent second
  matched first second (second.map fun c => !rare.contains c) (first.size + 1) 0 first.size 0
    second.size

/-- The likeness as a quotient; two empty texts are alike. -/
def ratio (a b : List Char) : Nat × Nat :=
  let total := a.length + b.length
  if total = 0 then (1, 1) else (2 * common a b, total)

end DocAtlas.Text.Similarity
