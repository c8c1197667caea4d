/-!
White space, and the splitting, trimming and joining of texts.

Texts are lists of characters here; `String` versions stand beside those that other modules use on
whole texts.
-/
namespace DocAtlas.Text

/-- The characters that separate words: Unicode white space and the information separators. -/
def isBlank (c : Char) : Bool :=
  let n := c.toNat
  (9 ≤ n && n ≤ 13) || (28 ≤ n && n ≤ 32) || n == 0x85 || n == 0xA0 || n == 0x1680 ||
    (0x2000 ≤ n && n ≤ 0x200A) || n == 0x2028 || n == 0x2029 || n == 0x202F || n == 0x205F ||
    n == 0x3000

def trimStart (s : List Char) : List Char := s.dropWhile isBlank

def trimEnd (s : List Char) : List Char := (s.reverse.dropWhile isBlank).reverse

def trim (s : List Char) : List Char := trimEnd (trimStart s)

/-- The pieces between the characters that satisfy `p`; there is always at least one. -/
def splitWhere (p : Char → Bool) (s : List Char) : List (List Char) :=
  s.foldr (fun c pieces =>
    if p c then [] :: pieces
    else match pieces with
      | [] => [[c]]
      | piece :: rest => (c :: piece) :: rest) [[]]

def splitAt (sep : Char) (s : List Char) : List (List Char) := splitWhere (· == sep) s

def words (s : List Char) : List (List Char) := (splitWhere isBlank s).filter (!·.isEmpty)

def join (sep : List Char) (pieces : List (List Char)) : List Char :=
  (pieces.intersperse sep).flatten

/-- The words of a text with one space between any two. -/
def collapse (s : List Char) : List Char := join [' '] (words s)

/-- Every occurrence of `old`, found from the left without overlap, becomes `new`; `old` is one
character. -/
def replaceChar (old new : Char) (s : List Char) : List Char :=
  s.map fun c => if c == old then new else c

/-- The text without its first `n` characters if it begins with `start`. -/
def dropStart? (start s : List Char) : Option (List Char) :=
  if start.isPrefixOf s then some (s.drop start.length) else none

/-- The text before and the text after the first occurrence of `sep`. -/
def cut? (sep : List Char) : List Char → Option (List Char × List Char)
  | [] => if sep.isEmpty then some ([], []) else none
  | c :: r =>
    if sep.isPrefixOf (c :: r) then some ([], (c :: r).drop sep.length)
    else (cut? sep r).map fun (before, after) => (c :: before, after)

/-- The part after the last `sep`, the whole text if there is none. -/
def afterLast (sep : Char) (s : List Char) : List Char :=
  (s.reverse.takeWhile (· != sep)).reverse

/-- The part before the last `sep`, if there is one. -/
def beforeLast? (sep : Char) (s : List Char) : Option (List Char) :=
  match s.reverse.dropWhile (· != sep) with
  | [] => none
  | _ :: rest => some rest.reverse

end DocAtlas.Text

namespace DocAtlas

/-- The pieces of `s` between the characters `sep`. -/
def splitText (sep : Char) (s : String) : List String :=
  (Text.splitAt sep s.toList).map String.ofList

def startsWith (s start : String) : Bool := start.toList.isPrefixOf s.toList

def endsWith (s tail : String) : Bool := tail.toList.isSuffixOf s.toList

def trimText (s : String) : String := String.ofList (Text.trim s.toList)

end DocAtlas
