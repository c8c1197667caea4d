import DocAtlas.Text.Blank

/-!
Lines of a text: unified line feeds, and the lines between all the characters that end one.
-/
namespace DocAtlas.Text

/-- A carriage return before a line feed is dropped. -/
def dropReturns (s : List Char) : List Char :=
  (s.foldr (fun c (following, rest) =>
    (some c, if c == '\r' && following == some '\n' then rest else c :: rest))
    ((none : Option Char), [])).2

/-- Every line end, of one or two characters, becomes a line feed. -/
def unifyBreaks (s : List Char) : List Char := replaceChar '\r' '\n' (dropReturns s)

def isLineEnd (c : Char) : Bool :=
  let n := c.toNat
  (10 ≤ n && n ≤ 13) || (28 ≤ n && n ≤ 30) || n == 0x85 || n == 0x2028 || n == 0x2029

/-- The lines of a text without their ends; an end at the very end opens no further line. -/
def lines (s : List Char) : List (List Char) :=
  let pieces := splitWhere isLineEnd (dropReturns s)
  if pieces.getLast? == some [] then pieces.dropLast else pieces

end DocAtlas.Text
