import DocAtlas.Text.Blank
import DocAtlas.Text.Case

/-!
Slugs: small letters and digits in runs joined by single hyphens.
-/
namespace DocAtlas.Text.Slug

def isPlain (c : Char) : Bool := ('a' ≤ c && c ≤ 'z') || ('0' ≤ c && c ≤ '9')

/-- Whether a new word of a camel case name begins at the head of `rest`, after the character
`before`. -/
def startsWord (before : Char) (rest : List Char) : Bool :=
  match rest with
  | [] => false
  | c :: after =>
    Case.isAsciiUpper c &&
      (isPlain before || (Case.isAsciiUpper before && after.head?.any Case.isAsciiLower))

/-- A hyphen between the words of a camel case name. -/
def spaceWords : List Char → List Char
  | [] => []
  | c :: rest => if startsWord c rest then c :: '-' :: spaceWords rest else c :: spaceWords rest

/-- The runs of small letters and digits, joined by hyphens. -/
def hyphenate (s : List Char) : List Char :=
  join ['-'] ((splitWhere (!isPlain ·) s).filter (!·.isEmpty))

def ofChars (s : List Char) : List Char := hyphenate (Case.lower (spaceWords s))

end DocAtlas.Text.Slug

namespace DocAtlas

def slug (s : String) : String := String.ofList (Text.Slug.ofChars s.toList)

end DocAtlas
