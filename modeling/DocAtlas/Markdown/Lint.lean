import DocAtlas.Text.Lines

/-!
Tidying of markdown: line ends, blank lines, headings and code fences.
-/
namespace DocAtlas.Markdown.Lint
open Text

def fence : List Char := ['`', '`', '`']

/-- A line that opens or closes a block of code. -/
def isFence (line : List Char) : Bool := fence.isPrefixOf (trimStart line)

/-- The level and the text of a heading; the line has no blanks at its end. -/
def heading? (line : List Char) : Option (List Char × List Char) :=
  let marks := line.takeWhile (· == '#')
  let rest := line.dropWhile (· == '#')
  let title := trimStart rest
  if marks.isEmpty || 6 < marks.length || title.length == rest.length || title.isEmpty then none
  else some (marks, title)

/-- The lines written so far, the last one first, and whether they end inside a block of code. -/
structure State where
  inCode : Bool := false
  written : List (List Char) := []

/-- Whether nothing has been written or a blank line came last. -/
def endsBlank (written : List (List Char)) : Bool :=
  match written with
  | [] => true
  | last :: _ => last.isEmpty

/-- A blank line, unless nothing or a blank line comes before. -/
def separate (written : List (List Char)) : List (List Char) :=
  if endsBlank written then written else [] :: written

/-- A bare fence that closes a block of code is followed by a blank line. -/
def step (s : State) (line : List Char) : State :=
  let line := trimEnd line
  if isFence line then
    ⟨!s.inCode, trimStart line :: (if s.inCode then s.written else separate s.written)⟩
  else if s.inCode then { s with written := line :: s.written }
  else
    match heading? line with
    | some (marks, title) =>
      { s with written := [] :: (marks ++ ' ' :: title) :: separate s.written }
    | none =>
      if line.isEmpty && endsBlank s.written then s
      else if s.written.head? == some fence then { s with written := line :: [] :: s.written }
      else { s with written := line :: s.written }

/-- An open block of code is closed, and blank lines at the end are dropped. -/
def finish (s : State) : List (List Char) :=
  ((if s.inCode then fence :: s.written else s.written).dropWhile (·.isEmpty)).reverse

def lintLines (ls : List (List Char)) : List (List Char) := finish (ls.foldl step {})

def lintChars (s : List Char) : List Char :=
  join ['\n'] (lintLines (splitAt '\n' (unifyBreaks s))) ++ ['\n']

def lint (s : String) : String := String.ofList (lintChars s.toList)

end DocAtlas.Markdown.Lint
