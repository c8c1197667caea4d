import DocAtlas.Markdown.Lint
import DocAtlas.Text.Case

/-!
Tables of contents: links to the headings of the second and third level of a page.
-/
namespace DocAtlas.Markdown
open Text

structure Heading where
  level : Nat
  title : List Char
  anchor : List Char
deriving DecidableEq

namespace Contents

/-- Marks the place of a table of contents that is still to be written. -/
def placeholder : List Char := "<!-- repodoc:toc -->".toList

def opening : List Char := "<!-- repodoc:begin:toc -->".toList

def closing : List Char := "<!-- repodoc:end:toc -->".toList

def isAnchorChar (c : Char) : Bool :=
  ('a' ≤ c && c ≤ 'z') || ('0' ≤ c && c ≤ '9') || c == '-' || isBlank c

def trimHyphens (s : List Char) : List Char :=
  ((s.dropWhile (· == '-')).reverse.dropWhile (· == '-')).reverse

/-- Small letters, digits and hyphens of a title; a hyphen stands for each blank. -/
def anchorOf (title : List Char) : List Char :=
  trimHyphens (((Case.lower title).filter isAnchorChar).map fun c => if isBlank c then '-' else c)

/-- The level and title of a heading of the second or third level. -/
def heading? (line : List Char) : Option (Nat × List Char) :=
  match Lint.heading? line with
  | some (marks, title) =>
    if marks.length = 2 || marks.length = 3 then some (marks.length, title) else none
  | none => none

/-- The headings of trimmed lines; those inside blocks of code do not count. -/
def titles : Bool → List (List Char) → List (Nat × List Char)
  | _, [] => []
  | inCode, line :: rest =>
    if Lint.isFence line then titles (!inCode) rest
    else if inCode then titles inCode rest
    else match heading? line with
      | some found => found :: titles inCode rest
      | none => titles inCode rest

/-- The anchor of a title that came up `count` times before. -/
def numbered (anchor : List Char) (count : Nat) : List Char :=
  if count = 0 then anchor else anchor ++ '-' :: (toString count).toList

/-- Gives each title its anchor; `seen` holds the plain anchors of the titles before. -/
def assign : List (List Char) → List (Nat × List Char) → List Heading
  | _, [] => []
  | seen, (level, title) :: rest =>
    let anchor := anchorOf title
    ⟨level, title, numbered anchor (seen.count anchor)⟩ :: assign (anchor :: seen) rest

def headings (s : List Char) : List Heading := assign [] (titles false ((lines s).map trim))

def entry (h : Heading) : List Char :=
  List.replicate (2 * (h.level - 2)) ' ' ++ "- [".toList ++ h.title ++ "](#".toList ++ h.anchor ++
    [')']

def block (hs : List Heading) : List Char :=
  join ['\n'] ([opening, "**Contents**".toList, []] ++ hs.map entry ++ [closing])

/-- The only fault: the closing mark stands nowhere after the opening one. -/
inductive Fault where
  | unclosed

def Fault.message : Fault → String
  | .unclosed => "not enough values to unpack (expected 2, got 1)"

/-- The text with the first `old` replaced by `new`. -/
def replaceFirst (old new s : List Char) : List Char :=
  match cut? old s with
  | some (before, after) => before ++ new ++ after
  | none => s

/-- Writes the table of contents in place of an earlier one or of the placeholder; a page with few
headings gets none. -/
def build (minimum : Int) (s : List Char) : Except Fault (List Char) :=
  let hs := headings s
  if (hs.length : Int) < minimum then .ok (replaceFirst placeholder [] s)
  else
    match cut? opening s, cut? closing s with
    | some (before, rest), some _ =>
      match cut? closing rest with
      | some (_, after) => .ok (before ++ block hs ++ after)
      | none => .error .unclosed
    | _, _ => .ok (replaceFirst placeholder (block hs) s)

end Contents

end DocAtlas.Markdown
