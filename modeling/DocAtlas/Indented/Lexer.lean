import DocAtlas.Text.Lines
import DocAtlas.Indented.Number
import DocAtlas.Indented.Literal

/-!
The tokens of a source. Line ends count outside brackets only, and there the margin of each line
opens and closes blocks. The fields of formatted texts are read in place.
-/
namespace DocAtlas.Indented.Lexer
open Text

/-- The open blocks and brackets, innermost first. A block is given by the width of its margin, and
by the width if tabs counted as one. -/
structure Layout where
  indents : List (Nat × Nat) := []
  brackets : List Char := []

/-- The most blocks, and the most brackets, that may be open at once. -/
def maxIndents : Nat := 99

def maxBrackets : Nat := 200

def isFiller (g : Glyph) : Bool := g.char == ' ' || g.char == '\t' || g.char == Char.ofNat 12

def skipComment (s : List Glyph) : List Glyph := s.dropWhile (·.char != '\n')

/-- What follows a backslash at the end of a line, if anything does. -/
def continued? : List Glyph → Option (List Glyph)
  | g :: rest => if g.char == '\n' && !rest.isEmpty then some rest else none
  | [] => none

/-- The widths of the margin, and the rest of the line. If lines are joined within the margin, the
width before the first join counts, unless it is zero. -/
def margin? : List Glyph → Nat → Nat → Nat → Option (Nat × Nat × List Glyph)
  | s, joined, wide, narrow =>
    let width := fun n => if joined = 0 then n else joined
    match s with
    | [] => some (width wide, width narrow, [])
    | g :: rest =>
      if g.char == ' ' then margin? rest joined (wide + 1) (narrow + 1)
      else if g.char == '\t' then margin? rest joined ((wide / 8 + 1) * 8) (narrow + 1)
      else if g.char == Char.ofNat 12 then margin? rest joined 0 0
      else if g.char == '\\' then
        match rest with
        | e :: next :: rest =>
          if e.char == '\n' then margin? (next :: rest) (width wide) wide narrow else none
        | _ => none
      else some (width wide, width narrow, s)

/-- Blocks wider than a margin are closed; their number, and the rest. -/
def closeWider (wide : Nat) (indents : List (Nat × Nat)) : Nat × List (Nat × Nat) :=
  let closed := indents.takeWhile (wide < ·.1)
  (closed.length, indents.drop closed.length)

/-- The blocks that a margin leaves open, and the tokens for those it opens or closes. Both widths
must agree on which it is. -/
def Layout.enter? (l : Layout) (wide narrow : Nat) : Option (Layout × List Token) :=
  let (closed, left) := closeWider wide l.indents
  let (top, topNarrow) := left.head?.getD (0, 0)
  if wide = top then
    if narrow = topNarrow then some ({ l with indents := left }, List.replicate closed .dedent)
    else none
  else if closed = 0 && topNarrow < narrow && l.indents.length < maxIndents then
    some ({ l with indents := (wide, narrow) :: left }, [.indent])
  else none

def closes (opening closing : Char) : Bool :=
  (opening == '(' && closing == ')') || (opening == '[' && closing == ']') ||
    (opening == '\x7b' && closing == '\x7d')

def isOpening (c : Char) : Bool := c == '(' || c == '[' || c == '\x7b'

def isClosing (c : Char) : Bool := c == ')' || c == ']' || c == '\x7d'

/-- Brackets must be closed in the order in which they were opened. -/
def push? (limit : Nat) (brackets : List Char) (c : Char) : Option (List Char) :=
  if isOpening c then if brackets.length < limit then some (c :: brackets) else none
  else if isClosing c then
    match brackets with
    | opening :: rest => if closes opening c then some rest else none
    | [] => none
  else some brackets

def Layout.push? (l : Layout) (symbol : String) : Option Layout :=
  match symbol.toList with
  | [c] => (Lexer.push? maxBrackets l.brackets c).map fun bs => { l with brackets := bs }
  | _ => some l

def chars (s : List Glyph) : List Char := s.map Glyph.char

/-- The longest symbol that a text begins with. -/
def symbol? (s : List Glyph) : Option String :=
  let front := chars (s.take 3)
  symbols.find? fun symbol => symbol.toList.isPrefixOf front

/-- A name begins with a letter or underscore of any script; the words of the language are keywords.
-/
def word? (normal : List Char → List Char) (word : List Char) : Option Token :=
  match word with
  | [] => none
  | c :: rest =>
    if !isNameStart c || !rest.all isNameRest then none
    else
      let text := String.ofList word
      some (if keywords.contains text then .keyword text else .word (String.ofList (normal word)))

/-- Up to which of the special characters of a formatted text a plain part goes. -/
inductive Stop where
  | field
  | finish
  /-- A doubled brace; the plain part goes on. -/
  | doubled

/-- A plain part of a formatted text, gathered backwards, and what follows. Only outside the layout
of a field can braces be doubled. -/
def plainPart? (raw nested : Bool) :
    Nat → List Glyph → List Glyph → Option (List Glyph × Stop × List Glyph)
  | _, seen, [] => some (seen, .finish, [])
  | 0, _, _ => none
  | fuel + 1, seen, g :: rest =>
    if !raw && g.char == '\\' then
      match rest with
      | [] => some (g :: seen, .finish, [])
      | e :: rest' =>
        if e.char == 'N' then
          let name := rest'.takeWhile (·.char != '\x7d')
          plainPart? raw nested fuel
            ((rest'.drop name.length).take 1 ++ name.reverse ++ (e :: g :: seen))
            (rest'.drop (name.length + 1))
        else if e.char == '\x7b' || e.char == '\x7d' then brace (g :: seen) e rest'
        else plainPart? raw nested fuel (e :: g :: seen) rest'
    else if g.char == '\x7b' || g.char == '\x7d' then brace seen g rest
    else plainPart? raw nested fuel (g :: seen) rest
where
  brace (seen : List Glyph) (g : Glyph) (rest : List Glyph) :
      Option (List Glyph × Stop × List Glyph) :=
    if !nested && rest.head?.any (·.char == g.char) then some (g :: seen, .doubled, rest.drop 1)
    else if g.char == '\x7b' then some (seen, .field, rest)
    else if nested then some (seen, .finish, g :: rest)
    else none

/-- The quotes that a text within a field began with. -/
structure Quotes where
  quote : Char
  size : Nat

/-- Whether a text begins with three of the characters `c`. -/
def isTriple (c : Char) (s : List Glyph) : Bool :=
  let front := s.take 3
  front.length = 3 && front.all (·.char == c)

/-- The expression of a field, gathered backwards, up to the character that ends it. Backslashes and
comments are refused. -/
def fieldEnd? : Nat → Option Quotes → List Char → List Glyph → List Glyph →
    Option (List Glyph × List Glyph)
  | 0, _, _, _, _ => none
  | _, _, _, _, [] => none
  | fuel + 1, quotes, open_, seen, g :: rest =>
    let c := g.char
    if c == '\\' then none
    else
      match quotes with
      | some q =>
        if c == q.quote then
          if q.size = 1 then fieldEnd? fuel none open_ (g :: seen) rest
          else if isTriple c (g :: rest) then
            fieldEnd? fuel none open_ ((g :: rest.take 2).reverse ++ seen) (rest.drop 2)
          else fieldEnd? fuel quotes open_ (g :: seen) rest
        else fieldEnd? fuel quotes open_ (g :: seen) rest
      | none =>
        if c == '"' || c == '\'' then
          if isTriple c (g :: rest) then
            fieldEnd? fuel (some ⟨c, 3⟩) open_ ((g :: rest.take 2).reverse ++ seen) (rest.drop 2)
          else fieldEnd? fuel (some ⟨c, 1⟩) open_ (g :: seen) rest
        else if c == '#' then none
        else if open_.isEmpty && isEnder c then
          match rest with
          | e :: rest' =>
            if e.char == '=' && c != ':' && c != '\x7d' then
              fieldEnd? fuel none open_ (e :: g :: seen) rest'
            else if c == '<' || c == '>' then fieldEnd? fuel none open_ (g :: seen) rest
            else some (seen, g :: rest)
          | [] => if c == '<' || c == '>' then none else some (seen, [g])
        else
          match Lexer.push? maxBrackets open_ c with
          | some open_ => fieldEnd? fuel none open_ (g :: seen) rest
          | none => none
where
  isEnder (c : Char) : Bool :=
    c == '!' || c == ':' || c == '\x7d' || c == '=' || c == '<' || c == '>'

/-- The blanks that may stand after the equals sign of a field. -/
def isFieldBlank (g : Glyph) : Bool := g.char == ' ' || (9 ≤ g.char.toNat && g.char.toNat ≤ 13)

/-- The equals sign that asks for the text of the expression, with the blanks after it; and the
rest. -/
def echo (s : List Glyph) : List Glyph × List Glyph :=
  match s with
  | g :: rest =>
    if g.char == '=' then
      let blanks := rest.takeWhile isFieldBlank
      (g :: blanks, rest.drop blanks.length)
    else ([], s)
  | [] => ([], [])

/-- The letter after an exclamation mark, if there is one; and the rest. -/
def conversion? (s : List Glyph) : Option (Option Char × List Glyph) :=
  match s with
  | g :: rest =>
    if g.char == '!' then
      match rest with
      | c :: rest =>
        if c.char == 's' || c.char == 'r' || c.char == 'a' then some (some c.char, rest) else none
      | [] => none
    else some (none, s)
  | [] => none

/-- Adds a plain text to the lexemes unless it is empty. -/
def addText (spot : Spot) (pending : List Nat) (out : List Lexeme) : List Lexeme :=
  if pending.isEmpty then out else ⟨.text pending false, spot⟩ :: out

/-- What the lexer takes from outside: the characters with a name, and the normal form of words. -/
structure Names where
  named : List Char → Option Nat
  normal : List Char → List Char

/-- What is at hand: the margin of a line, the rest of a line, or part of a formatted text. -/
inductive Goal where
  | line (layout : Layout)
  | rest (layout : Layout)
  /-- `level` is how many fields the text is the layout of. -/
  | pieces (raw : Bool) (level : Nat) (spot : Spot) (pending : List Nat)

/-- Formatted texts may be nested in layouts up to this level. -/
def maxLevel : Nat := 2

/-- The rest of a line begins with a number. -/
def isNumberStart (g : Glyph) (rest : List Glyph) : Bool :=
  isAsciiDigit g.char || (g.char == '.' && rest.head?.any (isAsciiDigit ·.char))

/-- Reads the lexemes of `s`, which are put in front of `out`, backwards. The answer also holds what
is left, which is empty unless the layout of a field has been read. -/
def run (names : Names) : Nat → Goal → List Glyph → List Lexeme → Option (List Lexeme × List Glyph)
  | 0, _, _, _ => none
  | fuel + 1, .line l, s, out =>
    match margin? s 0 0 0 with
    | none => none
    | some (wide, narrow, s') =>
      match s' with
      | [] =>
        let spot := (out.head?.map Lexeme.spot).getD ⟨1, 0⟩
        let ends := List.replicate l.indents.length ⟨.dedent, spot⟩
        some (⟨.sourceEnd, spot⟩ :: (ends ++ out), [])
      | g :: _ =>
        if g.char == '#' || g.char == '\n' then
          run names fuel (.line l) ((skipComment s').drop 1) out
        else
          match l.enter? wide narrow with
          | none => none
          | some (l, tokens) =>
            run names fuel (.rest l) s' ((tokens.map fun t => ⟨t, g.spot⟩).reverse ++ out)
  | fuel + 1, .rest l, s, out =>
    match s.dropWhile isFiller with
    | [] => if l.brackets.isEmpty then some (out, []) else none
    | g :: rest =>
      if g.char == '\n' then
        if l.brackets.isEmpty then run names fuel (.line l) rest (⟨.lineEnd, g.spot⟩ :: out)
        else run names fuel (.rest l) rest out
      else if g.char == '#' then run names fuel (.rest l) (skipComment rest) out
      else if g.char == '\\' then
        match continued? rest with
        | some rest => run names fuel (.rest l) rest out
        | none => none
      else if isNumberStart g rest then
        let text := chars (g :: rest.takeWhile (·.char != '\n')) ++ ['\n']
        match Number.read? text with
        | some (n, left) =>
          run names fuel (.rest l) ((g :: rest).drop (text.length - left.length))
            (⟨.number n, g.spot⟩ :: out)
        | none => none
      else
        match Literal.form? {} (g :: rest) with
        | some (form, quote, body) =>
          match Literal.between? quote body with
          | none => none
          | some (body, rest) =>
            if form.formatted then
              match run names fuel (.pieces form.raw 0 g.spot []) body
                  (⟨.formatted, g.spot⟩ :: out) with
              | some (out, []) => run names fuel (.rest l) rest (⟨.endFormatted, g.spot⟩ :: out)
              | _ => none
            else
              match Literal.value? names.named form (chars body) with
              | none => none
              | some value =>
                let token := if form.bytes then .bytes value else .text value form.shown
                run names fuel (.rest l) rest (⟨token, g.spot⟩ :: out)
        | none =>
          let word := (g :: rest).takeWhile (Number.isWordByte ·.char)
          if word.isEmpty then
            match symbol? (g :: rest) with
            | none => none
            | some symbol =>
              match l.push? symbol with
              | none => none
              | some l =>
                run names fuel (.rest l) ((g :: rest).drop symbol.length)
                  (⟨.symbol symbol, g.spot⟩ :: out)
          else
            match word? names.normal (chars word) with
            | none => none
            | some token =>
              run names fuel (.rest l) ((g :: rest).drop word.length) (⟨token, g.spot⟩ :: out)
  | fuel + 1, .pieces raw level spot pending, s, out =>
    match plainPart? raw (0 < level) (s.length + 1) [] s with
    | none => none
    | some (part, stop, rest) =>
      match Literal.value? names.named { raw } (chars part.reverse) with
      | none => none
      | some value =>
        let pending := pending ++ value
        match stop with
        | .doubled => run names fuel (.pieces raw level spot pending) rest out
        | .finish => some (addText spot pending out, rest)
        | .field =>
          if maxLevel ≤ level then none
          else
            match fieldEnd? (rest.length + 1) none [] [] rest with
            | none => none
            | some (seen, after) =>
              let expression := seen.reverse
              let (equals, after) := echo after
              let shown :=
                if equals.isEmpty then [] else (chars (expression ++ equals)).map Char.toNat
              if expression.all isFieldBlank then none
              else
                match expression.head?, conversion? after with
                | some first, some (letter, after) =>
                  let bracketed := ⟨'(', first.spot⟩ :: expression ++ [⟨')', first.spot⟩]
                  let out := ⟨.field, spot⟩ :: addText spot (pending ++ shown) out
                  match run names fuel (.rest {}) bracketed out with
                  | some (out, []) =>
                    match after with
                    | g :: after =>
                      let plain := !equals.isEmpty && g.char != ':' && letter.isNone
                      let out := ⟨.conversion (if plain then some 'r' else letter), spot⟩ :: out
                      if g.char == ':' then
                        if after.isEmpty then none
                        else
                          match run names fuel (.pieces raw (level + 1) spot []) after
                              (⟨.formatted, spot⟩ :: out) with
                          | some (out, g :: rest) =>
                            if g.char == '\x7d' then
                              run names fuel (.pieces raw level spot []) rest
                                (⟨.endFormatted, spot⟩ :: out)
                            else none
                          | _ => none
                      else if g.char == '\x7d' then
                        run names fuel (.pieces raw level spot []) after out
                      else none
                    | [] => none
                  | _ => none
                | _, _ => none

/-- The lexemes of a source, or none if it breaks a rule. -/
def lexemes? (names : Names) (source : List Char) : Option (Array Lexeme) :=
  if source.any (·.toNat == 0) then none
  else
    let text := unifyBreaks source
    let text := if text.getLast? == some '\n' then text else text ++ ['\n']
    (run names (4 * text.length + 4) (.line {}) (Glyph.ofText ⟨1, 0⟩ text) []).map fun (out, _) =>
      out.toArray.reverse

end DocAtlas.Indented.Lexer
