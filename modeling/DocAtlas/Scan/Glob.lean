import DocAtlas.Text.Blank

/-!
Glob patterns. A pattern is first expanded: each wildcard becomes a short expression, each bracket a
character set, and each special character is escaped. The expansion is then read as a list of items
that a text has to match from end to end. A bracket that holds nothing is not closed by its own end,
so its set goes on into what follows; positions in messages are positions in the expansion.
-/
namespace DocAtlas.Glob

/-- The characters that are escaped in an expansion. -/
def special : List Char :=
  "()[]\x7b\x7d?*+-|^$\\.&~# \t\n\r".toList ++ [Char.ofNat 11, Char.ofNat 12]

def escape (c : Char) : List Char := if special.contains c then ['\\', c] else [c]

def anyDirectories : List Char := "(?:.*/)?".toList

def anyText : List Char := ".*".toList

def anyName : List Char := "[^/]*".toList

def anyNameChar : List Char := "[^/]".toList

/-- The set written in brackets; an exclamation mark at its start negates it. -/
def bracket (body : List Char) : List Char :=
  '[' :: (match body with
    | '!' :: rest => '^' :: rest
    | _ => body) ++ [']']

/-- The expansion of the pattern, of which `fuel` bounds the length. -/
def expandFrom : Nat → List Char → List Char
  | 0, _ => []
  | _, [] => []
  | fuel + 1, '*' :: '*' :: '/' :: rest => anyDirectories ++ expandFrom fuel rest
  | fuel + 1, '*' :: '*' :: rest => anyText ++ expandFrom fuel rest
  | fuel + 1, '*' :: rest => anyName ++ expandFrom fuel rest
  | fuel + 1, '?' :: rest => anyNameChar ++ expandFrom fuel rest
  | fuel + 1, '[' :: rest =>
    if rest.contains ']' then
      let body := rest.takeWhile (· != ']')
      bracket body ++ expandFrom fuel (rest.drop (body.length + 1))
    else escape '[' ++ expandFrom fuel rest
  | fuel + 1, c :: rest => escape c ++ expandFrom fuel rest

def expand (pattern : List Char) : List Char := expandFrom pattern.length pattern

/-- A class of characters. -/
inductive Class where
  | only (c : Char)
  | anyButBreak
  | set (negated : Bool) (ranges : List (Char × Char))
deriving DecidableEq

def Class.has (k : Class) (c : Char) : Bool :=
  match k with
  | .only d => c == d
  | .anyButBreak => c != '\n'
  | .set negated ranges => ranges.any (fun r => r.1 ≤ c && c ≤ r.2) != negated

inductive Item where
  | one (k : Class)
  | many (k : Class)
  /-- Nothing, or a text without line feeds that ends with a slash. -/
  | directories
deriving DecidableEq

inductive Fault where
  | unterminated (position : Nat)
  | badRange (low high : List Char) (position : Nat)
deriving DecidableEq

/-- Where a position lies in an expansion of several lines. -/
def place (expansion : List Char) (position : Nat) : String :=
  let before := expansion.take position
  let column := position - (before.length - (before.reverse.takeWhile (· != '\n')).length) + 1
  " at position " ++ toString position ++
    (if expansion.contains '\n' then
      " (line " ++ toString (before.count '\n' + 1) ++ ", column " ++ toString column ++ ")"
    else "")

def Fault.message (expansion : List Char) : Fault → String
  | .unterminated p => "unterminated character set" ++ place expansion p
  | .badRange low high p =>
    "bad character range " ++ String.ofList low ++ "-" ++ String.ofList high ++ place expansion p

/-- A character of a set as it is written, and the rest. -/
def member : List Char → Option (List Char × Char × List Char)
  | [] => none
  | '\\' :: c :: rest => some (['\\', c], c, rest)
  | c :: rest => some ([c], c, rest)

/-- Reads the members of a set that was opened at `start`; `total` is the length of the expansion.
-/
def readSet (total start : Nat) :
    Nat → List (Char × Char) → List Char → Except Fault (List (Char × Char) × List Char)
  | 0, _, _ => .error (.unterminated start)
  | fuel + 1, seen, s =>
    match member s with
    | none => .error (.unterminated start)
    | some (low, c, rest) =>
      if low == [']'] && !seen.isEmpty then .ok (seen, rest)
      else
        match rest with
        | '-' :: after =>
          match member after with
          | none => .error (.unterminated start)
          | some (high, d, more) =>
            if high == [']'] then .ok (seen ++ [(c, c), ('-', '-')], more)
            else if d < c then
              .error (.badRange low high (total - more.length - (low.length + 1 + high.length)))
            else readSet total start fuel (seen ++ [(c, d)]) more
        | _ => readSet total start fuel (seen ++ [(c, c)]) rest

/-- Reads the items of an expansion of length `total`. -/
def readItems (total : Nat) : Nat → List Char → Except Fault (List Item)
  | 0, _ => .ok []
  | _, [] => .ok []
  | fuel + 1, '(' :: rest => do
    return .directories :: (← readItems total fuel (rest.drop (anyDirectories.length - 1)))
  | fuel + 1, '.' :: '*' :: rest => do return .many .anyButBreak :: (← readItems total fuel rest)
  | fuel + 1, '\\' :: c :: rest => do return .one (.only c) :: (← readItems total fuel rest)
  | fuel + 1, '[' :: rest => do
    let start := total - rest.length - 1
    let (negated, rest) := match rest with
      | '^' :: rest => (true, rest)
      | rest => (false, rest)
    let (ranges, rest) ← readSet total start (rest.length + 1) [] rest
    match rest with
    | '*' :: rest => return .many (.set negated ranges) :: (← readItems total fuel rest)
    | rest => return .one (.set negated ranges) :: (← readItems total fuel rest)
  | fuel + 1, c :: rest => do return .one (.only c) :: (← readItems total fuel rest)

def compile (pattern : List Char) : Except Fault (List Item) :=
  let expansion := expand pattern
  readItems expansion.length expansion.length expansion

/-- Whether the whole text matches the items. -/
def accepts : List Item → List Char → Bool
  | [], s => s.isEmpty
  | .one k :: items, s =>
    match s with
    | [] => false
    | c :: rest => k.has c && accepts items rest
  | .many k :: items, s =>
    accepts items s ||
      match s with
      | [] => false
      | c :: rest => k.has c && accepts (.many k :: items) rest
  | .directories :: items, s =>
    accepts items s || (List.range s.length).any fun n =>
      s[n]? == some '/' && (s.take n).all (· != '\n') && accepts items (s.drop (n + 1))
termination_by items s => (items.length, s.length)

end DocAtlas.Glob
