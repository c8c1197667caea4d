import DocAtlas.Decimal.Shortest
import DocAtlas.Indented.Syntax
import DocAtlas.Power
import DocAtlas.Text.Blank
import DocAtlas.Text.Quoted

/-!
Expressions as text, in one canonical form: parentheses only where the strength of the operators
asks for them, and the quotes that need the fewest escapes.
-/
namespace DocAtlas.Indented.Printer
open Text

inductive Fault where
  /-- A field of a formatted text cannot be written without a backslash. -/
  | backslash
  | tooManyDigits
deriving DecidableEq

def Fault.message : Fault → String
  | .backslash => "Unable to avoid backslash in f-string expression part"
  | .tooManyDigits => "Exceeds the limit (4300 digits) for integer string conversion"

abbrev Printed : Type := Except Fault String

/-! ### Strengths

An operator weaker than its place asks for stands in parentheses.
-/

abbrev Strength : Type := Nat

def Strength.named : Strength := 1
def Strength.tuple : Strength := 2
def Strength.yielding : Strength := 3
def Strength.test : Strength := 4
def Strength.disjunction : Strength := 5
def Strength.conjunction : Strength := 6
def Strength.negation : Strength := 7
def Strength.comparison : Strength := 8
def Strength.bitOr : Strength := 9
def Strength.bitXor : Strength := 10
def Strength.bitAnd : Strength := 11
def Strength.shift : Strength := 12
def Strength.sum : Strength := 13
def Strength.product : Strength := 14
def Strength.factor : Strength := 15
def Strength.power : Strength := 16
def Strength.awaiting : Strength := 17
def Strength.atom : Strength := 18

/-- Parentheses if the place is stronger than the operator. -/
def enclose (place own : Strength) (text : String) : String :=
  if own < place then "(" ++ text ++ ")" else text

def binary : BinaryOp → String × Strength
  | .add => ("+", .sum)
  | .sub => ("-", .sum)
  | .mul => ("*", .product)
  | .matMul => ("@", .product)
  | .div => ("/", .product)
  | .mod => ("%", .product)
  | .floorDiv => ("//", .product)
  | .power => ("**", .power)
  | .shiftLeft => ("<<", .shift)
  | .shiftRight => (">>", .shift)
  | .bitOr => ("|", .bitOr)
  | .bitXor => ("^", .bitXor)
  | .bitAnd => ("&", .bitAnd)

/-- The strengths of the places on both sides of an operator; powers group to the right. -/
def sides (op : BinaryOp) : Strength × Strength :=
  let own := (binary op).2
  if op = .power then (own + 1, own) else (own, own + 1)

def unary : UnaryOp → String × Strength
  | .invert => ("~", .factor)
  | .not => ("not ", .negation)
  | .plus => ("+", .factor)
  | .minus => ("-", .factor)

def boolean : BooleanOp → String × Strength
  | .and => (" and ", .conjunction)
  | .or => (" or ", .disjunction)

def comparator : Comparator → String
  | .equal => "=="
  | .notEqual => "!="
  | .less => "<"
  | .lessEqual => "<="
  | .greater => ">"
  | .greaterEqual => ">="
  | .is => "is"
  | .isNot => "is not"
  | .in => "in"
  | .notIn => "not in"

/-! ### Quoted texts

Texts are lists of code points here, since they may hold ones that are no characters.
-/

def isCharacter (n : Nat) : Bool := n.isValidChar

/-- Whether a code point is shown as it is. -/
def isShown (n : Nat) : Bool := isCharacter n && isPrintable (Char.ofNat n)

def escapePoint (quote : Char) (n : Nat) : List Char :=
  if isCharacter n then Quoted.escape quote (Char.ofNat n) else ['\\', 'u'] ++ Quoted.hexDigits 4 n

def quoteForPoints (s : List Nat) : Char :=
  if s.contains '\''.toNat && !s.contains '"'.toNat then '"' else '\''

/-- A text between the quotes that need the fewest escapes, of the two short ones. -/
def encodePoints (s : List Nat) : List Char :=
  let quote := quoteForPoints s
  quote :: s.flatMap (escapePoint quote) ++ [quote]

def escapeByte (quote : Char) (n : Nat) : List Char :=
  if n < 0x7F then Quoted.escape quote (Char.ofNat n) else ['\\', 'x'] ++ Quoted.hexDigits 2 n

def encodeBytes (s : List Nat) : List Char :=
  let quote := quoteForPoints s
  'b' :: quote :: s.flatMap (escapeByte quote) ++ [quote]

/-- The quotes, in order of preference. -/
def allQuotes : List String := ["'", "\"", "\"\"\"", "'''"]

def isLong (quotes : String) : Bool := quotes.length == 3

/-- Whether a text occurs in another one. -/
def occurs (part : String) (s : List Char) : Bool := (Text.cut? part.toList s).isSome

/-- A code point in a text that may span lines: line feeds and tabs stand for themselves if they
may. -/
def escapeLong (escapeBlanks : Bool) (n : Nat) : List Char :=
  if !escapeBlanks && (n == 9 || n == 10) then [Char.ofNat n]
  else if n == '\\'.toNat then ['\\', '\\']
  else if isShown n then [Char.ofNat n]
  else escapePoint '\\' n

/-- Whether quotes begin with the character that ends a text. -/
def clashes (s : List Char) (quotes : String) : Bool :=
  match s.getLast?, quotes.toList.head? with
  | some a, some b => a == b
  | _, _ => false

/-- The quotes that go with a text, those that clash with its end last. -/
def arrange (s : List Char) (quotes : List String) : List String :=
  quotes.filter (fun q => !clashes s q) ++ quotes.filter (clashes s)

def escapeLast (s : List Char) : List Char :=
  match s.getLast? with
  | some c => s.dropLast ++ ['\\', c]
  | none => s

/-- The inner text with few escapes, and the quotes that may go around it. If none of `quotes` can,
everything is escaped that is escaped between short quotes. -/
def inner (quotes : List String) (escapeBlanks : Bool) (s : List Nat) :
    List Char × List String :=
  let escaped := s.flatMap (escapeLong escapeBlanks)
  let possible := if escaped.contains '\n' then quotes.filter isLong else quotes
  let possible := possible.filter fun q => !occurs q escaped
  if possible.isEmpty then
    let whole := encodePoints s
    let quote := String.ofList (whole.take 1)
    ((whole.drop 1).dropLast, [(quotes.find? (·.toList.contains (quoteForPoints s))).getD quote])
  else
    let possible := arrange escaped possible
    if possible.head?.any (clashes escaped) then (escapeLast escaped, possible)
    else (escaped, possible)

def wrap (quotes : List String) (s : List Char) : String :=
  let q := quotes.headD ""
  q ++ String.ofList s ++ q

/-- A text whose line feeds and tabs stand for themselves. -/
def spread (s : List Nat) : String :=
  let (s, quotes) := inner allQuotes false s
  wrap quotes s

def points (s : String) : List Nat := s.toList.map Char.toNat

/-- Braces of the plain parts of a formatted text are doubled. -/
def doubleBraces (s : List Nat) : List Nat :=
  s.flatMap fun n => if n == '\x7b'.toNat || n == '\x7d'.toNat then [n, n] else [n]

/-- A part of a formatted text, and whether it is plain. -/
structure Part where
  text : List Nat
  plain : Bool

/-- The parts within the quotes that suit all of them, if there are such. -/
def shareQuotes : List String → List Char → List Part → Option (List Char × List String)
  | quotes, seen, [] => some (seen, quotes)
  | quotes, seen, p :: rest =>
    let (s, left) := inner quotes p.plain p.text
    if left.any quotes.contains then shareQuotes left (seen ++ s) rest else none

/-- A part as it is written between triple single quotes if nothing else will do. -/
def forced (p : Part) : List Char := p.text.flatMap (escapePoint '\'')

def joinParts (parts : List Part) : String :=
  match shareQuotes allQuotes [] parts with
  | some (s, quotes) => wrap quotes s
  | none => wrap ["'''"] (parts.flatMap forced)

/-! ### Constants -/

/-- A number too large for a double is written as one. -/
def infinityText : String := "1e309"

def realText (x : Float) : String :=
  let s := Decimal.text x
  if s == "inf" then infinityText else s

/-- Imaginary numbers are written without a vanishing fraction. -/
def imaginaryText (x : Float) : String :=
  let s := realText x
  (if endsWith s ".0" then String.ofList (s.toList.take (s.length - 2)) else s) ++ "j"

def number : Number → Printed
  | .integer n =>
    if tenTo 4300 ≤ n then .error .tooManyDigits else .ok (toString n)
  | .real x => .ok (realText x)
  | .imaginary x => .ok (imaginaryText x)

/-- In fields of formatted texts, texts are written without backslashes if possible. -/
def constant (inField : Bool) : Constant → Printed
  | .none => .ok "None"
  | .true => .ok "True"
  | .false => .ok "False"
  | .ellipsis => .ok "..."
  | .number n => number n
  | .text s marked =>
    .ok ((if marked then "u" else "") ++
      (if inField then spread s else String.ofList (encodePoints s)))
  | .bytes s => .ok (String.ofList (encodeBytes s))

/-- An integer or truth value, after which a point needs a space. -/
def isWhole : Term → Bool
  | .constant (.number (.integer _)) | .constant .true | .constant .false => true
  | _ => false

def commas (ts : List String) : String := String.intercalate ", " ts

/-- Items with commas; a single one is followed by a comma. -/
def commasAfter : List String → String
  | [t] => t ++ ","
  | ts => commas ts

def conversionText : Option Char → String
  | some c => String.ofList ['!', c]
  | none => ""

/-- An expression that begins with a brace is kept apart from the brace of the field. -/
def openField (expression : String) : String :=
  "\x7b" ++ (if startsWith expression "\x7b" then " " else "") ++ expression

/-! ### Expressions -/

mutual

/-- The text of a term at a place of the given strength. -/
def print (inField : Bool) (place : Strength) (t : Term) : Printed :=
  match t with
  | .name _ id => .ok id
  | .constant c => constant inField c
  | .attribute _ value attr => do
    let v ← print inField .atom value
    return v ++ (if isWhole value then " ." else ".") ++ attr
  | .subscript value index => do
    let v ← print inField .atom value
    match index with
    | .tuple (i :: is) => do
      let items ← (i :: is).attach.mapM fun ⟨x, _⟩ => print inField .test x
      return v ++ "[" ++ commasAfter items ++ "]"
    | index => return v ++ "[" ++ (← print inField .test index) ++ "]"
  | .slice lower upper step => do
    let l ← printOptional inField lower
    let u ← printOptional inField upper
    match step with
    | some s => return l ++ ":" ++ u ++ ":" ++ (← print inField .test s)
    | none => return l ++ ":" ++ u
  | .call function arguments keywords => do
    let f ← print inField .atom function
    let args ← arguments.attach.mapM fun ⟨x, _⟩ => print inField .test x
    let named ← keywords.attach.mapM fun ⟨x, _⟩ => print inField .test x
    return f ++ "(" ++ commas (args ++ named) ++ ")"
  | .keyword name value => do
    let v ← print inField .test value
    match name with
    | some n => return n ++ "=" ++ v
    | none => return "**" ++ v
  | .starred value => return "*" ++ (← print inField .bitOr value)
  | .boolean op operands => do
    let (sign, own) := boolean op
    let texts ← operands.attach.mapIdx (fun i x => (i, x)) |>.mapM fun ⟨i, ⟨x, _⟩⟩ =>
      print inField (min (own + 1 + i) .atom) x
    return enclose place own (String.intercalate sign texts)
  | .binary op left right => do
    let (sign, own) := binary op
    let l ← print inField (sides op).1 left
    let r ← print inField (sides op).2 right
    return enclose place own (l ++ " " ++ sign ++ " " ++ r)
  | .unary op operand => do
    let (sign, own) := unary op
    return enclose place own (sign ++ (← print inField own operand))
  | .comparison left ops operands => do
    let l ← print inField (Strength.comparison + 1) left
    let rs ← operands.attach.mapM fun ⟨x, _⟩ => print inField (Strength.comparison + 1) x
    let tail := (ops.zip rs).map fun (op, r) => " " ++ comparator op ++ " " ++ r
    return enclose place .comparison (l ++ String.join tail)
  | .conditional test body otherwise => do
    let b ← print inField (Strength.test + 1) body
    let c ← print inField (Strength.test + 1) test
    let o ← print inField .test otherwise
    return enclose place .test (b ++ " if " ++ c ++ " else " ++ o)
  | .lambda signature body => do
    let s ← printSignature inField signature
    let b ← print inField .test body
    return enclose place .test ("lambda" ++ (if s.isEmpty then "" else " " ++ s) ++ ": " ++ b)
  | .named target value => do
    let n ← print inField .atom target
    let v ← print inField .atom value
    return enclose place .named (n ++ " := " ++ v)
  | .awaited value => return enclose place .awaiting ("await " ++ (← print inField .atom value))
  | .yielded none => return enclose place .yielding "yield"
  | .yielded (some value) =>
    return enclose place .yielding ("yield " ++ (← print inField .atom value))
  | .yieldedFrom value =>
    return enclose place .yielding ("yield from " ++ (← print inField .atom value))
  | .tuple items => do
    let texts ← items.attach.mapM fun ⟨x, _⟩ => print inField .test x
    let inside := commasAfter texts
    return if texts.isEmpty then "()" else enclose place .tuple inside
  | .list items => do
    let texts ← items.attach.mapM fun ⟨x, _⟩ => print inField .test x
    return "[" ++ commas texts ++ "]"
  | .set items => do
    let texts ← items.attach.mapM fun ⟨x, _⟩ => print inField .test x
    return "\x7b" ++ commas texts ++ "\x7d"
  | .dict entries => do
    let texts ← entries.attach.mapM fun ⟨x, _⟩ => print inField .test x
    return "\x7b" ++ commas texts ++ "\x7d"
  | .entry none value => return "**" ++ (← print inField .bitOr value)
  | .entry (some key) value => do
    let k ← print inField .test key
    return k ++ ": " ++ (← print inField .test value)
  | .comprehension kind item clauses => do
    let i ← print inField .test item
    let cs ← clauses.attach.mapM fun ⟨x, _⟩ => print inField .test x
    let text := i ++ String.join cs
    return match kind with
      | .list => "[" ++ text ++ "]"
      | .set => "\x7b" ++ text ++ "\x7d"
      | .generator => "(" ++ text ++ ")"
  | .dictComprehension key value clauses => do
    let k ← print inField .test key
    let v ← print inField .test value
    let cs ← clauses.attach.mapM fun ⟨x, _⟩ => print inField .test x
    return "\x7b" ++ k ++ ": " ++ v ++ String.join cs ++ "\x7d"
  | .clause isAsync target source conditions => do
    let t ← print inField .tuple target
    let s ← print inField (Strength.test + 1) source
    let cs ← conditions.attach.mapM fun ⟨x, _⟩ => print inField (Strength.test + 1) x
    return (if isAsync then " async for " else " for ") ++ t ++ " in " ++ s ++
      String.join (cs.map (" if " ++ ·))
  | .formatted pieces =>
    if inField then do
      let texts ← pieces.attach.mapM fun ⟨x, _⟩ => printPiece x
      return "f" ++ spread texts.flatten
    else do
      let parts ← pieces.attach.mapM fun ⟨x, _⟩ => do
        return Part.mk (← printPiece x) (match x with | .constant _ => true | _ => false)
      return "f" ++ joinParts parts
  | .field .. => .ok ""
termination_by sizeOf t

/-- What stands within the quotes of a formatted text for one of its pieces. -/
def printPiece (t : Term) : Except Fault (List Nat) :=
  match t with
  | .constant (.text s _) => .ok (doubleBraces s)
  | .formatted pieces => return (← pieces.attach.mapM fun ⟨x, _⟩ => printPiece x).flatten
  | .field value conversion layout => do
    let v ← print true (Strength.test + 1) value
    if v.toList.contains '\\' then .error .backslash
    else
      let start := points (openField v ++ conversionText conversion)
      match layout with
      | some l => return start ++ points ":" ++ (← printPiece l) ++ points "\x7d"
      | none => return start ++ points "\x7d"
  | _ => .ok []
termination_by sizeOf t

def printOptional (inField : Bool) (t : Option Term) : Printed :=
  match t with
  | some t => print inField .test t
  | none => .ok ""
termination_by sizeOf t

/-- A parameter, after some stars. -/
def printParameter (inField : Bool) (stars : String) (p : Parameter) : Printed :=
  match p with
  | .mk name typed default => do
    let type ← match typed with
      | some t => do
        let s ← print inField .test t
        pure (": " ++ s)
      | none => pure ""
    let value ← match default with
      | some t => do
        let s ← print inField .test t
        pure ("=" ++ s)
      | none => pure ""
    return stars ++ name ++ type ++ value
termination_by sizeOf p

def printSignature (inField : Bool) (s : Signature) : Printed :=
  match s with
  | .mk only positional rest named namedRest => do
    let os ← only.attach.mapM fun ⟨p, _⟩ => printParameter inField "" p
    let ps ← positional.attach.mapM fun ⟨p, _⟩ => printParameter inField "" p
    let star ← match rest with
      | some p => do
        let s ← printParameter inField "*" p
        pure [s]
      | none => pure (if named.isEmpty then [] else ["*"])
    let ns ← named.attach.mapM fun ⟨p, _⟩ => printParameter inField "" p
    let last ← match namedRest with
      | some p => do
        let s ← printParameter inField "**" p
        pure [s]
      | none => pure []
    return commas (os ++ (if os.isEmpty then [] else ["/"]) ++ ps ++ star ++ ns ++ last)
termination_by sizeOf s

end

end DocAtlas.Indented.Printer

namespace DocAtlas.Indented

/-- The text of an expression that stands for itself. -/
def Term.text (t : Term) : Except Printer.Fault String := Printer.print false .test t

end DocAtlas.Indented
