import DocAtlas.Decimal.Reading
import DocAtlas.Json.Basic
import DocAtlas.Order

/-!
Requests for documentation, read from the body of a message. Numbers and truth values may be given
as texts. All that is wrong with a body is told at once.
-/
namespace DocAtlas.Service

/-- What is wrong with a part of a body. -/
inductive Problem where
  | missing
  | notObject
  | notText
  | notList
  | notWhole
  | badWhole
  | wholeTooLarge
  | fraction
  | notFinite
  | notTruth
  | badTruth
  | notReal
  | badReal
deriving DecidableEq

def Problem.label : Problem → String
  | .missing => "missing"
  | .notObject => "model_attributes_type"
  | .notText => "string_type"
  | .notList => "list_type"
  | .notWhole => "int_type"
  | .badWhole => "int_parsing"
  | .wholeTooLarge => "int_parsing_size"
  | .fraction => "int_from_float"
  | .notFinite => "finite_number"
  | .notTruth => "bool_type"
  | .badTruth => "bool_parsing"
  | .notReal => "float_type"
  | .badReal => "float_parsing"

/-- A problem and the way from the body to the part that has it. -/
structure Objection where
  place : List String
  problem : Problem
deriving DecidableEq

structure RuleText where
  pattern : String
  effect : String

structure Request where
  path : String
  rules : List RuleText := []
  most : Option Int := none
  repair : Option Bool := none
  seconds : Option Float := none
  output : Option String := none

/-! ### Values -/

def text : Json → Except Problem String
  | .text s => .ok s
  | _ => .error .notText

/-- The text without its underscores, if those stand singly and between other characters. -/
def dropUnderscores? (s : List Char) : Option (List Char) :=
  let pieces := Text.splitAt '_' s
  if pieces.any (·.isEmpty) then none else some pieces.flatten

/-- The text before a point that only zeros follow. -/
def dropZeroFraction (s : List Char) : List Char :=
  match Text.cut? ['.'] s with
  | some (before, after) => if after.all (· == '0') then before else s
  | none => s

/-- Digits after an optional sign; a negative number has no needless zeros before it. -/
def readWhole? (s : String) : Option Int := do
  let body := dropZeroFraction (Text.trim s.toList)
  let digits ← dropUnderscores? (if body.head? == some '+' then body.drop 1 else body)
  match digits with
  | '-' :: rest =>
    if rest.isEmpty || !rest.all Text.isAsciiDigit || (rest.head? == some '0' && 1 < rest.length)
    then none else some (-(Decimal.digitsValue rest : Int))
  | digits =>
    if digits.isEmpty || !digits.all Text.isAsciiDigit then none
    else some (Decimal.digitsValue digits)

/-- A real number without a fraction, within 64 bits. -/
def wholeOfReal (x : Float) : Except Problem Int :=
  match Decimal.toRat? x with
  | none => .error .notFinite
  | some r =>
    if r.den ≠ 1 then .error .fraction
    else if r.num.natAbs < twoTo 63 then .ok r.num
    else .error .wholeTooLarge

def whole : Json → Except Problem Int
  | .bool b => .ok (if b then 1 else 0)
  | .int n => .ok n
  | .float x => wholeOfReal x
  | .text s =>
    if Decimal.maxDigits < s.length then .error .wholeTooLarge
    else
      match readWhole? s with
      | some n => .ok n
      | none => .error .badWhole
  | _ => .error .notWhole

def truthWords : List (String × Bool) :=
  [("0", false), ("f", false), ("n", false), ("no", false), ("off", false), ("false", false),
    ("1", true), ("t", true), ("y", true), ("on", true), ("yes", true), ("true", true)]

def truthOfWhole (n : Int) : Except Problem Bool :=
  if n = 0 then .ok false else if n = 1 then .ok true else .error .badTruth

def truth : Json → Except Problem Bool
  | .bool b => .ok b
  | .int n => if -(twoTo 63 : Int) ≤ n ∧ n < twoTo 63 then truthOfWhole n else .error .notTruth
  | .float x =>
    match wholeOfReal x with
    | .ok n => truthOfWhole n
    | .error _ => .error .notTruth
  | .text s =>
    match truthWords.lookup (String.ofList (s.toList.map Text.Case.lowerAscii)) with
    | some b => .ok b
    | none => .error .badTruth
  | _ => .error .notTruth

def isPlainNumber (s : List Char) : Bool :=
  s.all fun c => 32 < c.toNat && c.toNat < 127 && c != '_'

/-- A number in ASCII, with blanks around it or underscores within it. -/
def readReal? (s : String) : Option Float :=
  let trimmed := Text.trim s.toList
  if isPlainNumber trimmed then Decimal.readFloat? (String.ofList trimmed)
  else do
    let bare ← dropUnderscores? s.toList
    if isPlainNumber bare then Decimal.readFloat? (String.ofList bare) else none

def real : Json → Except Problem Float
  | .bool b => .ok (if b then 1 else 0)
  | .int n =>
    match Decimal.ofInt? n with
    | some x => .ok x
    | none => .error .notReal
  | .float x => .ok x
  | .text s =>
    match readReal? s with
    | some x => .ok x
    | none => .error .badReal
  | _ => .error .notReal

/-! ### Parts -/

/-- A part that is read, or all that is wrong with it. -/
abbrev Part (α : Type) := Except (List Objection) α

variable {α : Type}

def Part.objections (p : Part α) : List Objection :=
  match p with
  | .ok _ => []
  | .error os => os

def objecting (place : List String) (r : Except Problem α) : Part α :=
  match r with
  | .ok a => .ok a
  | .error problem => .error [⟨place, problem⟩]

/-- A part that must be there. -/
def required (place : List String) (read : Json → Except Problem α) (j : Json) (key : String) :
    Part α :=
  objecting (place ++ [key]) (match j.get? key with
    | some v => read v
    | none => .error .missing)

/-- A part in place of which the default stands. -/
def defaulted (place : List String) (read : Json → Except Problem α) (default : α) (j : Json)
    (key : String) : Part α :=
  match j.get? key with
  | some v => objecting (place ++ [key]) (read v)
  | none => .ok default

/-- A part that may be missing or null. -/
def optional (place : List String) (read : Json → Except Problem α) (j : Json) (key : String) :
    Part (Option α) :=
  defaulted place (fun
    | .null => .ok none
    | v => some <$> read v) none j key

def isObject : Json → Bool
  | .object _ => true
  | _ => false

def rule (place : List String) (j : Json) : Part RuleText :=
  if isObject j then do
    let pattern := required place text j "pattern"
    let effect := defaulted place text "exclude" j "effect"
    match pattern, effect with
    | .ok p, .ok e => .ok ⟨p, e⟩
    | _, _ => .error (pattern.objections ++ effect.objections)
  else .error [⟨place, .notObject⟩]

/-- The values of parts that are all read, or all that is wrong with any. -/
def collect (parts : List (Part α)) : Part (List α) :=
  if (parts.flatMap Part.objections).isEmpty then
    .ok (parts.filterMap fun
      | .ok a => some a
      | .error _ => none)
  else .error (parts.flatMap Part.objections)

def ruleList (place : List String) (j : Json) : Part (List RuleText) :=
  let place := place ++ ["rules"]
  match j.get? "rules" with
  | none => .ok []
  | some (.list items) => collect (items.mapIdx fun i v => rule (place ++ [toString i]) v)
  | some _ => .error [⟨place, .notList⟩]

/-- The request that a body stands for; an empty body is no request. -/
def Request.ofBody (body : Json) : Part Request :=
  let place := ["body"]
  match body with
  | .null => .error [⟨place, .missing⟩]
  | body =>
    if isObject body then
      let path := required place text body "path"
      let rules := ruleList place body
      let most := optional place whole body "max_abstractions"
      let repair := optional place truth body "auto_repair"
      let seconds := optional place real body "deadline"
      let output := optional place text body "output"
      match path, rules, most, repair, seconds, output with
      | .ok p, .ok rs, .ok m, .ok r, .ok s, .ok o => .ok ⟨p, rs, m, r, s, o⟩
      | _, _, _, _, _, _ => .error (path.objections ++ rules.objections ++ most.objections ++
          repair.objections ++ seconds.objections ++ output.objections)
    else .error [⟨place, .notObject⟩]

/-! ### Answers to what is wrong -/

def byParts : List String → List String → Ordering
  | [], [] => .eq
  | [], _ => .lt
  | _, [] => .gt
  | a :: as, b :: bs => if a == b then byParts as bs else if a < b then .lt else .gt

def objectionOrder : Objection → Objection → Ordering :=
  Order.andThen (fun a b => byParts a.place b.place) (Order.byText (·.problem.label))

def Objection.toJson (o : Objection) : Json :=
  .list [Json.texts o.place, .text o.problem.label]

end DocAtlas.Service
