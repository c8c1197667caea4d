import DocAtlas.Decimal.Reading
import DocAtlas.Order
import DocAtlas.Text.Quoted

/-!
Arguments of a command line. Options may be shortened as long as one of them is meant, take their
value in the same argument or the next one, and short ones without a value may stand together. What
follows two dashes is no option.
-/
namespace DocAtlas.Cli

/-- What an option does to the choices made so far. -/
inductive Action (σ : Type) where
  | help
  | mark (set : σ → σ)
  /-- Takes a value of the named kind. -/
  | value (kind : String) (set : σ → String → Option σ)

structure Flag (σ : Type) where
  names : List String
  action : Action σ

/-- What is wrong with arguments. -/
inductive Complaint where
  | ambiguous (argument : String) (names : List String)
  | missingValue (flag : String)
  | unusedText (flag text : String)
  | badValue (flag kind text : String)
  | unknownCommand (word : String) (known : List String)
  | noCommand
  | unrecognized (arguments : List String)
deriving DecidableEq

def Complaint.message : Complaint → String
  | .ambiguous argument names =>
    "ambiguous option: " ++ argument ++ " could match " ++ String.intercalate ", " names
  | .missingValue flag => "argument " ++ flag ++ ": expected one argument"
  | .unusedText flag text => "argument " ++ flag ++ ": ignored explicit argument " ++ quoted text
  | .badValue flag kind text =>
    "argument " ++ flag ++ ": invalid " ++ kind ++ " value: " ++ quoted text
  | .unknownCommand word known =>
    "argument command: invalid choice: " ++ quoted word ++ " (choose from " ++
      String.intercalate ", " (known.map quoted) ++ ")"
  | .noCommand => "the following arguments are required: command"
  | .unrecognized arguments => "unrecognized arguments: " ++ String.intercalate " " arguments

variable {σ : Type}

def Flag.title (f : Flag σ) : String := String.intercalate "/" f.names

def Flag.takesValue (f : Flag σ) : Bool :=
  match f.action with
  | .value _ _ => true
  | _ => false

def named? (flags : List (Flag σ)) (name : String) : Option (Flag σ) :=
  flags.find? (·.names.contains name)

/-! ### What arguments look like -/

/-- Text that stands with the name of an option in one argument, maybe behind an equality sign. -/
structure Attached where
  behindSign : Bool
  text : List Char

/-- An option that an argument names. -/
structure Spot (σ : Type) where
  flag : Flag σ
  name : String
  attached : Option Attached

inductive Look (σ : Type) where
  | plain
  | dashes
  | option (spot : Spot σ)
  /-- What would be an option, but is none of those that there are. -/
  | unknown

/-- The options of which a long argument is a beginning, up to an equality sign. -/
def longSpots (flags : List (Flag σ)) (argument : List Char) : List (Spot σ) :=
  let (start, attached) : List Char × Option Attached :=
    match Text.cut? ['='] argument with
    | some (before, after) => (before, some ⟨true, after⟩)
    | none => (argument, none)
  flags.flatMap fun f => (f.names.filter (start.isPrefixOf ·.toList)).map fun name =>
    ⟨f, name, attached⟩

/-- The options that the first two characters of an argument name, and those of which it is a
beginning. -/
def shortSpots (flags : List (Flag σ)) (argument : List Char) : List (Spot σ) :=
  flags.flatMap fun f => f.names.filterMap fun name =>
    if name.toList == argument.take 2 then some ⟨f, name, some ⟨false, argument.drop 2⟩⟩
    else if argument.isPrefixOf name.toList then some ⟨f, name, none⟩
    else none

def spots (flags : List (Flag σ)) (argument : List Char) : List (Spot σ) :=
  if ['-', '-'].isPrefixOf argument then longSpots flags argument else shortSpots flags argument

def isDigits (s : List Char) : Bool :=
  !s.isEmpty && s.all fun c => Text.isAsciiDigit (Decimal.plainDigit c)

/-- A minus sign and digits, maybe with a point before the last of them; a line feed may follow. -/
def isNegativeNumber (argument : List Char) : Bool :=
  match argument with
  | '-' :: rest =>
    let body := if rest.getLast? == some '\n' then rest.dropLast else rest
    match Text.cut? ['.'] body with
    | some (whole, fraction) => (whole.isEmpty || isDigits whole) && isDigits fraction
    | none => isDigits body
  | _ => false

/-- The option whose whole name stands in an argument, by itself or before an equality sign. -/
def exactSpot? (flags : List (Flag σ)) (argument : String) : Option (Spot σ) :=
  match named? flags argument with
  | some f => some ⟨f, argument, none⟩
  | none =>
    match Text.cut? ['='] argument.toList with
    | none => none
    | some (before, after) =>
      (named? flags (String.ofList before)).map fun f =>
        ⟨f, String.ofList before, some ⟨true, after⟩⟩

def look (flags : List (Flag σ)) (argument : String) : Except Complaint (Look σ) :=
  if argument.length < 2 || !startsWith argument "-" then .ok .plain
  else
    match exactSpot? flags argument with
    | some spot => .ok (.option spot)
    | none =>
      match spots flags argument.toList with
      | [] =>
        if isNegativeNumber argument.toList || argument.toList.contains ' ' then .ok .plain
        else .ok .unknown
      | [spot] => .ok (.option spot)
      | several => .error (.ambiguous argument (several.map (·.name)))

/-- The arguments with what they look like. -/
def looks (flags : List (Flag σ)) : List String → Except Complaint (List (String × Look σ))
  | [] => .ok []
  | argument :: rest => do
    if argument == "--" then return ("--", .dashes) :: rest.map fun a => (a, .plain)
    else return (argument, ← look flags argument) :: (← looks flags rest)

/-! ### What an argument with options asks for -/

/-- What the last option of an argument asks for. -/
inductive Ask (σ : Type) where
  | nothing
  /-- There is no such option. -/
  | leftover (argument : String)
  /-- A value, which is given here or else is the next argument. -/
  | value (flag : Flag σ) (text : Option String)

/-- The options without a value that an argument names, and what the last one asks for. -/
structure Request (σ : Type) where
  marks : List (Flag σ)
  last : Ask σ

def unusedText {α : Type} (f : Flag σ) (text : List Char) : Except Complaint α :=
  .error (.unusedText f.title (String.ofList text))

def requestAlone (f : Flag σ) : Request σ :=
  if f.takesValue then ⟨[], .value f none⟩ else ⟨[f], .nothing⟩

/-- A short option with text attached, which may name further short options. -/
def requestShort (flags : List (Flag σ)) (f : Flag σ) (behindSign : Bool) :
    List Char → Except Complaint (Request σ)
  | [] => if f.takesValue then .ok ⟨[], .value f (some "")⟩ else unusedText f []
  | c :: rest =>
    if f.takesValue then .ok ⟨[], .value f (some (String.ofList (c :: rest)))⟩
    else if behindSign || c == '-' then unusedText f (c :: rest)
    else
      match named? flags (String.ofList ['-', c]) with
      | none => .ok ⟨[f], .leftover (String.ofList ('-' :: c :: rest))⟩
      | some next => do
        let r ← match rest with
          | [] => .ok (requestAlone next)
          | '=' :: text => requestShort flags next true text
          | d :: text => requestShort flags next false (d :: text)
        return { r with marks := f :: r.marks }
termination_by text => text.length

def Spot.isShort (s : Spot σ) : Bool := !startsWith s.name "--"

def Spot.request (flags : List (Flag σ)) (s : Spot σ) : Except Complaint (Request σ) :=
  match s.attached with
  | none => .ok (requestAlone s.flag)
  | some a =>
    if s.isShort then requestShort flags s.flag a.behindSign a.text
    else if s.flag.takesValue then .ok ⟨[], .value s.flag (some (String.ofList a.text))⟩
    else unusedText s.flag a.text

/-! ### Reading all arguments -/

/-- Why the reading of arguments ends early. -/
inductive Stop where
  | help
  | wrong (c : Complaint)

/-- What an argument that is no option may be. -/
inductive Slot (σ : Type) where
  | closed
  | text (set : σ → String → σ)
  /-- A command, which takes all further arguments. -/
  | command

/-- The choices made, the arguments that nothing takes, and a command with its arguments. -/
structure Reading (σ : Type) where
  choices : σ
  extras : List String := []
  command : Option (List String) := none

def Flag.give (f : Flag σ) (s : σ) (text : String) : Except Stop σ :=
  match f.action with
  | .help => .error .help
  | .mark set => .ok (set s)
  | .value kind set =>
    match set s text with
    | some s => .ok s
    | none => .error (.wrong (.badValue f.title kind text))

def applyMarks (marks : List (Flag σ)) (s : σ) : Except Stop σ :=
  marks.foldlM (fun s f => f.give s "") s

def complained {α : Type} (r : Except Complaint α) : Except Stop α :=
  match r with
  | .ok a => .ok a
  | .error c => .error (.wrong c)

def Reading.leave (r : Reading σ) (argument : String) : Reading σ :=
  { r with extras := r.extras ++ [argument] }

/-- Carries out a request; the rest of the arguments follows, of which one may be its value. -/
def fulfil (request : Request σ) (r : Reading σ) (rest : List (String × Look σ)) :
    Except Stop (Reading σ × List (String × Look σ)) :=
  match request.last with
  | .nothing => do return ({ r with choices := ← applyMarks request.marks r.choices }, rest)
  | .leftover argument => do
    return ({ r with choices := ← applyMarks request.marks r.choices }.leave argument, rest)
  | .value f (some text) => do
    return ({ r with choices := ← f.give (← applyMarks request.marks r.choices) text }, rest)
  | .value f none =>
    match rest with
    | (text, .plain) :: rest => do
      return ({ r with choices := ← f.give (← applyMarks request.marks r.choices) text }, rest)
    | _ => .error (.wrong (.missingValue f.title))

/-- Two dashes after a text belong to it. -/
def dropDashes : List (String × Look σ) → List (String × Look σ)
  | (_, .dashes) :: rest => rest
  | rest => rest

/-- Reads argument after argument; each step takes one at least. -/
def readFrom (flags : List (Flag σ)) :
    Nat → Slot σ → Reading σ → List (String × Look σ) → Except Stop (Reading σ)
  | 0, _, r, _ => .ok r
  | _, _, r, [] => .ok r
  | fuel + 1, slot, r, (argument, .unknown) :: rest =>
    readFrom flags fuel slot (r.leave argument) rest
  | fuel + 1, slot, r, (_, .option spot) :: rest => do
    let (r, rest) ← fulfil (← complained (spot.request flags)) r rest
    readFrom flags fuel slot r rest
  | fuel + 1, .closed, r, (argument, _) :: rest =>
    readFrom flags fuel .closed (r.leave argument) rest
  | fuel + 1, .text set, r, (argument, .plain) :: rest =>
    readFrom flags fuel .closed { r with choices := set r.choices argument } (dropDashes rest)
  | fuel + 1, .text set, r, (_, .dashes) :: rest =>
    match rest with
    | [] => .ok r
    | (argument, _) :: rest =>
      readFrom flags fuel .closed { r with choices := set r.choices argument } rest
  | _ + 1, .command, r, (argument, .plain) :: rest =>
    .ok { r with command := some (argument :: rest.map Prod.fst) }
  | _ + 1, .command, r, (argument, .dashes) :: rest =>
    if rest.isEmpty then .ok (r.leave argument)
    else .ok { r with command := some (argument :: rest.map Prod.fst) }

def read (flags : List (Flag σ)) (slot : Slot σ) (choices : σ) (arguments : List String) :
    Except Stop (Reading σ) := do
  let ls ← complained (looks flags arguments)
  readFrom flags ls.length slot { choices := choices } ls

end DocAtlas.Cli
