import DocAtlas.Json.Basic
import DocAtlas.Decimal.Shortest
import DocAtlas.Text.Quoted

/-!
Written values: all on one line, or one item a line and indented by two blanks a level. Every
character beyond ASCII is escaped.
-/
namespace DocAtlas.Json

def escapeUnit (n : Nat) : List Char := ['\\', 'u'] ++ Text.Quoted.hexDigits 4 n

def escape (c : Char) : List Char :=
  if c == '"' then ['\\', '"']
  else if c == '\\' then ['\\', '\\']
  else if c == '\n' then ['\\', 'n']
  else if c == '\r' then ['\\', 'r']
  else if c == '\t' then ['\\', 't']
  else if c.toNat == 8 then ['\\', 'b']
  else if c.toNat == 12 then ['\\', 'f']
  else if 32 ≤ c.toNat && c.toNat < 127 then [c]
  else if c.toNat < 0x10000 then escapeUnit c.toNat
  else
    let n := c.toNat - 0x10000
    escapeUnit (0xD800 + n / 0x400) ++ escapeUnit (0xDC00 + n % 0x400)

def quote (s : String) : String := String.ofList ('"' :: s.toList.flatMap escape ++ ['"'])

def number (x : Float) : String :=
  match Decimal.shape x with
  | .undefined => "NaN"
  | .infinite negative => if negative then "-Infinity" else "Infinity"
  | .finite _ _ => Decimal.text x

mutual

def compact : Json → String
  | .null => "null"
  | .bool b => if b then "true" else "false"
  | .int n => toString n
  | .float x => number x
  | .text s => quote s
  | .list items => "[" ++ String.intercalate "," (compactAll items) ++ "]"
  | .object fields => "\x7b" ++ String.intercalate "," (compactFields fields) ++ "\x7d"

def compactAll : List Json → List String
  | [] => []
  | j :: rest => compact j :: compactAll rest

def compactFields : List (String × Json) → List String
  | [] => []
  | (key, j) :: rest => (quote key ++ ":" ++ compact j) :: compactFields rest

end

def newline (depth : Nat) : String := "\n" ++ String.ofList (List.replicate (2 * depth) ' ')

/-- Items between brackets, each on a line of its own. -/
def layout (depth : Nat) (opening closing : String) (items : List String) : String :=
  if items.isEmpty then opening ++ closing
  else
    opening ++ newline (depth + 1) ++ String.intercalate ("," ++ newline (depth + 1)) items ++
      newline depth ++ closing

mutual

def indented (depth : Nat) : Json → String
  | .list items => layout depth "[" "]" (indentedAll (depth + 1) items)
  | .object fields => layout depth "\x7b" "\x7d" (indentedFields (depth + 1) fields)
  | .null => "null"
  | .bool b => if b then "true" else "false"
  | .int n => toString n
  | .float x => number x
  | .text s => quote s

def indentedAll (depth : Nat) : List Json → List String
  | [] => []
  | j :: rest => indented depth j :: indentedAll depth rest

def indentedFields (depth : Nat) : List (String × Json) → List String
  | [] => []
  | (key, j) :: rest => (quote key ++ ": " ++ indented depth j) :: indentedFields depth rest

end

end DocAtlas.Json
