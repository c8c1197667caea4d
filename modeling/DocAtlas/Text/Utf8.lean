import DocAtlas.Power

/-!
Text from bytes. A sequence that is no character is reported, or replaced by one mark for each of
its longest beginnings that could have become a character.
-/
namespace DocAtlas.Text.Utf8

inductive Fault.Reason where
  | badStart
  | badContinuation
  | unexpectedEnd

/-- The `size` bytes from `first` on are no character; `byte` is the first of them. -/
structure Fault where
  first : Nat
  size : Nat
  byte : Nat
  reason : Fault.Reason

def Fault.Reason.text : Fault.Reason → String
  | .badStart => "invalid start byte"
  | .badContinuation => "invalid continuation byte"
  | .unexpectedEnd => "unexpected end of data"

def hexByte (n : Nat) : String := String.ofList [Nat.digitChar (n / 16), Nat.digitChar (n % 16)]

def Fault.message (f : Fault) : String :=
  "'utf-8' codec can't decode " ++
    (if f.size = 1 then "byte 0x" ++ hexByte f.byte ++ " in position " ++ toString f.first
    else "bytes in position " ++ toString f.first ++ "-" ++ toString (f.first + f.size - 1)) ++
    ": " ++ f.reason.text

/-- The least and the greatest second byte after a first one, and how many bytes follow the first.
-/
def form? (first : Nat) : Option (Nat × Nat × Nat) :=
  if first < 0xC2 then none
  else if first < 0xE0 then some (0x80, 0xBF, 1)
  else if first = 0xE0 then some (0xA0, 0xBF, 2)
  else if first = 0xED then some (0x80, 0x9F, 2)
  else if first < 0xF0 then some (0x80, 0xBF, 2)
  else if first = 0xF0 then some (0x90, 0xBF, 3)
  else if first < 0xF4 then some (0x80, 0xBF, 3)
  else if first = 0xF4 then some (0x80, 0x8F, 3)
  else none

/-- The value bits of a first byte that `more` bytes follow. -/
def startBits (first more : Nat) : Nat := first % twoTo (6 - more)

/-- Reads up to `more` further bytes of a character, of which `taken` bytes have been read. -/
def readMore (bytes : ByteArray) (first : Nat) : Nat → Nat → Nat → Nat → Nat → Except Fault Nat
  | 0, _, _, _, value => .ok value
  | more + 1, taken, low, high, value =>
    match bytes[first + taken]? with
    | none => .error ⟨first, taken, (bytes[first]?.map (·.toNat)).getD 0, .unexpectedEnd⟩
    | some b =>
      if low ≤ b.toNat && b.toNat ≤ high then
        readMore bytes first more (taken + 1) 0x80 0xBF (64 * value + b.toNat % 64)
      else .error ⟨first, taken, (bytes[first]?.map (·.toNat)).getD 0, .badContinuation⟩

/-- The character at a position and the number of its bytes. -/
def charAt (bytes : ByteArray) (i : Nat) (b : Nat) : Except Fault (Char × Nat) :=
  if b < 0x80 then .ok (Char.ofNat b, 1)
  else
    match form? b with
    | none => .error ⟨i, 1, b, .badStart⟩
    | some (low, high, more) =>
      match readMore bytes i more 1 low high (startBits b more) with
      | .ok value => .ok (Char.ofNat value, more + 1)
      | .error f => .error f

/-- Reads from position `i` on; `seen` is the text before it, backwards. -/
def decodeFrom (onFault : Fault → Option (List Char → List Char)) (bytes : ByteArray) :
    Nat → Nat → List Char → Except Fault (List Char)
  | 0, _, seen => .ok seen
  | fuel + 1, i, seen =>
    match bytes[i]? with
    | none => .ok seen
    | some b =>
      match charAt bytes i b.toNat with
      | .ok (c, size) => decodeFrom onFault bytes fuel (i + size) (c :: seen)
      | .error f =>
        match onFault f with
        | none => .error f
        | some mend => decodeFrom onFault bytes fuel (i + f.size) (mend seen)

/-- The text of bytes that hold nothing else. -/
def decode (bytes : ByteArray) : Except Fault String :=
  match String.fromUTF8? bytes with
  | some s => .ok s
  | none => (decodeFrom (fun _ => none) bytes (bytes.size + 1) 0 []).map fun cs =>
      String.ofList cs.reverse

def replacement : Char := Char.ofNat 0xFFFD

/-- The text of any bytes, with a mark for what is no character. -/
def decodeReplacing (bytes : ByteArray) : String :=
  match String.fromUTF8? bytes with
  | some s => s
  | none =>
    match decodeFrom (fun _ => some (replacement :: ·)) bytes (bytes.size + 1) 0 [] with
    | .ok cs => String.ofList cs.reverse
    | .error _ => ""

end DocAtlas.Text.Utf8
