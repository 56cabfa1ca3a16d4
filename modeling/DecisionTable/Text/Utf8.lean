import DecisionTable.Text.Quoted

/-!
# Reading UTF-8

Files are byte strings in UTF-8. A byte sequence that is no text is refused at the first place where
no character can be read, with the bytes that were understood up to there.
-/

namespace DecisionTable.Text

/-- Why a character cannot be read. -/
inductive Utf8Cause where
  | invalidStart
  /-- A byte that should continue a character does not. -/
  | invalidContinuation
  /-- The bytes end inside a character. -/
  | unexpectedEnd
deriving DecidableEq, Repr

/-- The place where the reading of a byte string stops. -/
structure Utf8Fault where
  cause : Utf8Cause
  /-- The byte that begins the character that cannot be read. -/
  byte : UInt8
  start : Nat
  /-- The position after the last byte that is to blame. -/
  stop : Nat
deriving DecidableEq, Repr

/-- What a leading byte promises: its payload, the number of bytes to follow, and the range of the
first of them, which is narrower than that of the others where a shorter form exists or where no
character is coded. -/
def utf8Lead (b : Nat) : Option (Nat × Nat × Nat × Nat) :=
  if b < 0x80 then some (b, 0, 0x80, 0xBF)
  else if b < 0xC2 then none
  else if b < 0xE0 then some (b - 0xC0, 1, 0x80, 0xBF)
  else if b < 0xF0 then
    some (b - 0xE0, 2, if b == 0xE0 then 0xA0 else 0x80, if b == 0xED then 0x9F else 0xBF)
  else if b < 0xF5 then
    some (b - 0xF0, 3, if b == 0xF0 then 0x90 else 0x80, if b == 0xF4 then 0x8F else 0xBF)
  else none

/-- The code point that results when `count` further bytes are read, or the cause of the failure
with the number of bytes that were good. The first of the bytes lies between `lo` and `hi`. -/
def utf8Follow (code seen lo hi : Nat) : Nat → List UInt8 → Except (Utf8Cause × Nat) Nat
  | 0, _ => .ok code
  | _ + 1, [] => .error (.unexpectedEnd, seen)
  | count + 1, b :: rest =>
    if lo ≤ b.toNat && b.toNat ≤ hi then
      utf8Follow (64 * code + (b.toNat - 0x80)) (seen + 1) 0x80 0xBF count rest
    else .error (.invalidContinuation, seen)

/-- The characters of a byte string; `skip` bytes of it belong to a character that has been read. -/
def utf8Chars (size position : Nat) (done : List Char) :
    Nat → List UInt8 → Except Utf8Fault (List Char)
  | _, [] => .ok done.reverse
  | skip + 1, _ :: rest => utf8Chars size (position + 1) done skip rest
  | 0, b :: rest =>
    match utf8Lead b.toNat with
    | none => .error ⟨.invalidStart, b, position, position + 1⟩
    | some (payload, count, lo, hi) =>
      match utf8Follow payload 1 lo hi count rest with
      | .ok code => utf8Chars size (position + 1) (Char.ofNat code :: done) count rest
      | .error (.unexpectedEnd, _) => .error ⟨.unexpectedEnd, b, position, size⟩
      | .error (cause, seen) => .error ⟨cause, b, position, position + seen⟩

def ofUtf8 (bytes : List UInt8) : Except Utf8Fault String :=
  (utf8Chars bytes.length 0 [] 0 bytes).map String.ofList

def toUtf8 (s : String) : List UInt8 :=
  s.toUTF8.toList

def Utf8Cause.message : Utf8Cause → String
  | .invalidStart => "invalid start byte"
  | .invalidContinuation => "invalid continuation byte"
  | .unexpectedEnd => "unexpected end of data"

/-- What is wrong and where. -/
def Utf8Fault.message (f : Utf8Fault) : String :=
  let place :=
    if f.stop == f.start + 1 then s!"byte 0x{hex 2 f.byte.toNat} in position {f.start}"
    else s!"bytes in position {f.start}-{f.stop - 1}"
  s!"'utf-8' codec can't decode {place}: {f.cause.message}"

end DecisionTable.Text
