import ModuleGlue.Text.Hexadecimal

/-!
Contract: text as bytes of UTF-8.

A character takes one to four bytes. The first byte tells how many, and together with the range of
the second byte it rules out surrogates, overlong forms and points beyond the last one. Reading
stops at the first byte that no text can have at its place.

Owns: writing characters, reading bytes, and what is said of bytes that cannot be read.

Does not own: line ends, and marks at the start of a text.
-/

namespace ModuleGlue.Text.Utf8

def encode (text : List Char) : List UInt8 := text.flatMap String.utf8EncodeChar

inductive Reason where
  /-- No character begins with this byte. -/
  | start
  /-- The next byte is not one that may follow. -/
  | continuation
  /-- The text ends within a character. -/
  | truncated
deriving DecidableEq, Repr

def Reason.message : Reason → String
  | .start => "invalid start byte"
  | .continuation => "invalid continuation byte"
  | .truncated => "unexpected end of data"

/-- Bytes that cannot be read: `count` of them from the place `first`, the first of them being
`byte`. -/
structure Fault where
  reason : Reason
  byte : UInt8
  first : Nat
  count : Nat
deriving DecidableEq, Repr

def hexadecimal (byte : UInt8) : String :=
  String.ofList (hexDigits 2 byte.toNat)

def Fault.render (fault : Fault) : String :=
  if fault.count = 1 then
    s!"'utf-8' codec can't decode byte 0x{hexadecimal fault.byte} in position {fault.first}: " ++
      fault.reason.message
  else
    s!"'utf-8' codec can't decode bytes in position {fault.first}-" ++
      s!"{fault.first + fault.count - 1}: {fault.reason.message}"

/-- A character of which some bytes are still to come. -/
structure Pending where
  /-- Its first byte. -/
  lead : UInt8
  /-- The place of its first byte. -/
  first : Nat
  /-- The number of bytes that have come. -/
  taken : Nat
  /-- The number of bytes still to come after the next one. -/
  owed : Nat
  /-- The least that the next byte may be. -/
  low : Nat
  /-- The greatest that the next byte may be. -/
  high : Nat
  /-- The bits that have come. -/
  bits : Nat
deriving DecidableEq, Repr

/-- A character that begins with a byte above ASCII, if one does. -/
def Pending.ofLead? (lead : UInt8) (first : Nat) : Option Pending :=
  let byte := lead.toNat
  if 0xC2 ≤ byte ∧ byte ≤ 0xDF then some ⟨lead, first, 1, 0, 0x80, 0xBF, byte - 0xC0⟩
  else if byte = 0xE0 then some ⟨lead, first, 1, 1, 0xA0, 0xBF, 0⟩
  else if byte = 0xED then some ⟨lead, first, 1, 1, 0x80, 0x9F, 0xD⟩
  else if 0xE1 ≤ byte ∧ byte ≤ 0xEF then some ⟨lead, first, 1, 1, 0x80, 0xBF, byte - 0xE0⟩
  else if byte = 0xF0 then some ⟨lead, first, 1, 2, 0x90, 0xBF, 0⟩
  else if byte = 0xF4 then some ⟨lead, first, 1, 2, 0x80, 0x8F, 4⟩
  else if 0xF1 ≤ byte ∧ byte ≤ 0xF3 then some ⟨lead, first, 1, 2, 0x80, 0xBF, byte - 0xF0⟩
  else none

def Pending.fault (pending : Pending) (reason : Reason) : Fault :=
  ⟨reason, pending.lead, pending.first, pending.taken⟩

/-- The characters read so far, last first, and where reading stands. -/
structure Reader where
  text : List Char
  position : Nat
  pending : Option Pending
deriving Repr

def Reader.read (reader : Reader) (byte : UInt8) : Except Fault Reader :=
  let position := reader.position + 1
  match reader.pending with
  | none =>
    if byte.toNat < 0x80 then .ok ⟨Char.ofNat byte.toNat :: reader.text, position, none⟩
    else
      match Pending.ofLead? byte reader.position with
      | some pending => .ok ⟨reader.text, position, some pending⟩
      | none => .error ⟨.start, byte, reader.position, 1⟩
  | some pending =>
    if pending.low ≤ byte.toNat ∧ byte.toNat ≤ pending.high then
      let bits := pending.bits * 0x40 + (byte.toNat - 0x80)
      match pending.owed with
      | 0 => .ok ⟨Char.ofNat bits :: reader.text, position, none⟩
      | owed + 1 =>
        .ok ⟨reader.text, position,
          some ⟨pending.lead, pending.first, pending.taken + 1, owed, 0x80, 0xBF, bits⟩⟩
    else .error (pending.fault .continuation)

/-- The text that has been read, unless it ends within a character. -/
def Reader.finish (reader : Reader) : Except Fault (List Char) :=
  match reader.pending with
  | none => .ok reader.text.reverse
  | some pending => .error (pending.fault .truncated)

def decode (bytes : List UInt8) : Except Fault (List Char) :=
  (bytes.foldlM Reader.read ⟨[], 0, none⟩).bind Reader.finish

end ModuleGlue.Text.Utf8
