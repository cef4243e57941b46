import VolatilityDesk.Text.Quoted
/-!
# Reading text from bytes

A file is a sequence of bytes and its text is what they encode. `Utf8.decode` reads characters as
far as the bytes allow and then says what stopped it. Only shortest encodings of characters are
accepted, so surrogates and overlong forms are faults.

The bytes come in blocks, and a block with a fault in it gives nothing: the text then ends with the
block before. The first bytes of a character that a block cuts off are read again with the next
block, and the positions in a fault are counted from there.
-/

namespace VolatilityDesk.Text

/-- What is wrong with bytes that encode no character. -/
inductive Utf8Fault where
  /-- The byte starts no encoding. -/
  | start (byte position : Nat)
  /-- The bytes from a position on begin an encoding that the next byte does not continue. -/
  | continuation (byte position length : Nat)
  /-- The last bytes begin an encoding that the end cuts off. -/
  | truncated (byte length : Nat)
  deriving DecidableEq, Repr

namespace Utf8Fault

/-- The place of the faulty bytes. -/
def place (byte position length : Nat) : String :=
  if length = 1 then
    s!"byte 0x" ++ String.ofList (hexDigits 2 byte) ++ s!" in position {position}"
  else s!"bytes in position {position}-{position + length - 1}"

/-- The message about a fault. Bytes that the end cuts off are counted from their own start. -/
def message : Utf8Fault → String
  | start byte position =>
    "'utf-8' codec can't decode " ++ place byte position 1 ++ ": invalid start byte"
  | continuation byte position length =>
    "'utf-8' codec can't decode " ++ place byte position length ++ ": invalid continuation byte"
  | truncated byte length =>
    "'utf-8' codec can't decode " ++ place byte 0 length ++ ": unexpected end of data"

end Utf8Fault

namespace Utf8

/-- How the bytes of a character go on: the bits of the first byte, and the range of the second
byte and the number of bytes behind it. -/
structure Lead where
  bits : Nat
  low : Nat
  high : Nat
  further : Nat

/-- What a first byte announces, `none` when no character starts with it. -/
def lead? (byte : Nat) : Option Lead :=
  if 0xC2 ≤ byte ∧ byte ≤ 0xDF then some ⟨byte - 0xC0, 0x80, 0xBF, 0⟩
  else if byte = 0xE0 then some ⟨0, 0xA0, 0xBF, 1⟩
  else if byte = 0xED then some ⟨0xD, 0x80, 0x9F, 1⟩
  else if 0xE1 ≤ byte ∧ byte ≤ 0xEF then some ⟨byte - 0xE0, 0x80, 0xBF, 1⟩
  else if byte = 0xF0 then some ⟨0, 0x90, 0xBF, 2⟩
  else if 0xF1 ≤ byte ∧ byte ≤ 0xF3 then some ⟨byte - 0xF0, 0x80, 0xBF, 2⟩
  else if byte = 0xF4 then some ⟨4, 0x80, 0x8F, 2⟩
  else none

/-- What is being read: nothing begun, or a character of which some bytes are read. -/
inductive State where
  | between
  | within (first value read low high further : Nat)

/-- The number of bytes in a block. -/
def blockSize : Nat := 8192

/-- How far the reading has come. -/
structure Progress where
  /-- The characters read so far, the last one first. -/
  read : List Char := []
  /-- Those of them that were read from earlier blocks. -/
  settled : List Char := []
  /-- The bytes read since the start of what is decoded together. -/
  position : Nat := 0
  /-- The bytes left in the block. -/
  left : Nat := blockSize

namespace Progress

/-- At the end of a block the next one begins; some bytes of a character may be carried over. -/
def renew (p : Progress) (carried : Nat) : Progress :=
  if p.left = 0 then { read := p.read, settled := p.read, position := carried } else p

/-- One byte further. -/
def pass (p : Progress) : Progress := { p with position := p.position + 1, left := p.left - 1 }

/-- One byte further, which completes a character. -/
def complete (p : Progress) (code : Nat) : Progress :=
  { p.pass with read := Char.ofNat code :: p.read }

end Progress

/-- Text read from bytes, and the fault that ended it. -/
structure Decoded where
  text : List Char
  fault : Option Utf8Fault

/-- Reads characters from bytes. -/
def scan (p : Progress) : State → List Nat → Decoded
  | .between, [] => ⟨p.read.reverse, none⟩
  | .within first _ count _ _ _, [] => ⟨p.read.reverse, some (.truncated first count)⟩
  | .between, byte :: rest =>
    let p := p.renew 0
    if byte < 0x80 then scan (p.complete byte) .between rest
    else match lead? byte with
      | none => ⟨p.settled.reverse, some (.start byte p.position)⟩
      | some lead =>
        scan p.pass (.within byte lead.bits 1 lead.low lead.high lead.further) rest
  | .within first value count low high further, byte :: rest =>
    let p := p.renew count
    if low ≤ byte ∧ byte ≤ high then
      let value := value * 64 + (byte - 0x80)
      match further with
      | 0 => scan (p.complete value) .between rest
      | further + 1 => scan p.pass (.within first value (count + 1) 0x80 0xBF further) rest
    else ⟨p.settled.reverse, some (.continuation first (p.position - count) count)⟩

/-- The characters that the bytes encode, up to the first fault. -/
def decode (bytes : List Nat) : Decoded := scan {} .between bytes

end Utf8

end VolatilityDesk.Text
