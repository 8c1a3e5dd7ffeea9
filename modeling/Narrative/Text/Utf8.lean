/-
Module: Narrative.Text.Utf8
Purpose: Reading text from bytes, with an account of the first bytes that are no text.
Main exports: Utf8Fault, Utf8Fault.message, decodeUtf8
-/
import Narrative.Numeral.Power
import Narrative.Text.Quoted

namespace Narrative.Text

/-- Why bytes are no text. -/
inductive Utf8Reason where
  | start
  | continuation
  | truncated
deriving Repr, DecidableEq

/-- The first bytes that are no text: their position, the first of them, their number, and what is
wrong. -/
structure Utf8Fault where
  position : Nat
  byte : Nat
  count : Nat
  reason : Utf8Reason
deriving Repr, DecidableEq

/-- The reason in words. -/
def Utf8Reason.text : Utf8Reason → String
  | .start => "invalid start byte"
  | .continuation => "invalid continuation byte"
  | .truncated => "unexpected end of data"

/-- The fault in words. -/
def Utf8Fault.message (fault : Utf8Fault) : String :=
  let place :=
    if fault.count = 1 then
      "byte 0x" ++ String.ofList (hexDigits 2 fault.byte) ++ " in position " ++
        toString fault.position
    else
      "bytes in position " ++ toString fault.position ++ "-" ++
        toString (fault.position + fault.count - 1)
  "'utf-8' codec can't decode " ++ place ++ ": " ++ fault.reason.text

/-- Whether a byte can continue a character. -/
def continues (byte : Nat) : Bool := 0x80 ≤ byte && byte < 0xc0

/-- The number of bytes after the first byte of a character, and the least and greatest second byte;
none if no character begins so. -/
def leading? (byte : Nat) : Option (Nat × Nat × Nat) :=
  if 0xc2 ≤ byte && byte < 0xe0 then some (1, 0x80, 0xbf)
  else if byte = 0xe0 then some (2, 0xa0, 0xbf)
  else if byte = 0xed then some (2, 0x80, 0x9f)
  else if 0xe1 ≤ byte && byte < 0xf0 then some (2, 0x80, 0xbf)
  else if byte = 0xf0 then some (3, 0x90, 0xbf)
  else if 0xf1 ≤ byte && byte < 0xf4 then some (3, 0x80, 0xbf)
  else if byte = 0xf4 then some (3, 0x80, 0x8f)
  else none

/-- The payload of the first byte of a character that has this many more bytes. -/
def leadingBits (more byte : Nat) : Nat := byte % Numeral.twoTo (6 - more)

/-- Reads the `more` bytes that are missing of a character; `seen` bytes are read already, `code`
holds their bits, and the next byte lies between the bounds. -/
def following (low high : Nat) :
    (more seen code : Nat) → List Nat → Except (Nat × Utf8Reason) (Nat × List Nat)
  | 0, _, code, bytes => .ok (code, bytes)
  | _ + 1, seen, _, [] => .error (seen, .truncated)
  | more + 1, seen, code, byte :: bytes =>
    if low ≤ byte && byte ≤ high then
      following 0x80 0xbf more (seen + 1) (code * 64 + byte % 64) bytes
    else .error (seen, .continuation)

/-- The characters of the bytes from a position on. The first argument bounds the number of
characters. -/
def decodeFrom : (fuel position : Nat) → List Nat → Except Utf8Fault (List Char)
  | 0, _, _ => .ok []
  | _ + 1, _, [] => .ok []
  | fuel + 1, position, byte :: bytes =>
    if byte < 0x80 then do return Char.ofNat byte :: (← decodeFrom fuel (position + 1) bytes)
    else
      match leading? byte with
      | none => .error ⟨position, byte, 1, .start⟩
      | some (more, low, high) =>
        match following low high more 1 (leadingBits more byte) bytes with
        | .error (count, reason) => .error ⟨position, byte, count, reason⟩
        | .ok (code, rest) => do
          return Char.ofNat code :: (← decodeFrom fuel (position + more + 1) rest)

/-- The text that the bytes hold. -/
def decodeUtf8 (bytes : List Nat) : Except Utf8Fault (List Char) :=
  decodeFrom bytes.length 0 bytes

/-- The text with each kind of line end written as a line feed. -/
def unifyLineEnds : List Char → List Char
  | '\r' :: '\n' :: rest => '\n' :: unifyLineEnds rest
  | '\r' :: rest => '\n' :: unifyLineEnds rest
  | c :: rest => c :: unifyLineEnds rest
  | [] => []

end Narrative.Text
