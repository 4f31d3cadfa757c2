import Masthead.Text.Basic

/-!
# UTF-8

Texts are stored as UTF-8.  Decoding refuses every sequence that encoding does not produce and
says where the first one stands, how many bytes it takes up and what is wrong with it.
-/

namespace Masthead

namespace Utf8

/-- What is wrong with a byte sequence. -/
inductive Fault
  | invalidStart
  | invalidContinuation
  | truncated
  deriving DecidableEq

/-- A faulty byte sequence: its first position, how many bytes it takes up, and its first byte. -/
structure Error where
  fault : Fault
  position : Nat
  count : Nat
  byte : UInt8
  deriving DecidableEq

def Fault.message : Fault → String
  | invalidStart => "invalid start byte"
  | invalidContinuation => "invalid continuation byte"
  | truncated => "unexpected end of data"

/-- A byte in two lower case hexadecimal digits. -/
def hexByte (byte : UInt8) : String :=
  String.ofList [Nat.digitChar (byte.toNat / 16), Nat.digitChar (byte.toNat % 16)]

/-- The wording of an error; a sequence of several bytes is shown by its two ends. -/
def Error.message (error : Error) : String :=
  let place :=
    if error.count == 1 then
      "byte 0x" ++ hexByte error.byte ++ " in position " ++ toString error.position
    else
      "bytes in position " ++ toString error.position ++ "-" ++
        toString (error.position + error.count - 1)
  "'utf-8' codec can't decode " ++ place ++ ": " ++ error.fault.message

/-- A byte that continues a sequence with the last six bits of a number. -/
def continuation (bits : Nat) : UInt8 := UInt8.ofNat (0x80 + bits % 0x40)

def encodeChar (c : Char) : List UInt8 :=
  let code := c.toNat
  if code < 0x80 then [UInt8.ofNat code]
  else if code < 0x800 then [UInt8.ofNat (0xC0 + code / 0x40), continuation code]
  else if code < 0x10000 then
    [UInt8.ofNat (0xE0 + code / 0x1000), continuation (code / 0x40), continuation code]
  else
    [UInt8.ofNat (0xF0 + code / 0x40000), continuation (code / 0x1000),
      continuation (code / 0x40), continuation code]

def encode (text : Text) : List UInt8 := text.flatMap encodeChar

def isContinuation (byte : UInt8) : Bool := 0x80 ≤ byte && byte < 0xC0

/-- Whether a second byte may follow a first one: a continuation that makes the sequence neither
longer than its character needs nor a surrogate nor too large. -/
def mayFollow (first second : UInt8) : Bool :=
  isContinuation second &&
    (if first == 0xE0 then 0xA0 ≤ second
    else if first == 0xED then second < 0xA0
    else if first == 0xF0 then 0x90 ≤ second
    else if first == 0xF4 then second < 0x90
    else true)

/-- The character of a first byte's payload and the continuations after it. -/
def assemble (payload : Nat) (continuations : List UInt8) : Char :=
  Char.ofNat (continuations.foldl (fun code byte => code * 64 + byte.toNat % 64) payload)

/-- Decode bytes that stand at a position. -/
def decodeAt (position : Nat) : List UInt8 → Except Error Text
  | [] => .ok []
  | first :: rest =>
      let refuse (fault : Fault) (count : Nat) : Except Error Text :=
        .error ⟨fault, position, count, first⟩
      if first < 0x80 then
        (decodeAt (position + 1) rest).map (assemble first.toNat [] :: ·)
      else if first < 0xC2 then refuse .invalidStart 1
      else if first < 0xE0 then
        match rest with
        | [] => refuse .truncated 1
        | second :: rest =>
            if mayFollow first second then
              (decodeAt (position + 2) rest).map (assemble (first.toNat % 32) [second] :: ·)
            else refuse .invalidContinuation 1
      else if first < 0xF0 then
        match rest with
        | [] => refuse .truncated 1
        | second :: rest =>
            if mayFollow first second then
              match rest with
              | [] => refuse .truncated 2
              | third :: rest =>
                  if isContinuation third then
                    (decodeAt (position + 3) rest).map
                      (assemble (first.toNat % 16) [second, third] :: ·)
                  else refuse .invalidContinuation 2
            else refuse .invalidContinuation 1
      else if first < 0xF5 then
        match rest with
        | [] => refuse .truncated 1
        | second :: rest =>
            if mayFollow first second then
              match rest with
              | [] => refuse .truncated 2
              | third :: rest =>
                  if isContinuation third then
                    match rest with
                    | [] => refuse .truncated 3
                    | fourth :: rest =>
                        if isContinuation fourth then
                          (decodeAt (position + 4) rest).map
                            (assemble (first.toNat % 8) [second, third, fourth] :: ·)
                        else refuse .invalidContinuation 3
                  else refuse .invalidContinuation 2
            else refuse .invalidContinuation 1
      else refuse .invalidStart 1

def decode (bytes : List UInt8) : Except Error Text := decodeAt 0 bytes

end Utf8

end Masthead
