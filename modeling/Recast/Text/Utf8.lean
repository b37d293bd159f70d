import Recast.Text.Basic

/-!
# UTF-8

`decode?` reads bytes as text, unless some of them are none; `fault?` tells where they stop being
text. `encode` writes the bytes of a text.
-/

namespace Recast.Text.Utf8

def isContinuation (b : UInt8) : Bool := 0x80 ≤ b && b ≤ 0xBF

def low (b : UInt8) : Nat := b.toNat % 64

/-- The bounds of the second byte after a lead byte of a longer sequence; they leave out overlong
forms, surrogates and code points above U+10FFFF. -/
def secondBounds (lead : UInt8) : UInt8 × UInt8 :=
  if lead == 0xE0 then (0xA0, 0xBF)
  else if lead == 0xED then (0x80, 0x9F)
  else if lead == 0xF0 then (0x90, 0xBF)
  else if lead == 0xF4 then (0x80, 0x8F)
  else (0x80, 0xBF)

/-- The character that a lead byte and the bytes after it begin with, and its length. -/
def next? (lead : UInt8) (rest : List UInt8) : Option (Char × Nat) :=
  let (lo, hi) := secondBounds lead
  if lead < 0x80 then some (Char.ofNat lead.toNat, 1)
  else if lead < 0xC2 then none
  else match rest with
    | [] => none
    | b :: rest =>
      if !(lo ≤ b && b ≤ hi) then none
      else if lead < 0xE0 then some (Char.ofNat (lead.toNat % 32 * 64 + low b), 2)
      else match rest with
        | [] => none
        | c :: rest =>
          if !isContinuation c then none
          else if lead < 0xF0 then
            some (Char.ofNat (lead.toNat % 16 * 4096 + low b * 64 + low c), 3)
          else match rest with
            | [] => none
            | d :: _ =>
              if lead < 0xF5 && isContinuation d then
                some (Char.ofNat (lead.toNat % 8 * 262144 + low b * 4096 + low c * 64 + low d), 4)
              else none

/-- Reads bytes of which the first `skip` belong to the character before. -/
def decodeFrom? : (skip : Nat) → List UInt8 → Option (List Char)
  | _, [] => some []
  | skip + 1, _ :: bytes => decodeFrom? skip bytes
  | 0, b :: bytes =>
    match next? b bytes with
    | some (c, length) => (decodeFrom? (length - 1) bytes).map (c :: ·)
    | none => none

/-- The text that the bytes encode. -/
def decode? (bytes : List UInt8) : Option (List Char) := decodeFrom? 0 bytes

/-- Bytes that are no text. -/
structure Fault where
  /-- The number of bytes that are text. -/
  place : Nat
  /-- The length of the sequence that cannot be completed, unless the bytes end inside of it. -/
  length : Option Nat
deriving DecidableEq, Repr

/-- How many of the bytes after a lead byte can belong to its character. -/
def wanted (lead : UInt8) : Nat :=
  if lead < 0xC2 then 0 else if lead < 0xE0 then 1 else if lead < 0xF0 then 2
  else if lead < 0xF5 then 3 else 0

/-- The length of what a lead byte begins when no character follows it, unless the bytes end
there. -/
def brokenLength? (lead : UInt8) (rest : List UInt8) : Option Nat :=
  let (lo, hi) := secondBounds lead
  let fits := match rest with
    | [] => 0
    | b :: rest => if lo ≤ b && b ≤ hi then 1 + (rest.takeWhile isContinuation).length else 0
  if fits < wanted lead && fits == rest.length then none
  else some (1 + min fits (wanted lead))

/-- Looks for a fault in bytes of which the first `skip` belong to the character before. -/
def faultFrom? : (place skip : Nat) → List UInt8 → Option Fault
  | _, _, [] => none
  | place, skip + 1, _ :: bytes => faultFrom? (place + 1) skip bytes
  | place, 0, b :: bytes =>
    match next? b bytes with
    | some (_, length) => faultFrom? (place + 1) (length - 1) bytes
    | none => some ⟨place, brokenLength? b bytes⟩

/-- The first place where bytes are no text. -/
def fault? (bytes : List UInt8) : Option Fault := faultFrom? 0 0 bytes

def Fault.message (f : Fault) : String :=
  match f.length with
  | some n => "invalid utf-8 sequence of " ++ toString n ++ " bytes from index " ++ toString f.place
  | none => "incomplete utf-8 byte sequence from index " ++ toString f.place

/-- The bytes of a string. -/
def encode (s : String) : List UInt8 := s.toUTF8.toList

end Recast.Text.Utf8
