/-! Texts as bytes in UTF-8, and bytes read as texts, with the place and length of the first
fault. -/
namespace IncidentBoard.Text

/-- The bytes of a text. -/
def bytes (s : String) : List UInt8 := s.toUTF8.data.toList

namespace Utf8

/-- `length` counts the bytes of a faulty sequence; `none` says that the input ends inside one. -/
structure Fault where
  index : Nat
  length : Option Nat
  deriving DecidableEq, Repr

def Fault.message (f : Fault) : String :=
  match f.length with
  | some n => s!"invalid utf-8 sequence of {n} bytes from index {f.index}"
  | none => s!"incomplete utf-8 byte sequence from index {f.index}"

def isContinuation (b : Nat) : Bool := 0x80 ≤ b && b < 0xc0

/-- The second bytes that may follow a lead byte of a longer sequence: they keep out overlong forms,
surrogates and numbers past the last code point. -/
def isSecond (lead b : Nat) : Bool :=
  if lead = 0xe0 then 0xa0 ≤ b && b < 0xc0
  else if lead = 0xed then 0x80 ≤ b && b < 0xa0
  else if lead = 0xf0 then 0x90 ≤ b && b < 0xc0
  else if lead = 0xf4 then 0x80 ≤ b && b < 0x90
  else isContinuation b

def decodeFrom (index : Nat) : List Nat → Except Fault (List Char)
  | [] => .ok []
  | b :: rest =>
    if b < 0x80 then do
      let cs ← decodeFrom (index + 1) rest
      return Char.ofNat b :: cs
    else if 0xc2 ≤ b ∧ b < 0xe0 then
      match rest with
      | [] => .error ⟨index, none⟩
      | c :: rest =>
        if !isContinuation c then .error ⟨index, some 1⟩
        else do
          let cs ← decodeFrom (index + 2) rest
          return Char.ofNat ((b % 32) * 64 + c % 64) :: cs
    else if 0xe0 ≤ b ∧ b < 0xf0 then
      match rest with
      | [] => .error ⟨index, none⟩
      | c :: rest =>
        if !isSecond b c then .error ⟨index, some 1⟩
        else match rest with
          | [] => .error ⟨index, none⟩
          | d :: rest =>
            if !isContinuation d then .error ⟨index, some 2⟩
            else do
              let cs ← decodeFrom (index + 3) rest
              return Char.ofNat (((b % 16) * 64 + c % 64) * 64 + d % 64) :: cs
    else if 0xf0 ≤ b ∧ b < 0xf5 then
      match rest with
      | [] => .error ⟨index, none⟩
      | c :: rest =>
        if !isSecond b c then .error ⟨index, some 1⟩
        else match rest with
          | [] => .error ⟨index, none⟩
          | d :: rest =>
            if !isContinuation d then .error ⟨index, some 2⟩
            else match rest with
              | [] => .error ⟨index, none⟩
              | e :: rest =>
                if !isContinuation e then .error ⟨index, some 3⟩
                else do
                  let cs ← decodeFrom (index + 4) rest
                  return Char.ofNat ((((b % 8) * 64 + c % 64) * 64 + d % 64) * 64 + e % 64) :: cs
    else .error ⟨index, some 1⟩

def decode (bytes : List UInt8) : Except Fault String :=
  (decodeFrom 0 (bytes.map UInt8.toNat)).map String.ofList

end Utf8

end IncidentBoard.Text
