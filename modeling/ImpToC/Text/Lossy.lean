/-! Text from bytes that may not be text. Bytes are read as UTF-8; the longest start of a
character that then breaks off, and every byte that starts none, becomes one replacement
character. -/
namespace ImpToC.Lossy

/-- A character that has been begun: how many bytes are missing, the range the next one
has to be in, and the bits so far. -/
structure Partial where
  missing : Nat
  low : Nat
  high : Nat
  bits : Nat

def replacement : Char := Char.ofNat 0xfffd

def start (b : Nat) : Char ⊕ Partial :=
  if b < 0x80 then .inl (Char.ofNat b)
  else if 0xc2 ≤ b && b ≤ 0xdf then .inr ⟨1, 0x80, 0xbf, b - 0xc0⟩
  else if b = 0xe0 then .inr ⟨2, 0xa0, 0xbf, b - 0xe0⟩
  else if b = 0xed then .inr ⟨2, 0x80, 0x9f, b - 0xe0⟩
  else if 0xe1 ≤ b && b ≤ 0xef then .inr ⟨2, 0x80, 0xbf, b - 0xe0⟩
  else if b = 0xf0 then .inr ⟨3, 0x90, 0xbf, b - 0xf0⟩
  else if b = 0xf4 then .inr ⟨3, 0x80, 0x8f, b - 0xf0⟩
  else if 0xf1 ≤ b && b ≤ 0xf3 then .inr ⟨3, 0x80, 0xbf, b - 0xf0⟩
  else .inl replacement

structure Reading where
  done : String := ""
  begun? : Option Partial := none

namespace Reading

def begin (reading : Reading) (b : Nat) : Reading :=
  match start b with
  | .inl c => ⟨reading.done.push c, none⟩
  | .inr begun => ⟨reading.done, some begun⟩

def next (reading : Reading) (byte : UInt8) : Reading :=
  let b := byte.toNat
  match reading with
  | ⟨done, none⟩ => begin ⟨done, none⟩ b
  | ⟨done, some begun⟩ =>
    if begun.low ≤ b && b ≤ begun.high then
      let bits := 64 * begun.bits + (b - 0x80)
      if begun.missing = 1 then ⟨done.push (Char.ofNat bits), none⟩
      else ⟨done, some ⟨begun.missing - 1, 0x80, 0xbf, bits⟩⟩
    else begin ⟨done.push replacement, none⟩ b

def finish (reading : Reading) : String :=
  match reading.begun? with
  | none => reading.done
  | some _ => reading.done.push replacement

end Reading

def decode (bytes : List UInt8) : String := (bytes.foldl Reading.next {}).finish

end ImpToC.Lossy
