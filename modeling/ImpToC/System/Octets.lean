import ImpToC.Text.Lossy

/-! Byte strings. The system and the programs it runs work on bytes; a string of bytes is
kept as a text in which every character stands for the byte of its code. Plain ASCII is
the same either way. -/
namespace ImpToC.Octets

def ofBytes (bytes : ByteArray) : String :=
  bytes.foldl (fun text byte => text.push (Char.ofNat byte.toNat)) ""

def toBytes (octets : String) : ByteArray :=
  octets.foldl (fun bytes c => bytes.push c.toNat.toUInt8) (ByteArray.emptyWithCapacity octets.length)

def ofText (text : String) : String :=
  if text.utf8ByteSize = text.length then text else ofBytes text.toUTF8

def toText (octets : String) : String :=
  if octets.utf8ByteSize = octets.length then octets else Lossy.decode (toBytes octets).toList

end ImpToC.Octets
