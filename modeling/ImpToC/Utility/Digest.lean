import ImpToC.Text.Floating
import ImpToC.Utility.Basic

/-! Check sums and digests of files, and bytes written in letters. -/
namespace ImpToC.Utility

namespace Digest

def turn (x : UInt32) (n : UInt32) : UInt32 := (x <<< n) ||| (x >>> (32 - n))

/-- Bytes with the mark, the zeros and the length that fill up the last block of 64. -/
def filled (bytes : List UInt8) (littleEnd : Bool) : List UInt8 :=
  let zeros := (119 - bytes.length % 64) % 64
  let bits := 8 * bytes.length
  let length := (List.range 8).map fun i => (bits / Nat.pow 256 i).toUInt8
  bytes ++ 0x80 :: List.replicate zeros 0 ++ if littleEnd then length else length.reverse

def wordOf (littleEnd : Bool) (bytes : List UInt8) : UInt32 :=
  (if littleEnd then bytes.reverse else bytes).foldl (fun n b => n * 256 + b.toUInt32) 0

def words (littleEnd : Bool) : Nat → List UInt8 → List UInt32
  | 0, _ => []
  | _ + 1, [] => []
  | bound + 1, bytes => wordOf littleEnd (bytes.take 4) :: words littleEnd bound (bytes.drop 4)

def blocks : Nat → List UInt32 → List (Array UInt32)
  | 0, _ => []
  | _ + 1, [] => []
  | bound + 1, ws => (ws.take 16).toArray :: blocks bound (ws.drop 16)

def blocksOf (littleEnd : Bool) (bytes : List UInt8) : List (Array UInt32) :=
  let all := words littleEnd (bytes.length + 100) (filled bytes littleEnd)
  blocks (all.length + 1) all

def hexDigits (width n : Nat) : String :=
  let digits := Nat.toDigits 16 n
  String.ofList (List.replicate (width - digits.length) '0' ++ digits)

def hexOfBytes (bytes : List UInt8) : String :=
  String.join (bytes.map fun b => hexDigits 2 b.toNat)

def hexOfWords (ws : List UInt32) : String := String.join (ws.map fun w => hexDigits 8 w.toNat)

def md5Constants : Array UInt32 :=
  #[0xd76aa478, 0xe8c7b756, 0x242070db, 0xc1bdceee, 0xf57c0faf, 0x4787c62a,
   0xa8304613, 0xfd469501, 0x698098d8, 0x8b44f7af, 0xffff5bb1, 0x895cd7be,
   0x6b901122, 0xfd987193, 0xa679438e, 0x49b40821, 0xf61e2562, 0xc040b340,
   0x265e5a51, 0xe9b6c7aa, 0xd62f105d, 0x02441453, 0xd8a1e681, 0xe7d3fbc8,
   0x21e1cde6, 0xc33707d6, 0xf4d50d87, 0x455a14ed, 0xa9e3e905, 0xfcefa3f8,
   0x676f02d9, 0x8d2a4c8a, 0xfffa3942, 0x8771f681, 0x6d9d6122, 0xfde5380c,
   0xa4beea44, 0x4bdecfa9, 0xf6bb4b60, 0xbebfbc70, 0x289b7ec6, 0xeaa127fa,
   0xd4ef3085, 0x04881d05, 0xd9d4d039, 0xe6db99e5, 0x1fa27cf8, 0xc4ac5665,
   0xf4292244, 0x432aff97, 0xab9423a7, 0xfc93a039, 0x655b59c3, 0x8f0ccc92,
   0xffeff47d, 0x85845dd1, 0x6fa87e4f, 0xfe2ce6e0, 0xa3014314, 0x4e0811a1,
   0xf7537e82, 0xbd3af235, 0x2ad7d2bb, 0xeb86d391]

def md5Turns : Array UInt32 := #[7, 12, 17, 22, 5, 9, 14, 20, 4, 11, 16, 23, 6, 10, 15, 21]

def md5Block (state : List UInt32) (block : Array UInt32) : List UInt32 :=
  let round := fun (abcd : UInt32 × UInt32 × UInt32 × UInt32) (i : Nat) =>
    let (a, b, c, d) := abcd
    let (f, g) := match i / 16 with
      | 0 => ((b &&& c) ||| (~~~b &&& d), i)
      | 1 => ((d &&& b) ||| (~~~d &&& c), (5 * i + 1) % 16)
      | 2 => (b ^^^ c ^^^ d, (3 * i + 5) % 16)
      | _ => (c ^^^ (b ||| ~~~d), 7 * i % 16)
    let sum := a + f + md5Constants.getD i 0 + block.getD g 0
    (d, b + turn sum (md5Turns.getD (i / 16 * 4 + i % 4) 0), b, c)
  match state with
  | [a, b, c, d] =>
    let (a', b', c', d') := (List.range 64).foldl round (a, b, c, d)
    [a + a', b + b', c + c', d + d']
  | state => state

def md5 (bytes : List UInt8) : String :=
  let state := (blocksOf true bytes).foldl md5Block [0x67452301, 0xefcdab89, 0x98badcfe, 0x10325476]
  hexOfBytes (state.flatMap fun w => (List.range 4).map fun i =>
    (w.toNat / Nat.pow 256 i).toUInt8)

def extend (next : Array UInt32 → Nat → UInt32) (count : Nat) (block : Array UInt32) :
    Array UInt32 :=
  (List.range (count - 16)).foldl (fun ws i => ws.push (next ws (i + 16))) block

def sha1Block (state : List UInt32) (block : Array UInt32) : List UInt32 :=
  let ws := extend (fun ws i => turn (ws.getD (i - 3) 0 ^^^ ws.getD (i - 8) 0 ^^^ ws.getD (i - 14) 0 ^^^
    ws.getD (i - 16) 0) 1) 80 block
  let round := fun (s : UInt32 × UInt32 × UInt32 × UInt32 × UInt32) (i : Nat) =>
    let (a, b, c, d, e) := s
    let (f, k) := match i / 20 with
      | 0 => ((b &&& c) ||| (~~~b &&& d), (0x5a827999 : UInt32))
      | 1 => (b ^^^ c ^^^ d, 0x6ed9eba1)
      | 2 => ((b &&& c) ||| (b &&& d) ||| (c &&& d), 0x8f1bbcdc)
      | _ => (b ^^^ c ^^^ d, 0xca62c1d6)
    (turn a 5 + f + e + k + ws.getD i 0, a, turn b 30, c, d)
  match state with
  | [a, b, c, d, e] =>
    let (a', b', c', d', e') := (List.range 80).foldl round (a, b, c, d, e)
    [a + a', b + b', c + c', d + d', e + e']
  | state => state

def sha1 (bytes : List UInt8) : String :=
  hexOfWords ((blocksOf false bytes).foldl sha1Block
    [0x67452301, 0xefcdab89, 0x98badcfe, 0x10325476, 0xc3d2e1f0])

def sha256Constants : Array UInt32 :=
  #[0x428a2f98, 0x71374491, 0xb5c0fbcf, 0xe9b5dba5, 0x3956c25b, 0x59f111f1,
   0x923f82a4, 0xab1c5ed5, 0xd807aa98, 0x12835b01, 0x243185be, 0x550c7dc3,
   0x72be5d74, 0x80deb1fe, 0x9bdc06a7, 0xc19bf174, 0xe49b69c1, 0xefbe4786,
   0x0fc19dc6, 0x240ca1cc, 0x2de92c6f, 0x4a7484aa, 0x5cb0a9dc, 0x76f988da,
   0x983e5152, 0xa831c66d, 0xb00327c8, 0xbf597fc7, 0xc6e00bf3, 0xd5a79147,
   0x06ca6351, 0x14292967, 0x27b70a85, 0x2e1b2138, 0x4d2c6dfc, 0x53380d13,
   0x650a7354, 0x766a0abb, 0x81c2c92e, 0x92722c85, 0xa2bfe8a1, 0xa81a664b,
   0xc24b8b70, 0xc76c51a3, 0xd192e819, 0xd6990624, 0xf40e3585, 0x106aa070,
   0x19a4c116, 0x1e376c08, 0x2748774c, 0x34b0bcb5, 0x391c0cb3, 0x4ed8aa4a,
   0x5b9cca4f, 0x682e6ff3, 0x748f82ee, 0x78a5636f, 0x84c87814, 0x8cc70208,
   0x90befffa, 0xa4506ceb, 0xbef9a3f7, 0xc67178f2]

def sha256Start : List UInt32 :=
  [0x6a09e667, 0xbb67ae85, 0x3c6ef372, 0xa54ff53a, 0x510e527f, 0x9b05688c,
   0x1f83d9ab, 0x5be0cd19]

def sha256Block (state : List UInt32) (block : Array UInt32) : List UInt32 :=
  let right := fun (x n : UInt32) => turn x (32 - n)
  let ws := extend (fun ws i =>
    let x := ws.getD (i - 15) 0
    let y := ws.getD (i - 2) 0
    ws.getD (i - 16) 0 + (right x 7 ^^^ right x 18 ^^^ (x >>> 3)) + ws.getD (i - 7) 0 +
      (right y 17 ^^^ right y 19 ^^^ (y >>> 10))) 64 block
  let round := fun (s : List UInt32) (i : Nat) => match s with
    | [a, b, c, d, e, f, g, h] =>
      let one := h + (right e 6 ^^^ right e 11 ^^^ right e 25) + ((e &&& f) ^^^ (~~~e &&& g)) +
        sha256Constants.getD i 0 + ws.getD i 0
      let two := (right a 2 ^^^ right a 13 ^^^ right a 22) + ((a &&& b) ^^^ (a &&& c) ^^^ (b &&& c))
      [one + two, a, b, c, d + one, e, f, g]
    | s => s
  state.zipWith (· + ·) ((List.range 64).foldl round state)

def sha256 (bytes : List UInt8) : String :=
  hexOfWords ((blocksOf false bytes).foldl sha256Block sha256Start)

/-- A step of the check sum with polynomial 0x04c11db7. -/
def crcStep (crc : UInt32) (byte : UInt8) : UInt32 :=
  (List.range 8).foldl (fun crc _ =>
    if crc &&& 0x80000000 != 0 then (crc <<< 1) ^^^ 0x04c11db7 else crc <<< 1)
    (crc ^^^ (byte.toUInt32 <<< 24))

def lengthBytes : Nat → Nat → List UInt8
  | 0, _ => []
  | bound + 1, n => if n = 0 then [] else n.toUInt8 :: lengthBytes bound (n / 256)

def crc (bytes : List UInt8) : Nat :=
  (~~~ ((bytes ++ lengthBytes 16 bytes.length).foldl crcStep 0)).toNat

def base64Letters : Array Char :=
  ("ABCDEFGHIJKLMNOPQRSTUVWXYZabcdefghijklmnopqrstuvwxyz0123456789+/".toList).toArray

def encode64 : Nat → List Nat → List Char
  | 0, _ => []
  | _ + 1, [] => []
  | bound + 1, bytes =>
    let group := bytes.take 3
    let n := (group ++ List.replicate (3 - group.length) 0).foldl (fun n b => 256 * n + b) 0
    let letters := [n / 262144, n / 4096 % 64, n / 64 % 64, n % 64].map fun i =>
      base64Letters.getD i '='
    letters.take (group.length + 1) ++ List.replicate (3 - group.length) '=' ++
      encode64 bound (bytes.drop 3)

def decode64 : Nat → List Char → List Nat
  | 0, _ => []
  | _ + 1, [] => []
  | bound + 1, letters =>
    let group := (letters.take 4).filter (· != '=')
    let values := group.map fun c => (base64Letters.toList.findIdx? (· == c)).getD 0
    let n := (values ++ List.replicate (4 - values.length) 0).foldl (fun n v => 64 * n + v) 0
    [n / 65536, n / 256 % 256, n % 256].take (values.length - 1) ++ decode64 bound (letters.drop 4)

end Digest

def bytesOf (text : String) : List UInt8 := text.toList.map fun c => c.toNat.toUInt8

def listed? (algorithm : String) (size : Nat) (text : String) : Option (String × String) :=
  let isHex := fun (c : Char) => c.isDigit || 'a' ≤ c.toLower && c.toLower ≤ 'f'
  let digits := text.toList.takeWhile isHex
  match text.toList.drop digits.length with
  | ' ' :: ' ' :: path | ' ' :: '*' :: path =>
    if digits.length = size && !path.isEmpty
    then some (String.ofList (digits.map Char.toLower), String.ofList path) else none
  | _ =>
    let start := algorithm ++ " ("
    if !text.startsWith start then none
    else
      match (text.drop start.length).toString.splitOn ") = " with
      | [path, hex] => if hex.length = size && hex.toList.all isHex then some (hex, path) else none
      | _ => none

def checkDigests (algorithm : String) (compute : List UInt8 → String) (parsed : Parsed)
    (list text : String) : Act Nat := do
  let quiet := parsed.has 'q'
  let size := (compute []).length
  let lines := (linesOf text).filter fun line => !line.text.startsWith "#"
  let entries := lines.map fun line => listed? algorithm size line.text
  let shown := if list = "-" then "'standard input'" else list
  if entries.all Option.isNone then
    complain (shown ++ ": no properly formatted checksum lines found")
    return 1
  let mut bad := 0
  let mut missing := 0
  for (given, path) in entries.filterMap id do
    match ← readPath path with
    | .ok text =>
      let good := compute (bytesOf text) == given
      if !(quiet || good && parsed.has 'Q') then
        printLine (path ++ ": " ++ if good then "OK" else "FAILED")
      if !good then bad := bad + 1
    | .error fault =>
      if !(parsed.has 'i' && fault = .noSuchFile) then
        complain (path ++ ": " ++ fault.reason)
        if !quiet then printLine (path ++ ": FAILED open or read")
        missing := missing + 1
  let improper := (entries.filter Option.isNone).length
  let warn := fun (count : Nat) (one many : String) => do
    if count > 0 && !quiet then
      complain ("WARNING: " ++ toString count ++ " " ++ if count = 1 then one else many)
  warn improper "line is improperly formatted" "lines are improperly formatted"
  warn missing "listed file could not be read" "listed files could not be read"
  warn bad "computed checksum did NOT match" "computed checksums did NOT match"
  return if bad + missing > 0 || parsed.has 'S' && improper > 0 then 1 else 0

def onInputs (paths : List String) (action : String → String → Act Nat) : Act Nat :=
  (if paths.isEmpty then ["-"] else paths).foldlM (fun status path => do
    match ← readPath path with
    | .ok text => return max status (← action path text)
    | .error fault =>
      complain (path ++ ": " ++ fault.reason)
      return 1) 0

def digest (algorithm : String) (compute : List UInt8 → String) (args : List String) : Act Nat :=
  withOptions "bctwz"
    [("binary", 'b'), ("check", 'c'), ("ignore-missing", 'i'), ("quiet", 'Q'), ("status", 'q'),
     ("strict", 'S'), ("tag", 'T'), ("text", 't'), ("warn", 'w'), ("zero", 'z')] args
    fun parsed => do
  if parsed.has 'c' then
    return ← onInputs parsed.words fun path text => checkDigests algorithm compute parsed path text
  let mut status := 0
  for path in (if parsed.words.isEmpty then ["-"] else parsed.words) do
    match ← readPath path with
    | .ok text =>
      let hex := compute (bytesOf text)
      print ((if parsed.has 'T' then algorithm ++ " (" ++ path ++ ") = " ++ hex
        else hex ++ (if parsed.has 'b' then " *" else "  ") ++ path) ++
        if parsed.has 'z' then "\x00" else "\n")
    | .error fault =>
      complain (path ++ ": " ++ fault.reason)
      status := 1
  return status

def checkSum (letters : String) (shown : List UInt8 → String) (args : List String) : Act Nat :=
  withOptions letters [("sysv", 's')] args fun parsed => do
  let mut status := 0
  for path in (if parsed.words.isEmpty then ["-"] else parsed.words) do
    match ← readPath path with
    | .ok text =>
      printLine (shown (bytesOf text) ++ if parsed.words.isEmpty then "" else " " ++ path)
    | .error fault =>
      complain (path ++ ": " ++ fault.reason)
      status := 1
  return status

def cksum : List String → Act Nat := checkSum "a:l:bctwz" fun bytes =>
  toString (Digest.crc bytes) ++ " " ++ toString bytes.length

def wrapped (width : Nat) : Nat → List Char → String
  | 0, _ => ""
  | _ + 1, [] => ""
  | bound + 1, text =>
    if width = 0 then String.ofList text
    else String.ofList (text.take width) ++ "\n" ++ wrapped width bound (text.drop width)

def lettered (encode : List Nat → List Char) (decode? : List Char → Option (List Nat))
    (args : List String) : Act Nat :=
  withOptions "diw:" [("decode", 'd'), ("ignore-garbage", 'i'), ("wrap", 'w')] args fun parsed => do
  if let _ :: extra :: _ := parsed.words then return ← misuse ("extra operand " ++ quote extra) 1
  let path := parsed.words.headD "-"
  match ← readPath path with
  | .error fault =>
    complain ((if fault = .isADirectory then "read error" else path) ++ ": " ++ fault.reason)
    return 1
  | .ok text =>
    if parsed.has 'd' then
      match decode? (text.toList.filter (· != '\n')) with
      | none =>
        complain "invalid input"
        return 1
      | some bytes =>
        print (String.ofList (bytes.map Char.ofNat))
        return 0
    else
      match natural? ((parsed.value? 'w').getD "76") with
      | none =>
        complain ("invalid wrap size: " ++ quote ((parsed.value? 'w').getD ""))
        return 1
      | some width =>
        print (wrapped width (text.length * 2 + 2) (encode (text.toList.map Char.toNat)))
        return 0

def base64 : List String → Act Nat :=
  lettered (fun bytes => Digest.encode64 (bytes.length + 1) bytes) fun letters =>
    if letters.all fun c => c = '=' || Digest.base64Letters.contains c
    then some (Digest.decode64 (letters.length + 1) letters) else none

end ImpToC.Utility
