import Lifelines.Utility.Columns

/-!
# Bytes as text, and digests

Utilities that write bytes as digits or letters, and utilities that write a
short number that tells a text from others.

* `od`, `base64`: bytes as text;
* `cksum`, `md5sum`, `sha1sum`, `sha256sum`: digests.
-/

namespace Lifelines.Utility

/-! ### Dumps -/

/-- A way to write bytes: how many at a time, how wide, and as what. -/
structure DumpFormat where
  size : Nat
  width : Nat
  shown : List Nat → Bytes

/-- A number of bytes in little-endian order. -/
def littleEndian (bytes : List Nat) : Nat :=
  bytes.foldr (fun b n => b + 256 * n) 0

/-- A number in a base, filled with zeros. -/
def inBase (base width n : Nat) : Bytes :=
  Bytes.padLeft width '0' (Nat.toDigits base n)

/-- A byte as the format for characters writes it. -/
def charDump (b : Nat) : Bytes :=
  let escape : Option Char :=
    match b with
    | 0 => some '0'
    | 7 => some 'a'
    | 8 => some 'b'
    | 9 => some 't'
    | 10 => some 'n'
    | 11 => some 'v'
    | 12 => some 'f'
    | 13 => some 'r'
    | _ => none
  match escape with
  | some c => ['\\', c]
  | none => if 32 ≤ b && b < 127 then [Char.ofNat b] else inBase 8 3 b

/-- The names of control characters. -/
def controlNames : List String :=
  ["nul", "soh", "stx", "etx", "eot", "enq", "ack", "bel", "bs", "ht", "nl", "vt", "ff", "cr",
    "so", "si", "dle", "dc1", "dc2", "dc3", "dc4", "nak", "syn", "etb", "can", "em", "sub", "esc",
    "fs", "gs", "rs", "us", "sp"]

/-- A byte as the format for named characters writes it. -/
def namedDump (b : Nat) : Bytes :=
  let b := b % 128
  if b = 127 then "del".toList else ((controlNames[b]?).map String.toList).getD [Char.ofNat b]

/-- A number of bytes as a signed one. -/
def signedOf (size n : Nat) : Int :=
  if n < Nat.pow 2 (8 * size - 1) then n else (n : Int) - Nat.pow 2 (8 * size)

/-- The digits that a number of bytes needs in base ten. -/
def decimalWidth (size : Nat) : Nat :=
  (Nat.toDigits 10 (Nat.pow 2 (8 * size) - 1)).length

/-- A format for numbers. -/
def numberDump (base size : Nat) : DumpFormat :=
  let width := (Nat.toDigits base (Nat.pow 2 (8 * size) - 1)).length
  ⟨size, width, fun bytes => inBase base width (littleEndian bytes)⟩

/-- The format that an option stands for. -/
def dumpFormat? (text : Bytes) : Option DumpFormat :=
  let size (rest : Bytes) : Nat :=
    match String.ofList (rest.filter (· ≠ 'z')) with
    | "1" | "C" => 1
    | "2" | "S" => 2
    | "8" | "L" => 8
    | _ => 4
  match text with
  | 'x' :: rest => some (numberDump 16 (size rest))
  | 'o' :: rest => some (numberDump 8 (size rest))
  | 'c' :: _ => some ⟨1, 3, fun bytes => charDump (littleEndian bytes)⟩
  | 'a' :: _ => some ⟨1, 3, fun bytes => namedDump (littleEndian bytes)⟩
  | 'u' :: rest =>
    let n := size rest
    some ⟨n, decimalWidth n, fun bytes => Bytes.ofNat (littleEndian bytes)⟩
  | 'd' :: rest =>
    let n := size rest
    some ⟨n, (Bytes.ofNat (Nat.pow 2 (8 * n - 1))).length + 1,
      fun bytes => Bytes.ofInt (signedOf n (littleEndian bytes))⟩
  | _ => none

/-- A list in pieces of some length. -/
def chunks {α : Type} (n : Nat) : (fuel : Nat) → List α → List (List α)
  | 0, _ | _, [] => []
  | fuel + 1, items => items.take n :: chunks n fuel (items.drop n)

/-- The columns that a format needs for one byte, so that several formats line up. -/
def dumpRow (f : DumpFormat) (perByte : Nat) (bytes : List Nat) : Bytes :=
  (chunks f.size bytes.length bytes).flatMap fun piece =>
    Bytes.padLeft (perByte * f.size) ' ' (f.shown piece)

/-- Prints bytes as numbers or characters. -/
def od : Work Nat :=
  let names := [("address-radix", 'A'), ("format", 't'), ("read-bytes", 'N'), ("skip-bytes", 'j'),
    ("width", 'w'), ("output-duplicates", 'v')]
  withOptions { letters := letters "A:abcdDeFfhHiIj:lLN:oOsS:t:vw::xX", names := names } fun g => do
    let (texts, status) ← gather plainComplaint g.operands
    let number (c : Char) : Option Nat := (g.value? c).bind readSize?
    let skipped := (number 'j').getD 0
    let text := ((texts.map (·.2)).flatten).drop skipped
    let text := ((number 'N').map fun n => text.take n).getD text
    let formats := g.options.filterMap fun o =>
      match o.1 with
      | 't' => dumpFormat? o.2
      | 'x' | 'h' => dumpFormat? "x2".toList
      | 'o' | 'B' => dumpFormat? "o2".toList
      | 'c' => dumpFormat? ['c']
      | 'a' => dumpFormat? ['a']
      | 'b' => dumpFormat? "o1".toList
      | 'd' => dumpFormat? "u2".toList
      | 's' => dumpFormat? "d2".toList
      | 'i' => dumpFormat? "d4".toList
      | 'l' => dumpFormat? "d8".toList
      | 'X' | 'H' => dumpFormat? "x4".toList
      | _ => none
    let formats := if formats.isEmpty then [numberDump 8 2] else formats
    let perByte := formats.foldl (fun n f => max n ((f.width + 1 + f.size - 1) / f.size)) 0
    let width := if g.has 'w' then (number 'w').getD 32 else 16
    let address (n : Nat) : Bytes :=
      match g.value? 'A' with
      | some ['n'] => []
      | some ['x'] => inBase 16 6 n
      | some ['d'] => inBase 10 7 n
      | _ => inBase 8 7 n
    let named := g.value? 'A' ≠ some ['n']
    let mut offset := skipped
    let mut last : Option (List Nat) := none
    let mut starred := false
    for row in chunks width text.length (text.map Char.toNat) do
      if !g.has 'v' && last = some row && row.length = width then
        if !starred then Work.sayLine ['*']
        starred := true
      else
        starred := false
        let mut first := true
        for f in formats do
          let wide := if f.size = 1 && formats.length = 1 then f.width + 1 else perByte
          let body :=
            if formats.length = 1 then
              (chunks f.size row.length row).flatMap fun piece =>
                Bytes.padLeft (f.width + 1) ' ' (f.shown (piece ++ List.replicate (f.size - piece.length) 0))
            else dumpRow f wide row
          let lead := if first then address offset else List.replicate (address offset).length ' '
          Work.sayLine (lead ++ body)
          first := false
      last := some row
      offset := offset + row.length
    if named then Work.sayLine (address offset)
    return status

/-! ### Letters for bytes -/

/-- The letters of base 64. -/
def base64Letters : List Char :=
  charRange 'A' 'Z' ++ charRange 'a' 'z' ++ charRange '0' '9' ++ ['+', '/']

/-- Bytes in base 64. -/
def encode64 (bytes : List Nat) : Bytes :=
  (chunks 3 bytes.length bytes).flatMap fun group =>
    let n := (group ++ [0, 0]).take 3 |>.foldl (fun n b => n * 256 + b) 0
    let letter (k : Nat) : Char := base64Letters.getD (n / Nat.pow 64 (3 - k) % 64) 'A'
    let shown := group.length + 1
    ((List.range shown).map letter) ++ List.replicate (4 - shown) '='

/-- The bytes of a text in base 64; `false` if it is none. -/
def decode64 (text : Bytes) : Bytes × Bool :=
  let body := text.filter fun c => c ≠ '\n'
  let groups := chunks 4 body.length body
  let decoded := groups.map fun group =>
    let letters := group.filter (· ≠ '=')
    let values := letters.map fun c => base64Letters.idxOf c
    let n := (values ++ List.replicate (4 - values.length) 0).foldl (fun n v => n * 64 + v) 0
    let bytes := (List.range (letters.length - 1)).map fun k =>
      Char.ofNat (n / Nat.pow 256 (2 - k) % 256)
    (bytes, values.all (· < 64) && group.length = 4)
  ((decoded.map (·.1)).flatten, decoded.all (·.2))

/-- Writes bytes in base 64, or reads them back. -/
def base64 : Work Nat :=
  withOptions { letters := letters "diw:", names := [("decode", 'd'), ("wrap", 'w')] } fun g => do
    match ← Work.contents (g.operands.headD ['-']) with
    | .error e => Work.fail 1 (plainComplaint (g.operands.headD ['-']) e)
    | .ok text =>
      if g.has 'd' then
        let (bytes, good) := decode64 text
        Work.say bytes
        if good then return 0 else Work.fail 1 "invalid input".toList
      else
        let width := ((g.value? 'w').bind Bytes.toNat?).getD 76
        let code := encode64 (text.map Char.toNat)
        if width = 0 then Work.say code
        else Work.say (Bytes.ofLines (chunks width code.length code))
        return 0

/-! ### Digests -/

/-- The remainder that a byte leaves of a polynomial over two elements. -/
def crcStep (crc : UInt32) (b : Nat) : UInt32 :=
  (List.range 8).foldl
    (fun r _ => if r &&& 0x80000000 ≠ 0 then (r <<< 1) ^^^ 0x04C11DB7 else r <<< 1)
    (crc ^^^ (UInt32.ofNat b <<< 24))

/-- The check sum of bytes and their number. -/
def crcOf (bytes : List Nat) : UInt32 :=
  let lengthBytes : (fuel : Nat) → Nat → List Nat := fun fuel n =>
    (List.range fuel).foldl (fun (acc : List Nat × Nat) _ =>
      if acc.2 = 0 then acc else (acc.1 ++ [acc.2 % 256], acc.2 / 256)) ([], n) |>.1
  ~~~((bytes ++ lengthBytes 8 bytes.length).foldl crcStep 0)

/-- Turns bits round to the left. -/
def rotateLeft (x : UInt32) (n : UInt32) : UInt32 :=
  (x <<< n) ||| (x >>> (32 - n))

/-- Turns bits round to the right. -/
def rotateRight (x : UInt32) (n : UInt32) : UInt32 :=
  (x >>> n) ||| (x <<< (32 - n))

/-- A text filled up to blocks of 64 bytes, the number of its bits at the end. -/
def paddedBlocks (bigEndian : Bool) (bytes : List Nat) : List (List Nat) :=
  let bits := 8 * bytes.length
  let zeros := (55 + 64 - bytes.length % 64) % 64
  let size := (List.range 8).map fun k => bits / Nat.pow 256 (if bigEndian then 7 - k else k) % 256
  let all := bytes ++ [0x80] ++ List.replicate zeros 0 ++ size
  chunks 64 all.length all

/-- The words of a block. -/
def wordsOf (bigEndian : Bool) (block : List Nat) : Array UInt32 :=
  ((chunks 4 16 block).map fun four =>
    UInt32.ofNat (littleEndian (if bigEndian then four.reverse else four))).toArray

/-- A word in base 16. -/
def hexWord (bigEndian : Bool) (w : UInt32) : Bytes :=
  let bytes := (List.range 4).map fun k =>
    w.toNat / Nat.pow 256 (if bigEndian then 3 - k else k) % 256
  bytes.flatMap (inBase 16 2)

/-- The shifts of the rounds of MD5. -/
def md5Shifts : Array UInt32 :=
  #[7, 12, 17, 22, 5, 9, 14, 20, 4, 11, 16, 23, 6, 10, 15, 21]

/-- The constants of the rounds of MD5: the sines of the numbers of the rounds. -/
def md5Constant (k : Nat) : UInt32 :=
  ((Float.sin (Float.ofNat (k + 1))).abs * 4294967296.0).floor.toUInt32

/-- What a block makes of a digest. -/
def md5Block (h : Array UInt32) (block : List Nat) : Array UInt32 :=
  let m := wordsOf false block
  let (a, b, c, d) := (List.range 64).foldl
    (fun (s : UInt32 × UInt32 × UInt32 × UInt32) i =>
      let (a, b, c, d) := s
      let (f, g) : UInt32 × Nat :=
        if i < 16 then ((b &&& c) ||| (~~~b &&& d), i)
        else if i < 32 then ((d &&& b) ||| (~~~d &&& c), (5 * i + 1) % 16)
        else if i < 48 then (b ^^^ c ^^^ d, (3 * i + 5) % 16)
        else (c ^^^ (b ||| ~~~d), 7 * i % 16)
      let shift := md5Shifts.getD (i / 16 * 4 + i % 4) 0
      (d, b + rotateLeft (a + f + md5Constant i + m.getD g 0) shift, b, c))
    (h.getD 0 0, h.getD 1 0, h.getD 2 0, h.getD 3 0)
  #[h.getD 0 0 + a, h.getD 1 0 + b, h.getD 2 0 + c, h.getD 3 0 + d]

/-- The MD5 digest. -/
def md5 (bytes : List Nat) : Bytes :=
  let h := (paddedBlocks false bytes).foldl md5Block #[0x67452301, 0xefcdab89, 0x98badcfe, 0x10325476]
  h.toList.flatMap (hexWord false)

/-- What a block makes of a digest. -/
def sha1Block (h : Array UInt32) (block : List Nat) : Array UInt32 :=
  let w := (List.range 64).foldl
    (fun (w : Array UInt32) k =>
      let at' (n : Nat) : UInt32 := w.getD (k + 16 - n) 0
      w.push (rotateLeft (at' 3 ^^^ at' 8 ^^^ at' 14 ^^^ at' 16) 1))
    (wordsOf true block)
  let (a, b, c, d, e) := (List.range 80).foldl
    (fun (s : UInt32 × UInt32 × UInt32 × UInt32 × UInt32) i =>
      let (a, b, c, d, e) := s
      let (f, k) : UInt32 × UInt32 :=
        if i < 20 then ((b &&& c) ||| (~~~b &&& d), 0x5A827999)
        else if i < 40 then (b ^^^ c ^^^ d, 0x6ED9EBA1)
        else if i < 60 then ((b &&& c) ||| (b &&& d) ||| (c &&& d), 0x8F1BBCDC)
        else (b ^^^ c ^^^ d, 0xCA62C1D6)
      (rotateLeft a 5 + f + e + k + w.getD i 0, a, rotateLeft b 30, c, d))
    (h.getD 0 0, h.getD 1 0, h.getD 2 0, h.getD 3 0, h.getD 4 0)
  #[h.getD 0 0 + a, h.getD 1 0 + b, h.getD 2 0 + c, h.getD 3 0 + d, h.getD 4 0 + e]

/-- The SHA-1 digest. -/
def sha1 (bytes : List Nat) : Bytes :=
  let h := (paddedBlocks true bytes).foldl sha1Block
    #[0x67452301, 0xEFCDAB89, 0x98BADCFE, 0x10325476, 0xC3D2E1F0]
  h.toList.flatMap (hexWord true)

/-- Whether a number is prime. -/
def isPrime (n : Nat) : Bool :=
  2 ≤ n && (List.range (Nat.sqrt n - 1)).all fun k => n % (k + 2) ≠ 0

/-- The first primes. -/
def primes (count : Nat) : List Nat :=
  ((List.range 320).filter isPrime).take count

/-- The first 32 bits of the fraction of a root of a number: the largest number whose
    power does not exceed the scaled number, found bit by bit. -/
def rootBits (degree n : Nat) : UInt32 :=
  let scaled := n * Nat.pow 2 (32 * degree)
  let root := (List.range 40).foldl
    (fun r k => let s := r + Nat.pow 2 (39 - k); if Nat.pow s degree ≤ scaled then s else r) 0
  UInt32.ofNat (root % Nat.pow 2 32)

/-- The constants of the rounds of SHA-256. -/
def sha256Constants : Array UInt32 :=
  ((primes 64).map (rootBits 3)).toArray

/-- What a block makes of a digest. -/
def sha256Block (constants h : Array UInt32) (block : List Nat) : Array UInt32 :=
  let w := (List.range 48).foldl
    (fun (w : Array UInt32) k =>
      let at' (n : Nat) : UInt32 := w.getD (k + 16 - n) 0
      let s0 := rotateRight (at' 15) 7 ^^^ rotateRight (at' 15) 18 ^^^ (at' 15 >>> 3)
      let s1 := rotateRight (at' 2) 17 ^^^ rotateRight (at' 2) 19 ^^^ (at' 2 >>> 10)
      w.push (at' 16 + s0 + at' 7 + s1))
    (wordsOf true block)
  let final := (List.range 64).foldl
    (fun (s : Array UInt32) i =>
      let v (k : Nat) : UInt32 := s.getD k 0
      let s1 := rotateRight (v 4) 6 ^^^ rotateRight (v 4) 11 ^^^ rotateRight (v 4) 25
      let choice := (v 4 &&& v 5) ^^^ (~~~(v 4) &&& v 6)
      let t1 := v 7 + s1 + choice + constants.getD i 0 + w.getD i 0
      let s0 := rotateRight (v 0) 2 ^^^ rotateRight (v 0) 13 ^^^ rotateRight (v 0) 22
      let majority := (v 0 &&& v 1) ^^^ (v 0 &&& v 2) ^^^ (v 1 &&& v 2)
      #[t1 + s0 + majority, v 0, v 1, v 2, v 3 + t1, v 4, v 5, v 6])
    h
  (h.zip final).map fun p => p.1 + p.2

/-- The SHA-256 digest. -/
def sha256 (bytes : List Nat) : Bytes :=
  let constants := sha256Constants
  let h := (paddedBlocks true bytes).foldl (sha256Block constants)
    ((primes 8).map (rootBits 2)).toArray
  h.toList.flatMap (hexWord true)

/-- Prints the digest of each file, and its name. -/
def digests (digest : List Nat → Bytes) : Work Nat :=
  withOptions { letters := letters "btcwz" } fun g => do
    let (texts, status) ← gather plainComplaint g.operands
    for (path, text) in texts do
      Work.sayLine (digest (text.map Char.toNat) ++ "  ".toList ++ path)
    return status

/-- Prints the check sum and the size of each file. -/
def cksum : Work Nat :=
  withOptions { letters := letters "" } fun g => do
    let (texts, status) ← gather plainComplaint g.operands
    for (path, text) in texts do
      Work.sayLine (Bytes.ofNat (crcOf (text.map Char.toNat)).toNat ++ ' ' :: Bytes.ofNat text.length ++
        (if g.operands.isEmpty then [] else ' ' :: path))
    return status

end Lifelines.Utility
