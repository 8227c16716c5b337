import RepoCatalog.Process.Tool.Files

/-!
# Digests

Short texts that stand for the content of files: check sums, and digests of blocks of 64 bytes that
are mixed into a few words one after the other.
-/

namespace RepoCatalog.Tool

open Act

namespace Digest

/-- Word with its bits turned to the left. -/
def rotate (count : Nat) (word : UInt32) : UInt32 :=
  (word <<< UInt32.ofNat count) ||| (word >>> UInt32.ofNat (32 - count))

/-- A number in bytes, the least of them first. -/
def littleBytes (size n : Nat) : List UInt8 :=
  (List.range size).map fun i => UInt8.ofNat (n / Nat.pow 256 i % 256)

/-- The number that bytes write, the greatest of them first. -/
def bigNumber (bytes : List UInt8) : Nat :=
  bytes.foldl (fun n byte => 256 * n + byte.toNat) 0

/-- A message followed by a mark, zeros and its length in bits, in blocks of 64 bytes. -/
def padded (bigEndian : Bool) (message : List UInt8) : List UInt8 :=
  let size := message.length
  let zeros := (119 - size % 64) % 64
  let length := littleBytes 8 (8 * size)
  message ++ 0x80 :: List.replicate zeros 0 ++ if bigEndian then length.reverse else length

/-- Groups of a size; fuel bounds their number. -/
def groups {α : Type} (size : Nat) : Nat → List α → List (List α)
  | 0, _ => []
  | _ + 1, [] => []
  | fuel + 1, items => items.take size :: groups size fuel (items.drop size)

/-- Words of the blocks of a message. -/
def blocks (bigEndian : Bool) (message : List UInt8) : List (Array UInt32) :=
  let bytes := padded bigEndian message
  (groups 64 (bytes.length / 64 + 1) bytes).map fun block =>
    ((groups 4 17 block).map fun four =>
      UInt32.ofNat (bigNumber (if bigEndian then four else four.reverse))).toArray

/-- Two digits of base sixteen for each byte. -/
def hexText (bytes : List UInt8) : Octets :=
  bytes.flatMap fun byte =>
    [Nat.digitChar (byte.toNat / 16), Nat.digitChar (byte.toNat % 16)]

/-- Text of words. -/
def wordsText (bigEndian : Bool) (words : List UInt32) : Octets :=
  hexText (words.flatMap fun word =>
    let bytes := littleBytes 4 word.toNat
    if bigEndian then bytes.reverse else bytes)

/-- Digests start from these words. -/
def smallStart : List UInt32 :=
  [0x67452301, 0xefcdab89, 0x98badcfe, 0x10325476]

/-- What is added in the rounds of the first kind of digest. -/
def firstConstants : Array UInt32 := #[
    0xd76aa478, 0xe8c7b756, 0x242070db, 0xc1bdceee, 0xf57c0faf, 0x4787c62a, 0xa8304613,
    0xfd469501, 0x698098d8, 0x8b44f7af, 0xffff5bb1, 0x895cd7be, 0x6b901122, 0xfd987193,
    0xa679438e, 0x49b40821, 0xf61e2562, 0xc040b340, 0x265e5a51, 0xe9b6c7aa, 0xd62f105d,
    0x02441453, 0xd8a1e681, 0xe7d3fbc8, 0x21e1cde6, 0xc33707d6, 0xf4d50d87, 0x455a14ed,
    0xa9e3e905, 0xfcefa3f8, 0x676f02d9, 0x8d2a4c8a, 0xfffa3942, 0x8771f681, 0x6d9d6122,
    0xfde5380c, 0xa4beea44, 0x4bdecfa9, 0xf6bb4b60, 0xbebfbc70, 0x289b7ec6, 0xeaa127fa,
    0xd4ef3085, 0x04881d05, 0xd9d4d039, 0xe6db99e5, 0x1fa27cf8, 0xc4ac5665, 0xf4292244,
    0x432aff97, 0xab9423a7, 0xfc93a039, 0x655b59c3, 0x8f0ccc92, 0xffeff47d, 0x85845dd1,
    0x6fa87e4f, 0xfe2ce6e0, 0xa3014314, 0x4e0811a1, 0xf7537e82, 0xbd3af235, 0x2ad7d2bb,
    0xeb86d391]

/-- How far words are turned in the rounds of the first kind of digest. -/
def firstTurns : Array Nat := #[7, 12, 17, 22, 5, 9, 14, 20, 4, 11, 16, 23, 6, 10, 15, 21]

/-- The first kind of digest. -/
def md5 (message : List UInt8) : Octets :=
  let mix (state : List UInt32) (block : Array UInt32) : List UInt32 :=
    let mixed := (List.range 64).foldl (fun state i =>
      match state with
      | [a, b, c, d] =>
        let (f, g) :=
          if i < 16 then ((b &&& c) ||| (~~~b &&& d), i)
          else if i < 32 then ((d &&& b) ||| (~~~d &&& c), (5 * i + 1) % 16)
          else if i < 48 then (b ^^^ c ^^^ d, (3 * i + 5) % 16)
          else (c ^^^ (b ||| ~~~d), 7 * i % 16)
        let sum := a + f + firstConstants[i]?.getD 0 + block[g]?.getD 0
        [d, b + rotate (firstTurns[i / 16 * 4 + i % 4]?.getD 0) sum, b, c]
      | state => state) state
    state.zipWith (· + ·) mixed
  wordsText false ((blocks false message).foldl mix smallStart)

/-- The second kind of digest. -/
def sha1 (message : List UInt8) : Octets :=
  let mix (state : List UInt32) (block : Array UInt32) : List UInt32 :=
    let schedule := (List.range 64).foldl (fun (words : Array UInt32) i =>
      let before (back : Nat) : UInt32 := words[i + 16 - back]?.getD 0
      words.push (rotate 1 (before 3 ^^^ before 8 ^^^ before 14 ^^^ before 16))) block
    let mixed := (List.range 80).foldl (fun state i =>
      match state with
      | [a, b, c, d, e] =>
        let (f, k) : UInt32 × UInt32 :=
          if i < 20 then ((b &&& c) ||| (~~~b &&& d), 0x5a827999)
          else if i < 40 then (b ^^^ c ^^^ d, 0x6ed9eba1)
          else if i < 60 then ((b &&& c) ||| (b &&& d) ||| (c &&& d), 0x8f1bbcdc)
          else (b ^^^ c ^^^ d, 0xca62c1d6)
        [rotate 5 a + f + e + k + schedule[i]?.getD 0, a, rotate 30 b, c, d]
      | state => state) state
    state.zipWith (· + ·) mixed
  wordsText true ((blocks true message).foldl mix (smallStart ++ [0xc3d2e1f0]))

/-- What is added in the rounds of the third kind of digest. -/
def thirdConstants : Array UInt32 := #[
    0x428a2f98, 0x71374491, 0xb5c0fbcf, 0xe9b5dba5, 0x3956c25b, 0x59f111f1, 0x923f82a4,
    0xab1c5ed5, 0xd807aa98, 0x12835b01, 0x243185be, 0x550c7dc3, 0x72be5d74, 0x80deb1fe,
    0x9bdc06a7, 0xc19bf174, 0xe49b69c1, 0xefbe4786, 0x0fc19dc6, 0x240ca1cc, 0x2de92c6f,
    0x4a7484aa, 0x5cb0a9dc, 0x76f988da, 0x983e5152, 0xa831c66d, 0xb00327c8, 0xbf597fc7,
    0xc6e00bf3, 0xd5a79147, 0x06ca6351, 0x14292967, 0x27b70a85, 0x2e1b2138, 0x4d2c6dfc,
    0x53380d13, 0x650a7354, 0x766a0abb, 0x81c2c92e, 0x92722c85, 0xa2bfe8a1, 0xa81a664b,
    0xc24b8b70, 0xc76c51a3, 0xd192e819, 0xd6990624, 0xf40e3585, 0x106aa070, 0x19a4c116,
    0x1e376c08, 0x2748774c, 0x34b0bcb5, 0x391c0cb3, 0x4ed8aa4a, 0x5b9cca4f, 0x682e6ff3,
    0x748f82ee, 0x78a5636f, 0x84c87814, 0x8cc70208, 0x90befffa, 0xa4506ceb, 0xbef9a3f7,
    0xc67178f2]

/-- The third kind of digest starts from these words. -/
def thirdStart : List UInt32 := [
    0x6a09e667, 0xbb67ae85, 0x3c6ef372, 0xa54ff53a, 0x510e527f, 0x9b05688c, 0x1f83d9ab,
    0x5be0cd19]

/-- The third kind of digest. -/
def sha256 (message : List UInt8) : Octets :=
  let right (count : Nat) (word : UInt32) : UInt32 := rotate (32 - count) word
  let mix (state : List UInt32) (block : Array UInt32) : List UInt32 :=
    let schedule := (List.range 48).foldl (fun (words : Array UInt32) i =>
      let before (back : Nat) : UInt32 := words[i + 16 - back]?.getD 0
      let small := right 7 (before 15) ^^^ right 18 (before 15) ^^^ (before 15 >>> 3)
      let large := right 17 (before 2) ^^^ right 19 (before 2) ^^^ (before 2 >>> 10)
      words.push (before 16 + small + before 7 + large)) block
    let mixed := (List.range 64).foldl (fun state i =>
      match state with
      | [a, b, c, d, e, f, g, h] =>
        let choice := (e &&& f) ^^^ (~~~e &&& g)
        let majority := (a &&& b) ^^^ (a &&& c) ^^^ (b &&& c)
        let first := h + (right 6 e ^^^ right 11 e ^^^ right 25 e) + choice
          + thirdConstants[i]?.getD 0 + schedule[i]?.getD 0
        let second := (right 2 a ^^^ right 13 a ^^^ right 22 a) + majority
        [first + second, a, b, c, d + first, e, f, g]
      | state => state) state
    state.zipWith (· + ·) mixed
  wordsText true ((blocks true message).foldl mix thirdStart)

/-- Check sum of some bytes after others. -/
def sumBytes (sum : UInt32) (bytes : List UInt8) : UInt32 :=
  bytes.foldl (fun sum byte =>
    (List.range 8).foldl (fun (sum : UInt32) _ =>
      if sum &&& 0x80000000 ≠ 0 then (sum <<< 1) ^^^ 0x04c11db7 else sum <<< 1)
      (sum ^^^ (byte.toUInt32 <<< (24 : UInt32)))) sum

/-- Bytes of a number, the least of them first, without zeros at the end. -/
def shortBytes : Nat → Nat → List UInt8
  | 0, _ => []
  | fuel + 1, n => if n = 0 then [] else UInt8.ofNat (n % 256) :: shortBytes fuel (n / 256)

/-- Check sum of a content and its length. -/
def checkSum (content : List UInt8) : Nat :=
  (~~~ sumBytes (sumBytes 0 content) (shortBytes 16 content.length)).toNat

end Digest

/-- Writes check sums of inputs. -/
def cksum : Tool := fun _ name arguments => do
  let (_, paths) ← sort ⟨[], [], [], true⟩ name 1 arguments
  let (contents, complete) ← readInputs name paths
  let status ← write name (contents.flatMap fun (path, text) =>
    let sum := Digest.checkSum (Octets.toBytes text)
    let shownPath : Octets := if paths.isEmpty then [] else ' ' :: path
    Octets.ofNat sum ++ ' ' :: Octets.ofNat text.length ++ shownPath ++ ['\n'])
  return if complete then status else 1

/-- Writes digests of inputs, or checks those that a list writes. -/
def digest (of : List UInt8 → Octets) : Tool := fun _ name arguments => do
  let (flags, paths) ← sort ⟨['b', 't', 'c', 'z', 'w', 'q', 'S', 'g'], [],
    [("binary", 'b'), ("text", 't'), ("check", 'c'), ("zero", 'z'), ("warn", 'w'), ("quiet", 'q'),
      ("status", 'S'), ("tag", 'g')], true⟩ name 1 arguments
  let (contents, complete) ← readInputs name paths
  if !has flags 'c' then
    let status ← write name (contents.flatMap fun (path, text) =>
      of (Octets.toBytes text) ++ ' ' :: (if has flags 'b' then '*' else ' ') :: path
        ++ if has flags 'z' then ['\x00'] else ['\n'])
    return if complete then status else 1
  else
    let mut status := if complete then 0 else 1
    for (_, list) in contents do
      for line in Octets.lines list do
        let sum := line.takeWhile (· != ' ')
        let path := line.drop (sum.length + 2)
        match ← readInput path with
        | .error fault =>
          complain name (path ++ ": " ++ Octets.ofString fault.reason)
          if !has flags 'S' then
            let _ ← write name (path ++ ": FAILED open or read\n")
          status := 1
        | .ok text =>
          let isRight := of (Octets.toBytes text) = sum.map Char.toLower
          if !isRight then status := 1
          if !has flags 'S' && !(isRight && has flags 'q') then
            let _ ← write name (path ++ if isRight then ": OK\n" else ": FAILED\n")
    return status

end RepoCatalog.Tool
