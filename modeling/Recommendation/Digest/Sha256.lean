/-!
The 256-bit secure hash. A message is padded to whole blocks of sixty-four bytes; each block is
spread over sixty-four words, which sixty-four rounds mix into eight chaining words.
-/

namespace Recommendation.Digest

abbrev Word := UInt32

def roundConstants : List Word := [
  0x428a2f98, 0x71374491, 0xb5c0fbcf, 0xe9b5dba5, 0x3956c25b, 0x59f111f1, 0x923f82a4, 0xab1c5ed5,
  0xd807aa98, 0x12835b01, 0x243185be, 0x550c7dc3, 0x72be5d74, 0x80deb1fe, 0x9bdc06a7, 0xc19bf174,
  0xe49b69c1, 0xefbe4786, 0x0fc19dc6, 0x240ca1cc, 0x2de92c6f, 0x4a7484aa, 0x5cb0a9dc, 0x76f988da,
  0x983e5152, 0xa831c66d, 0xb00327c8, 0xbf597fc7, 0xc6e00bf3, 0xd5a79147, 0x06ca6351, 0x14292967,
  0x27b70a85, 0x2e1b2138, 0x4d2c6dfc, 0x53380d13, 0x650a7354, 0x766a0abb, 0x81c2c92e, 0x92722c85,
  0xa2bfe8a1, 0xa81a664b, 0xc24b8b70, 0xc76c51a3, 0xd192e819, 0xd6990624, 0xf40e3585, 0x106aa070,
  0x19a4c116, 0x1e376c08, 0x2748774c, 0x34b0bcb5, 0x391c0cb3, 0x4ed8aa4a, 0x5b9cca4f, 0x682e6ff3,
  0x748f82ee, 0x78a5636f, 0x84c87814, 0x8cc70208, 0x90befffa, 0xa4506ceb, 0xbef9a3f7, 0xc67178f2]

structure Chain where
  a : Word
  b : Word
  c : Word
  d : Word
  e : Word
  f : Word
  g : Word
  h : Word

def Chain.initial : Chain :=
  ⟨0x6a09e667, 0xbb67ae85, 0x3c6ef372, 0xa54ff53a, 0x510e527f, 0x9b05688c, 0x1f83d9ab, 0x5be0cd19⟩

def rotate (x : Word) (n : Word) : Word := (x >>> n) ||| (x <<< (32 - n))

/-- How many zero bytes stand between the mark behind a message and its length. -/
def zeroCount (size : Nat) : Nat := (119 - size % 64) % 64

/-- A number in so many bytes, the highest first. -/
def bigEndian : (width : Nat) → Nat → List UInt8
  | 0, _ => []
  | width + 1, n => (n / Nat.pow 256 width).toUInt8 :: bigEndian width n

def padded (message : List UInt8) : List UInt8 :=
  message ++ 0x80 :: List.replicate (zeroCount message.length) 0 ++ bigEndian 8 (8 * message.length)

def word (a b c d : UInt8) : Word :=
  (a.toUInt32 <<< 24) ||| (b.toUInt32 <<< 16) ||| (c.toUInt32 <<< 8) ||| d.toUInt32

/-- The words of a row of bytes; fewer than four bytes at the end are none. -/
def words : List UInt8 → List Word
  | a :: b :: c :: d :: rest => word a b c d :: words rest
  | _ => []

/-- Words that continue a schedule, whose words so far stand latest first. -/
def extend : (count : Nat) → List Word → List Word
  | 0, latest => latest
  | count + 1, latest =>
    let back (n : Nat) : Word := latest.getD (n - 1) 0
    let s0 := rotate (back 15) 7 ^^^ rotate (back 15) 18 ^^^ (back 15 >>> 3)
    let s1 := rotate (back 2) 17 ^^^ rotate (back 2) 19 ^^^ (back 2 >>> 10)
    extend count ((back 16 + s0 + back 7 + s1) :: latest)

def schedule (block : List Word) : List Word := (extend 48 block.reverse).reverse

def round (s : Chain) (constant w : Word) : Chain :=
  let s1 := rotate s.e 6 ^^^ rotate s.e 11 ^^^ rotate s.e 25
  let choice := (s.e &&& s.f) ^^^ ((~~~s.e) &&& s.g)
  let t1 := s.h + s1 + choice + constant + w
  let s0 := rotate s.a 2 ^^^ rotate s.a 13 ^^^ rotate s.a 22
  let majority := (s.a &&& s.b) ^^^ (s.a &&& s.c) ^^^ (s.b &&& s.c)
  ⟨t1 + (s0 + majority), s.a, s.b, s.c, s.d + t1, s.e, s.f, s.g⟩

def compress (s : Chain) (block : List Word) : Chain :=
  let r := (roundConstants.zip (schedule block)).foldl (fun r kw => round r kw.1 kw.2) s
  ⟨s.a + r.a, s.b + r.b, s.c + r.c, s.d + r.d, s.e + r.e, s.f + r.f, s.g + r.g, s.h + r.h⟩

def compressAll : (blocks : Nat) → Chain → List Word → Chain
  | 0, s, _ => s
  | blocks + 1, s, ws => compressAll blocks (compress s (ws.take 16)) (ws.drop 16)

def sha256 (message : List UInt8) : List Word :=
  let bytes := padded message
  let s := compressAll (bytes.length / 64) .initial (words bytes)
  [s.a, s.b, s.c, s.d, s.e, s.f, s.g, s.h]

end Recommendation.Digest
