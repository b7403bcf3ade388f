import Lota.Core.Bytes

/-!
# SHA-256 and HMAC-SHA-256

SHA-256 as FIPS 180-4 states it (padding §5.1.1, schedule and rounds §6.2.2)
and HMAC (FIPS 198-1) on top of it. Words are naturals below `2 ^ 32`.

Nothing in the development looks inside the hash: the definition is
irreducible, and the only fact used about it is that its value is a
32-byte array. Where a result needs collision freeness it names the
messages (`NoCollision`): no 32-byte hash is injective on all messages, so
an unrestricted assumption would be false.
-/
namespace Lota.Core

namespace Sha256

def mask32 (n : Nat) : Nat := n % 4294967296

def rotr (x n : Nat) : Nat := (x >>> n) ||| mask32 (x <<< (32 - n))

def ch (x y z : Nat) : Nat := (x &&& y) ^^^ ((4294967295 ^^^ x) &&& z)

def maj (x y z : Nat) : Nat := (x &&& y) ^^^ (x &&& z) ^^^ (y &&& z)

def bigSigma0 (x : Nat) : Nat := rotr x 2 ^^^ rotr x 13 ^^^ rotr x 22

def bigSigma1 (x : Nat) : Nat := rotr x 6 ^^^ rotr x 11 ^^^ rotr x 25

def smallSigma0 (x : Nat) : Nat := rotr x 7 ^^^ rotr x 18 ^^^ (x >>> 3)

def smallSigma1 (x : Nat) : Nat := rotr x 17 ^^^ rotr x 19 ^^^ (x >>> 10)

def roundConstants : List Nat :=
  [0x428a2f98, 0x71374491, 0xb5c0fbcf, 0xe9b5dba5, 0x3956c25b, 0x59f111f1, 0x923f82a4, 0xab1c5ed5,
   0xd807aa98, 0x12835b01, 0x243185be, 0x550c7dc3, 0x72be5d74, 0x80deb1fe, 0x9bdc06a7, 0xc19bf174,
   0xe49b69c1, 0xefbe4786, 0x0fc19dc6, 0x240ca1cc, 0x2de92c6f, 0x4a7484aa, 0x5cb0a9dc, 0x76f988da,
   0x983e5152, 0xa831c66d, 0xb00327c8, 0xbf597fc7, 0xc6e00bf3, 0xd5a79147, 0x06ca6351, 0x14292967,
   0x27b70a85, 0x2e1b2138, 0x4d2c6dfc, 0x53380d13, 0x650a7354, 0x766a0abb, 0x81c2c92e, 0x92722c85,
   0xa2bfe8a1, 0xa81a664b, 0xc24b8b70, 0xc76c51a3, 0xd192e819, 0xd6990624, 0xf40e3585, 0x106aa070,
   0x19a4c116, 0x1e376c08, 0x2748774c, 0x34b0bcb5, 0x391c0cb3, 0x4ed8aa4a, 0x5b9cca4f, 0x682e6ff3,
   0x748f82ee, 0x78a5636f, 0x84c87814, 0x8cc70208, 0x90befffa, 0xa4506ceb, 0xbef9a3f7, 0xc67178f2]

/-- The eight working variables. -/
structure State where
  a : Nat
  b : Nat
  c : Nat
  d : Nat
  e : Nat
  f : Nat
  g : Nat
  h : Nat

def initial : State :=
  ⟨0x6a09e667, 0xbb67ae85, 0x3c6ef372, 0xa54ff53a, 0x510e527f, 0x9b05688c, 0x1f83d9ab, 0x5be0cd19⟩

def round (s : State) (k w : Nat) : State :=
  let t1 := s.h + bigSigma1 s.e + ch s.e s.f s.g + k + w
  let t2 := bigSigma0 s.a + maj s.a s.b s.c
  ⟨mask32 (t1 + t2), s.a, s.b, s.c, mask32 (s.d + t1), s.e, s.f, s.g⟩

/-- The rounds, over a sliding window of the last sixteen schedule words. -/
def rounds : List Nat → List Nat → State → State
  | [], _, s => s
  | _ :: _, [], s => s
  | k :: ks, w :: ws, s =>
    let next := mask32 (w + smallSigma0 (ws.getD 0 0) + ws.getD 8 0 + smallSigma1 (ws.getD 13 0))
    rounds ks (ws ++ [next]) (round s k w)

def words : Bytes → List Nat
  | a :: b :: c :: d :: rest => ofBE [a, b, c, d] :: words rest
  | _ => []

def compress (s : State) (block : Bytes) : State :=
  let t := rounds roundConstants (words block) s
  ⟨mask32 (s.a + t.a), mask32 (s.b + t.b), mask32 (s.c + t.c), mask32 (s.d + t.d),
   mask32 (s.e + t.e), mask32 (s.f + t.f), mask32 (s.g + t.g), mask32 (s.h + t.h)⟩

def pad (m : Bytes) : Bytes :=
  m ++ 0x80 :: (List.replicate ((119 - m.length % 64) % 64) 0 ++ toBE 8 (8 * m.length))

def blocks : Nat → Bytes → State → State
  | 0, _, s => s
  | n + 1, bs, s => blocks n (bs.drop 64) (compress s (bs.take 64))

def output (s : State) : Bytes :=
  toBE 4 s.a ++ toBE 4 s.b ++ toBE 4 s.c ++ toBE 4 s.d ++
    toBE 4 s.e ++ toBE 4 s.f ++ toBE 4 s.g ++ toBE 4 s.h

theorem output_length (s : State) : (output s).length = 32 := by simp [output]

end Sha256

/-- `sha256.Sum256`. -/
@[irreducible] def sha256 (m : Bytes) : Blob 32 :=
  ⟨Sha256.output (Sha256.blocks ((Sha256.pad m).length / 64) (Sha256.pad m) Sha256.initial),
   Sha256.output_length _⟩

example : (sha256 (ascii "abc")).toList =
    [0xba, 0x78, 0x16, 0xbf, 0x8f, 0x01, 0xcf, 0xea, 0x41, 0x41, 0x40, 0xde, 0x5d, 0xae, 0x22, 0x23,
     0xb0, 0x03, 0x61, 0xa3, 0x96, 0x17, 0x7a, 0x9c, 0xb4, 0x10, 0xff, 0x61, 0xf2, 0x00,
     0x15, 0xad] := by
  decide +kernel

/-- SHA-256 does not confuse these two messages. -/
def NoCollision (x y : Bytes) : Prop := sha256 x = sha256 y → x = y

/-- `hmac.New(sha256.New, key)` over the message `m`. -/
def hmacSha256 (key m : Bytes) : Blob 32 :=
  let k0 := if 64 < key.length then (sha256 key).toList else key
  let block := k0 ++ List.replicate (64 - k0.length) 0
  sha256 (block.map (· ^^^ 0x5c) ++ (sha256 (block.map (· ^^^ 0x36) ++ m)).toList)

end Lota.Core
