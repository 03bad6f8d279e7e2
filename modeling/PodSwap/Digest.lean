import PodSwap.Text.Hexadecimal

/-!
# Digests

The 256-bit secure hash over UTF-8 text, in lower-case hexadecimal. Blocks of 64 bytes are folded
into eight words of 32 bits. Main statement: a digest is written with hexadecimal digits only
(`digits_hexDigest`).
-/

namespace PodSwap.Digest

/-- The eight words that a block changes. -/
structure Words where
  a : UInt32
  b : UInt32
  c : UInt32
  d : UInt32
  e : UInt32
  f : UInt32
  g : UInt32
  h : UInt32
deriving DecidableEq, Repr

/-- The words before the first block. -/
def start : Words :=
  ⟨0x6a09e667, 0xbb67ae85, 0x3c6ef372, 0xa54ff53a, 0x510e527f, 0x9b05688c, 0x1f83d9ab, 0x5be0cd19⟩

/-- The constants of the 64 rounds. -/
def roundConstants : List UInt32 :=
  [0x428a2f98, 0x71374491, 0xb5c0fbcf, 0xe9b5dba5, 0x3956c25b, 0x59f111f1, 0x923f82a4, 0xab1c5ed5,
   0xd807aa98, 0x12835b01, 0x243185be, 0x550c7dc3, 0x72be5d74, 0x80deb1fe, 0x9bdc06a7, 0xc19bf174,
   0xe49b69c1, 0xefbe4786, 0x0fc19dc6, 0x240ca1cc, 0x2de92c6f, 0x4a7484aa, 0x5cb0a9dc, 0x76f988da,
   0x983e5152, 0xa831c66d, 0xb00327c8, 0xbf597fc7, 0xc6e00bf3, 0xd5a79147, 0x06ca6351, 0x14292967,
   0x27b70a85, 0x2e1b2138, 0x4d2c6dfc, 0x53380d13, 0x650a7354, 0x766a0abb, 0x81c2c92e, 0x92722c85,
   0xa2bfe8a1, 0xa81a664b, 0xc24b8b70, 0xc76c51a3, 0xd192e819, 0xd6990624, 0xf40e3585, 0x106aa070,
   0x19a4c116, 0x1e376c08, 0x2748774c, 0x34b0bcb5, 0x391c0cb3, 0x4ed8aa4a, 0x5b9cca4f, 0x682e6ff3,
   0x748f82ee, 0x78a5636f, 0x84c87814, 0x8cc70208, 0x90befffa, 0xa4506ceb, 0xbef9a3f7, 0xc67178f2]

/-- The word turned right by `n` bits. -/
def turn (x : UInt32) (n : UInt32) : UInt32 := (x >>> n) ||| (x <<< (32 - n))

/-- One round, with its constant and its word of the message. -/
def round (w : Words) (k m : UInt32) : Words :=
  let s1 := turn w.e 6 ^^^ turn w.e 11 ^^^ turn w.e 25
  let choice := (w.e &&& w.f) ^^^ ((~~~w.e) &&& w.g)
  let t1 := w.h + s1 + choice + k + m
  let s0 := turn w.a 2 ^^^ turn w.a 13 ^^^ turn w.a 22
  let majority := (w.a &&& w.b) ^^^ (w.a &&& w.c) ^^^ (w.b &&& w.c)
  ⟨t1 + (s0 + majority), w.a, w.b, w.c, w.d + t1, w.e, w.f, w.g⟩

/-- The message words of the rounds from the sixteen at hand: each round uses the first and appends
one more. -/
def messageWords : Nat → List UInt32 → List UInt32
  | 0, _ => []
  | n + 1, window =>
    let w (i : Nat) : UInt32 := window.getD i 0
    let s0 := turn (w 1) 7 ^^^ turn (w 1) 18 ^^^ (w 1 >>> 3)
    let s1 := turn (w 14) 17 ^^^ turn (w 14) 19 ^^^ (w 14 >>> 10)
    w 0 :: messageWords n (window.drop 1 ++ [w 0 + s0 + w 9 + s1])

/-- One block of sixteen words folded in. -/
def absorb (w : Words) (block : List UInt32) : Words :=
  let r := (roundConstants.zip (messageWords 64 block)).foldl (fun acc km => round acc km.1 km.2) w
  ⟨w.a + r.a, w.b + r.b, w.c + r.c, w.d + r.d, w.e + r.e, w.f + r.f, w.g + r.g, w.h + r.h⟩

/-- The bytes as words of four, the first byte highest. -/
def words : List UInt8 → List UInt32
  | a :: b :: c :: d :: rest =>
    ((a.toUInt32 <<< 24) ||| (b.toUInt32 <<< 16) ||| (c.toUInt32 <<< 8) ||| d.toUInt32)
      :: words rest
  | _ => []

/-- A number as eight bytes, the highest first. -/
def lengthBytes (n : Nat) : List UInt8 :=
  [56, 48, 40, 32, 24, 16, 8, 0].map fun s => UInt8.ofNat (n >>> s)

/-- The bytes with a one bit, zeros and their bit length behind them, up to whole blocks. -/
def padded (bytes : List UInt8) : List UInt8 :=
  let n := bytes.length
  -- the bit and the length take nine bytes of the last block
  bytes ++ [0x80] ++ List.replicate ((119 - n % 64) % 64) 0 ++ lengthBytes (8 * n)

/-- Folds blocks of sixteen words in, `n` of them. -/
def absorbBlocks : Nat → Words → List UInt32 → Words
  | 0, w, _ => w
  | n + 1, w, ms => absorbBlocks n (absorb w (ms.take 16)) (ms.drop 16)

/-- The eight words of the digest. -/
def digestWords (bytes : List UInt8) : List UInt32 :=
  let ms := words (padded bytes)
  let w := absorbBlocks (ms.length / 16) start ms
  [w.a, w.b, w.c, w.d, w.e, w.f, w.g, w.h]

/-- A word in eight hexadecimal digits. -/
def hexWord (w : UInt32) : List Char :=
  [28, 24, 20, 16, 12, 8, 4, 0].map fun s => Text.hexDigit (w.toNat >>> s)

/-- The digest of a text in hexadecimal digits. -/
def hexDigest (s : String) : List Char :=
  (digestWords s.toUTF8.data.toList).flatMap hexWord

/-- The digest of a text, as text. -/
def hex (s : String) : String := String.ofList (hexDigest s)

/-- A digest is written with hexadecimal digits only. -/
theorem digits_hexDigest (s : String) : ∀ c ∈ hexDigest s, c ∈ Text.hexAlphabet := by
  intro c hc
  obtain ⟨w, _, hw⟩ := List.mem_flatMap.mp hc
  obtain ⟨n, _, rfl⟩ := List.mem_map.mp hw
  exact Text.hexDigit_mem _

/-- A digest has 64 digits. -/
theorem length_hexDigest (s : String) : (hexDigest s).length = 64 := by
  simp [hexDigest, digestWords, hexWord]

end PodSwap.Digest
