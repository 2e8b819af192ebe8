import Mathlib.Data.List.Defs
import TfK8s.Py.Value

/-!
# `hashlib.sha256(...).hexdigest()`

SHA-256 as FIPS 180-4 defines it. The message is padded with a `1` bit, zeros
and its length in bits to a whole number of 64-byte blocks; each block is read
as sixteen big-endian words, extended to a schedule of sixty-four, and folded
into the eight-word state by sixty-four rounds; the digest is the final state
written big-endian. `hexdigest()` writes each of its 32 bytes as two lower-case
hex digits.

The verifier compares the hashes it finds with one fixed digest, and what its
proofs need of that digest is its shape: 64 characters, each a digit or one of
`a` to `f`. That is what `hexdigest_length` and `hexdigest_lowerHex` say, for
every message, so no proof evaluates the hash.
-/

namespace TfK8s.Py.Hashlib

/-- A 32-bit word of the state and the schedule. -/
abbrev Word := BitVec 32

/-- The round constants: the first 32 bits of the fractional parts of the cube
roots of the first 64 primes. -/
def roundConstants : List Word :=
  [0x428a2f98, 0x71374491, 0xb5c0fbcf, 0xe9b5dba5, 0x3956c25b, 0x59f111f1, 0x923f82a4, 0xab1c5ed5,
   0xd807aa98, 0x12835b01, 0x243185be, 0x550c7dc3, 0x72be5d74, 0x80deb1fe, 0x9bdc06a7, 0xc19bf174,
   0xe49b69c1, 0xefbe4786, 0x0fc19dc6, 0x240ca1cc, 0x2de92c6f, 0x4a7484aa, 0x5cb0a9dc, 0x76f988da,
   0x983e5152, 0xa831c66d, 0xb00327c8, 0xbf597fc7, 0xc6e00bf3, 0xd5a79147, 0x06ca6351, 0x14292967,
   0x27b70a85, 0x2e1b2138, 0x4d2c6dfc, 0x53380d13, 0x650a7354, 0x766a0abb, 0x81c2c92e, 0x92722c85,
   0xa2bfe8a1, 0xa81a664b, 0xc24b8b70, 0xc76c51a3, 0xd192e819, 0xd6990624, 0xf40e3585, 0x106aa070,
   0x19a4c116, 0x1e376c08, 0x2748774c, 0x34b0bcb5, 0x391c0cb3, 0x4ed8aa4a, 0x5b9cca4f, 0x682e6ff3,
   0x748f82ee, 0x78a5636f, 0x84c87814, 0x8cc70208, 0x90befffa, 0xa4506ceb, 0xbef9a3f7, 0xc67178f2]

/-- The working variables `a` to `h`, which are also the hash value between blocks. -/
structure State where
  a : Word
  b : Word
  c : Word
  d : Word
  e : Word
  f : Word
  g : Word
  h : Word

/-- The initial hash value: the first 32 bits of the fractional parts of the
square roots of the first eight primes. -/
def initial : State :=
  ⟨0x6a09e667, 0xbb67ae85, 0x3c6ef372, 0xa54ff53a, 0x510e527f, 0x9b05688c, 0x1f83d9ab, 0x5be0cd19⟩

def bigSigma0 (x : Word) : Word := x.rotateRight 2 ^^^ x.rotateRight 13 ^^^ x.rotateRight 22

def bigSigma1 (x : Word) : Word := x.rotateRight 6 ^^^ x.rotateRight 11 ^^^ x.rotateRight 25

def smallSigma0 (x : Word) : Word := x.rotateRight 7 ^^^ x.rotateRight 18 ^^^ x >>> 3

def smallSigma1 (x : Word) : Word := x.rotateRight 17 ^^^ x.rotateRight 19 ^^^ x >>> 10

def ch (x y z : Word) : Word := (x &&& y) ^^^ (~~~x &&& z)

def maj (x y z : Word) : Word := (x &&& y) ^^^ (x &&& z) ^^^ (y &&& z)

/-- A word from four bytes, the first the most significant. -/
def bytesWord (bs : List UInt8) : Word :=
  BitVec.ofNat 32 (bs.foldl (fun acc b => acc * 256 + b.toNat) 0)

/-- The four bytes of a word, the most significant first. -/
def wordBytes (x : Word) : List UInt8 :=
  [24, 16, 8, 0].map fun s => UInt8.ofNat (x.toNat >>> s)

/-- `n` more schedule words, the words so far listed newest first:
`W t = σ1 (W (t-2)) + W (t-7) + σ0 (W (t-15)) + W (t-16)`. -/
def extendSchedule : Nat → List Word → List Word
  | 0, rev => rev
  | n + 1, rev => extendSchedule n
      ((smallSigma1 (rev.getD 1 0) + rev.getD 6 0 + smallSigma0 (rev.getD 14 0) + rev.getD 15 0) :: rev)

/-- The 64-word schedule of a 64-byte block. -/
def schedule (block : List UInt8) : List Word :=
  (extendSchedule 48 ((block.toChunks 4).map bytesWord).reverse).reverse

/-- One round, with its constant and schedule word. -/
def round (s : State) (kw : Word × Word) : State :=
  let t1 := s.h + bigSigma1 s.e + ch s.e s.f s.g + kw.1 + kw.2
  let t2 := bigSigma0 s.a + maj s.a s.b s.c
  ⟨t1 + t2, s.a, s.b, s.c, s.d + t1, s.e, s.f, s.g⟩

/-- The hash value after one more block: the rounds' result added word by word. -/
def compress (s : State) (block : List UInt8) : State :=
  let r := (roundConstants.zip (schedule block)).foldl round s
  ⟨s.a + r.a, s.b + r.b, s.c + r.c, s.d + r.d, s.e + r.e, s.f + r.f, s.g + r.g, s.h + r.h⟩

/-- The message, a `1` bit, zeros to 56 bytes past a block boundary, and the
length in bits as eight big-endian bytes. -/
def pad (m : List UInt8) : List UInt8 :=
  m ++ 0x80 :: List.replicate ((119 - m.length % 64) % 64) (0 : UInt8) ++
    (List.range 8).reverse.map fun i => UInt8.ofNat ((8 * m.length) >>> (8 * i))

/-- The state's words, big-endian. -/
def State.bytes (s : State) : List UInt8 :=
  [s.a, s.b, s.c, s.d, s.e, s.f, s.g, s.h].flatMap wordBytes

/-- `hashlib.sha256(data).digest()`. -/
def sha256 (data : List UInt8) : List UInt8 :=
  (((pad data).toChunks 64).foldl compress initial).bytes

/-- `.hexdigest()` of a digest. -/
def hexdigest (digest : List UInt8) : List Char :=
  digest.flatMap fun b => hexByte b.toNat

/-- `s.encode()`: the UTF-8 bytes of a text. -/
def encode (s : String) : List UInt8 :=
  s.toUTF8.data.toList

/-- `[a-f0-9]`. -/
def isLowerHex (c : Char) : Bool :=
  c.isDigit || ('a' ≤ c && c ≤ 'f')

/-- The one-block example of FIPS 180-4. -/
example : hexdigest (sha256 (encode "abc")) =
    "ba7816bf8f01cfea414140de5dae2223b00361a396177a9cb410ff61f20015ad".data := by
  set_option maxRecDepth 100000 in decide

theorem sha256_length (data : List UInt8) : (sha256 data).length = 32 := by
  simp [sha256, State.bytes, wordBytes]

theorem hexdigest_length : ∀ digest : List UInt8, (hexdigest digest).length = 2 * digest.length
  | [] => rfl
  | b :: bs => by
      have ih := hexdigest_length bs
      simp only [hexdigest, hexByte] at ih
      simp [hexdigest, hexByte, ih]
      omega

theorem isLowerHex_digitChar : ∀ d < 16, isLowerHex (Nat.digitChar d) = true := by
  decide

/-- Every character `hexdigest` writes is in `[a-f0-9]`. -/
theorem hexdigest_lowerHex (digest : List UInt8) : ∀ c ∈ hexdigest digest, isLowerHex c = true := by
  intro c hc
  obtain ⟨b, -, hc⟩ := List.mem_flatMap.1 hc
  simp only [hexByte, List.mem_cons, List.mem_singleton, List.not_mem_nil, or_false] at hc
  rcases hc with rfl | rfl
  · exact isLowerHex_digitChar _ (Nat.mod_lt _ (by decide))
  · exact isLowerHex_digitChar _ (Nat.mod_lt _ (by decide))

end TfK8s.Py.Hashlib
