/-
SkillsSdk/Lib/Sha256.lean

SHA-256 as an executable function on lists of bytes.

Words are natural numbers below `2 ^ 32`.  `hexdigest` writes the eight words of
the final state in 64 lower-case hexadecimal digits (`length_hexdigest`,
`mem_hexdigest`).
-/
import Mathlib.Data.List.GetD
import Mathlib.Tactic.Common

namespace Sha256Core

/-! ### Words -/

/-- The word with the bits of `x`, as far as they fit. -/
def word32 (x : Nat) : Nat := x % 0x100000000

/-- Rotation to the right by `n` places. -/
def rotr (n x : Nat) : Nat := word32 (x >>> n ||| x <<< (32 - n))

def bigSigma0 (x : Nat) : Nat := rotr 2 x ^^^ rotr 13 x ^^^ rotr 22 x
def bigSigma1 (x : Nat) : Nat := rotr 6 x ^^^ rotr 11 x ^^^ rotr 25 x
def smallSigma0 (x : Nat) : Nat := rotr 7 x ^^^ rotr 18 x ^^^ x >>> 3
def smallSigma1 (x : Nat) : Nat := rotr 17 x ^^^ rotr 19 x ^^^ x >>> 10

def choose (x y z : Nat) : Nat := (x &&& y) ^^^ ((0xffffffff - x) &&& z)
def majority (x y z : Nat) : Nat := (x &&& y) ^^^ (x &&& z) ^^^ (y &&& z)

/-- The round constants. -/
def roundConstants : List Nat :=
  [0x428a2f98, 0x71374491, 0xb5c0fbcf, 0xe9b5dba5, 0x3956c25b, 0x59f111f1, 0x923f82a4, 0xab1c5ed5,
    0xd807aa98, 0x12835b01, 0x243185be, 0x550c7dc3, 0x72be5d74, 0x80deb1fe, 0x9bdc06a7, 0xc19bf174,
    0xe49b69c1, 0xefbe4786, 0x0fc19dc6, 0x240ca1cc, 0x2de92c6f, 0x4a7484aa, 0x5cb0a9dc, 0x76f988da,
    0x983e5152, 0xa831c66d, 0xb00327c8, 0xbf597fc7, 0xc6e00bf3, 0xd5a79147, 0x06ca6351, 0x14292967,
    0x27b70a85, 0x2e1b2138, 0x4d2c6dfc, 0x53380d13, 0x650a7354, 0x766a0abb, 0x81c2c92e, 0x92722c85,
    0xa2bfe8a1, 0xa81a664b, 0xc24b8b70, 0xc76c51a3, 0xd192e819, 0xd6990624, 0xf40e3585, 0x106aa070,
    0x19a4c116, 0x1e376c08, 0x2748774c, 0x34b0bcb5, 0x391c0cb3, 0x4ed8aa4a, 0x5b9cca4f, 0x682e6ff3,
    0x748f82ee, 0x78a5636f, 0x84c87814, 0x8cc70208, 0x90befffa, 0xa4506ceb, 0xbef9a3f7, 0xc67178f2]

/-! ### Compression -/

/-- The eight working words. -/
structure State where
  a : Nat
  b : Nat
  c : Nat
  d : Nat
  e : Nat
  f : Nat
  g : Nat
  h : Nat

def State.initial : State :=
  ⟨0x6a09e667, 0xbb67ae85, 0x3c6ef372, 0xa54ff53a, 0x510e527f, 0x9b05688c, 0x1f83d9ab, 0x5be0cd19⟩

/-- One round. -/
def State.round (s : State) (k w : Nat) : State :=
  let t₁ := s.h + bigSigma1 s.e + choose s.e s.f s.g + k + w
  let t₂ := bigSigma0 s.a + majority s.a s.b s.c
  ⟨word32 (t₁ + t₂), s.a, s.b, s.c, word32 (s.d + t₁), s.e, s.f, s.g⟩

def State.add (s t : State) : State :=
  ⟨word32 (s.a + t.a), word32 (s.b + t.b), word32 (s.c + t.c), word32 (s.d + t.d),
    word32 (s.e + t.e), word32 (s.f + t.f), word32 (s.g + t.g), word32 (s.h + t.h)⟩

/-- The first `n` words of the schedule, from the window of the last sixteen. -/
def schedule : Nat → List Nat → List Nat
  | 0, _ => []
  | _ + 1, [] => []
  | n + 1, w :: ws =>
    let next := smallSigma1 (ws.getD 13 0) + ws.getD 8 0 + smallSigma0 (ws.getD 0 0) + w
    w :: schedule n (ws ++ [word32 next])

/-- One block of sixteen words. -/
def State.compress (s : State) (block : List Nat) : State :=
  s.add ((roundConstants.zip (schedule 64 block)).foldl (fun t kw => t.round kw.1 kw.2) s)

/-! ### Messages -/

/-- `n` bytes of a number, most significant first. -/
def bigEndian : Nat → Nat → List Nat
  | 0, _ => []
  | n + 1, x => bigEndian n (x / 256) ++ [x % 256]

/-- The message with the end mark, the zeros and its length in bits. -/
def pad (message : List UInt8) : List Nat :=
  message.map UInt8.toNat ++ 0x80 ::
    (List.replicate ((119 - message.length % 64) % 64) 0 ++ bigEndian 8 (8 * message.length))

/-- Bytes by fours, as words. -/
def words : List Nat → List Nat
  | a :: b :: c :: d :: rest => (((a * 256 + b) * 256 + c) * 256 + d) :: words rest
  | _ => []

/-- The first `n` blocks of sixteen words. -/
def blocks : Nat → List Nat → List (List Nat)
  | 0, _ => []
  | n + 1, ws => ws.take 16 :: blocks n (ws.drop 16)

/-- The final state on a message. -/
def digest (message : List UInt8) : State :=
  let padded := words (pad message)
  (blocks (padded.length / 16) padded).foldl State.compress State.initial

def hexAlphabet : List Char := "0123456789abcdef".toList

/-- `n` hexadecimal digits of a number, most significant first. -/
def hexDigits : Nat → Nat → List Char
  | 0, _ => []
  | n + 1, x => hexDigits n (x / 16) ++ [hexAlphabet.getD (x % 16) '0']

/-- The digest in hexadecimal. -/
def hexdigest (message : List UInt8) : List Char :=
  let s := digest message
  [s.a, s.b, s.c, s.d, s.e, s.f, s.g, s.h].flatMap (hexDigits 8)

theorem length_hexDigits (n x : Nat) : (hexDigits n x).length = n := by
  induction n generalizing x with
  | zero => rfl
  | succ n ih => simp [hexDigits, ih]

theorem mem_hexDigits {n x : Nat} {c : Char} (h : c ∈ hexDigits n x) : c ∈ hexAlphabet := by
  induction n generalizing x with
  | zero => cases h
  | succ n ih =>
    rcases List.mem_append.mp h with h | h
    · exact ih h
    · have hlt : x % 16 < hexAlphabet.length := Nat.mod_lt x (by decide)
      rw [List.mem_singleton.mp h, List.getD_eq_getElem hexAlphabet '0' hlt]
      exact List.getElem_mem _

theorem length_hexdigest (message : List UInt8) : (hexdigest message).length = 64 := by
  simp [hexdigest, length_hexDigits]

theorem mem_hexdigest {message : List UInt8} {c : Char} (h : c ∈ hexdigest message) :
    c ∈ hexAlphabet := by
  obtain ⟨w, -, hw⟩ := List.mem_flatMap.mp h
  exact mem_hexDigits hw

example : hexdigest [0x61, 0x62, 0x63] =
    "ba7816bf8f01cfea414140de5dae2223b00361a396177a9cb410ff61f20015ad".toList := by decide +kernel

end Sha256Core
