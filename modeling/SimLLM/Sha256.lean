import Mathlib

namespace Sha256

structure Words where
  a : Nat
  b : Nat
  c : Nat
  d : Nat
  e : Nat
  f : Nat
  g : Nat
  h : Nat
  deriving DecidableEq, Repr

def mask (x : Nat) : Nat := x % 4294967296

def rotr (x n : Nat) : Nat := mask ((x >>> n) ||| (x <<< (32 - n)))

def roundConstants : List Nat :=
  [0x428a2f98, 0x71374491, 0xb5c0fbcf, 0xe9b5dba5, 0x3956c25b, 0x59f111f1, 0x923f82a4, 0xab1c5ed5,
   0xd807aa98, 0x12835b01, 0x243185be, 0x550c7dc3, 0x72be5d74, 0x80deb1fe, 0x9bdc06a7, 0xc19bf174,
   0xe49b69c1, 0xefbe4786, 0x0fc19dc6, 0x240ca1cc, 0x2de92c6f, 0x4a7484aa, 0x5cb0a9dc, 0x76f988da,
   0x983e5152, 0xa831c66d, 0xb00327c8, 0xbf597fc7, 0xc6e00bf3, 0xd5a79147, 0x06ca6351, 0x14292967,
   0x27b70a85, 0x2e1b2138, 0x4d2c6dfc, 0x53380d13, 0x650a7354, 0x766a0abb, 0x81c2c92e, 0x92722c85,
   0xa2bfe8a1, 0xa81a664b, 0xc24b8b70, 0xc76c51a3, 0xd192e819, 0xd6990624, 0xf40e3585, 0x106aa070,
   0x19a4c116, 0x1e376c08, 0x2748774c, 0x34b0bcb5, 0x391c0cb3, 0x4ed8aa4a, 0x5b9cca4f, 0x682e6ff3,
   0x748f82ee, 0x78a5636f, 0x84c87814, 0x8cc70208, 0x90befffa, 0xa4506ceb, 0xbef9a3f7, 0xc67178f2]

def initial : Words :=
  ⟨0x6a09e667, 0xbb67ae85, 0x3c6ef372, 0xa54ff53a, 0x510e527f, 0x9b05688c, 0x1f83d9ab,
   0x5be0cd19⟩

def bigSigma0 (x : Nat) : Nat := rotr x 2 ^^^ rotr x 13 ^^^ rotr x 22
def bigSigma1 (x : Nat) : Nat := rotr x 6 ^^^ rotr x 11 ^^^ rotr x 25
def smallSigma0 (x : Nat) : Nat := rotr x 7 ^^^ rotr x 18 ^^^ (x >>> 3)
def smallSigma1 (x : Nat) : Nat := rotr x 17 ^^^ rotr x 19 ^^^ (x >>> 10)
def choose (x y z : Nat) : Nat := (x &&& y) ^^^ ((x ^^^ 4294967295) &&& z)
def majority (x y z : Nat) : Nat := (x &&& y) ^^^ (x &&& z) ^^^ (y &&& z)

def extend : Nat → List Nat → List Nat
  | 0, recent => recent
  | n + 1, recent =>
    extend n (mask (smallSigma1 (recent.getD 1 0) + recent.getD 6 0 +
      smallSigma0 (recent.getD 14 0) + recent.getD 15 0) :: recent)

def round (s : Words) (kw : Nat × Nat) : Words :=
  let t1 := s.h + bigSigma1 s.e + choose s.e s.f s.g + kw.1 + kw.2
  let t2 := bigSigma0 s.a + majority s.a s.b s.c
  ⟨mask (t1 + t2), s.a, s.b, s.c, mask (s.d + t1), s.e, s.f, s.g⟩

def compress (s : Words) (block : List Nat) : Words :=
  let schedule := (extend 48 block.reverse).reverse
  let t := (roundConstants.zip schedule).foldl round s
  ⟨mask (s.a + t.a), mask (s.b + t.b), mask (s.c + t.c), mask (s.d + t.d),
   mask (s.e + t.e), mask (s.f + t.f), mask (s.g + t.g), mask (s.h + t.h)⟩

def bigEndian : Nat → Nat → List Nat
  | 0, _ => []
  | n + 1, x => bigEndian n (x / 256) ++ [x % 256]

def pad (bytes : List Nat) : List Nat :=
  bytes ++ 0x80 :: List.replicate ((119 - bytes.length % 64) % 64) 0 ++
    bigEndian 8 (8 * bytes.length)

def toWords : List Nat → List Nat
  | a :: b :: c :: d :: rest => (((a * 256 + b) * 256 + c) * 256 + d) :: toWords rest
  | _ => []

def blocks : Nat → List Nat → List (List Nat)
  | 0, _ => []
  | n + 1, words => words.take 16 :: blocks n (words.drop 16)

def digest (bytes : List Nat) : Words :=
  let padded := pad bytes
  (blocks (padded.length / 64) (toWords padded)).foldl compress initial

def hexDigits : List Char := "0123456789abcdef".toList

def hex : Nat → Nat → List Char
  | 0, _ => []
  | n + 1, x => hex n (x / 16) ++ [hexDigits.getD (x % 16) '0']

def hexdigest (bytes : List Nat) : String :=
  let s := digest bytes
  String.ofList ([s.a, s.b, s.c, s.d, s.e, s.f, s.g, s.h].flatMap (hex 8))

theorem hex_length (n x : Nat) : (hex n x).length = n := by
  induction n generalizing x with
  | zero => rfl
  | succ n ih => simp [hex, ih]

theorem hex_mem {n x : Nat} {c : Char} (h : c ∈ hex n x) : c ∈ hexDigits := by
  induction n generalizing x with
  | zero => simp [hex] at h
  | succ n ih =>
    rcases List.mem_append.mp h with h | h
    · exact ih h
    · have hlt : x % 16 < hexDigits.length := Nat.mod_lt x (by decide)
      have hc : c = hexDigits[x % 16] := by simpa [List.getD_eq_getElem?_getD, hlt] using h
      exact hc ▸ List.getElem_mem hlt

theorem hexdigest_length (bytes : List Nat) : (hexdigest bytes).toList.length = 64 := by
  simp [hexdigest, hex_length]

theorem hexdigest_mem {bytes : List Nat} {c : Char} (h : c ∈ (hexdigest bytes).toList) :
    c ∈ hexDigits := by
  simp only [hexdigest, String.toList_ofList, List.mem_flatMap] at h
  obtain ⟨_, -, h⟩ := h
  exact hex_mem h

example : hexdigest [97, 98, 99] =
    "ba7816bf8f01cfea414140de5dae2223b00361a396177a9cb410ff61f20015ad" := by
  decide +kernel

end Sha256
