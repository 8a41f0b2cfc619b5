import Mathlib

namespace SimLLM

def whitespaceCodes : List Nat :=
  [0x9, 0xa, 0xb, 0xc, 0xd, 0x1c, 0x1d, 0x1e, 0x1f, 0x20, 0x85, 0xa0, 0x1680, 0x2000, 0x2001,
   0x2002, 0x2003, 0x2004, 0x2005, 0x2006, 0x2007, 0x2008, 0x2009, 0x200a, 0x2028, 0x2029,
   0x202f, 0x205f, 0x3000]

def isSpace (c : Char) : Bool := whitespaceCodes.contains c.toNat

def nonblank (value : String) : Bool := value.toList.any fun c => !isSpace c

def strip (value : List Char) : List Char :=
  ((value.dropWhile isSpace).reverse.dropWhile isSpace).reverse

def digitZeros : List Nat :=
  [0x30, 0x660, 0x6F0, 0x7C0, 0x966, 0x9E6, 0xA66, 0xAE6, 0xB66, 0xBE6, 0xC66, 0xCE6, 0xD66,
   0xDE6, 0xE50, 0xED0, 0xF20, 0x1040, 0x1090, 0x17E0, 0x1810, 0x1946, 0x19D0, 0x1A80, 0x1A90,
   0x1B50, 0x1BB0, 0x1C40, 0x1C50, 0xA620, 0xA8D0, 0xA900, 0xA9D0, 0xA9F0, 0xAA50, 0xABF0,
   0xFF10, 0x104A0, 0x10D30, 0x11066, 0x110F0, 0x11136, 0x111D0, 0x112F0, 0x11450, 0x114D0,
   0x11650, 0x116C0, 0x11730, 0x118E0, 0x11950, 0x11C50, 0x11D50, 0x11DA0, 0x16A60, 0x16AC0,
   0x16B50, 0x1D7CE, 0x1D7D8, 0x1D7E2, 0x1D7EC, 0x1D7F6, 0x1E140, 0x1E2F0, 0x1E950, 0x1FBF0]

def digitValue (c : Char) : Option Nat :=
  (digitZeros.find? fun z => z ≤ c.toNat && c.toNat < z + 10).map (c.toNat - ·)

def lowerChar (c : Char) : Char := if c.toNat = 0x212a then 'k' else c.toLower

def readDigits : List Char → Nat → Nat × List Char
  | [], acc => (acc, [])
  | c :: rest, acc =>
    match digitValue c with
    | some d => readDigits rest (acc * 10 + d)
    | none => (acc, c :: rest)

def dropWord (word : String) (text : List Char) : Option (List Char) :=
  if word.toList.isPrefixOf text then some (text.drop word.length) else none

def deviceRank (lowered : List Char) : Option Nat := do
  let rest ← ["gpu:", "cuda:", "rank:"].findSome? (dropWord · lowered)
  let first ← rest.head?
  let _ ← digitValue first
  match readDigits rest 0 with
  | (rank, []) => some rank
  | (rank, ':' :: _) => some rank
  | _ => none

def normalizeEndpoint (value : String) : List Char := (strip value.toList).map lowerChar

example : deviceRank (normalizeEndpoint " GPU:12:hbm ") = some 12 := by decide +kernel

end SimLLM
