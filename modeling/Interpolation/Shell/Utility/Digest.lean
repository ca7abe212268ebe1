import Interpolation.Shell.Octets

/-!
# Digests

A digest is a short text that is made of all bytes of a long one. The bytes are filled up to whole
blocks, the last of which also tells how many there were, and each block changes some words that are
kept from block to block. The constants of a method are bits of roots of the first primes or of sines.
-/

namespace Interpolation.Shell.Utility.Digest

/-! ### Words -/

def number (bytes : List Nat) : Nat :=
  bytes.foldl (fun n b => 256 * n + b) 0

def bytesOf : Nat → Nat → List Nat
  | 0, _ => []
  | count + 1, n => bytesOf count (n / 256) ++ [n % 256]

def low (bits n : Nat) : Nat :=
  n % Nat.pow 2 bits

def add (bits a b : Nat) : Nat :=
  low bits (a + b)

def invert (bits a : Nat) : Nat :=
  Nat.pow 2 bits - 1 - a

def rotate (bits count a : Nat) : Nat :=
  a >>> count ||| low bits (a <<< (bits - count))

def filled (block lengthSize : Nat) (isLowFirst : Bool) (bytes : List Nat) : List Nat :=
  let length := bytesOf lengthSize (8 * bytes.length)
  let zeros := (block - (bytes.length + 1 + lengthSize) % block) % block
  bytes ++ 128 :: List.replicate zeros 0 ++ if isLowFirst then length.reverse else length

/-! ### Constants -/

def primes : List Nat :=
  (List.range 410).filter fun n => 2 ≤ n && (List.range n).all fun d => d < 2 || n % d != 0

def root (power n : Nat) : Nat :=
  (List.range (n.log2 / power + 1)).reverse.foldl (fun r i =>
    let higher := r + Nat.pow 2 i
    if Nat.pow higher power ≤ n then higher else r) 0

def rootBits (power bits n : Nat) : Nat :=
  low bits (root power (n * Nat.pow 2 (power * bits)))

/-! ### Methods of one kind -/

structure Rounds where
  bits : Nat
  count : Nat
  first : Nat × Nat × Nat
  second : Nat × Nat × Nat
  third : Nat × Nat × Nat
  fourth : Nat × Nat × Nat

namespace Rounds

def small : Rounds :=
  { bits := 32, count := 64, first := (2, 13, 22), second := (6, 11, 25), third := (7, 18, 3)
    fourth := (17, 19, 10) }

def large : Rounds :=
  { bits := 64, count := 80, first := (28, 34, 39), second := (14, 18, 41), third := (1, 8, 7)
    fourth := (19, 61, 6) }

def whirl (r : Rounds) (by_ : Nat × Nat × Nat) (a : Nat) : Nat :=
  rotate r.bits by_.1 a ^^^ rotate r.bits by_.2.1 a ^^^ rotate r.bits by_.2.2 a

def slide (r : Rounds) (by_ : Nat × Nat × Nat) (a : Nat) : Nat :=
  rotate r.bits by_.1 a ^^^ rotate r.bits by_.2.1 a ^^^ a >>> by_.2.2

def extended (r : Rounds) (block : List Nat) : List Nat :=
  (List.range (r.count - 16)).foldl (fun all _ =>
    let word (back : Nat) : Nat := all.getD (back - 1) 0
    low r.bits (word 16 + r.slide r.third (word 15) + word 7 + r.slide r.fourth (word 2)) :: all)
    block.reverse

def step (r : Rounds) (kept : List Nat) (word constant : Nat) : List Nat :=
  match kept with
  | [a, b, c, d, e, f, g, h] =>
    let choice := (e &&& f) ^^^ (invert r.bits e &&& g)
    let most := (a &&& b) ^^^ (a &&& c) ^^^ (b &&& c)
    let one := h + r.whirl r.second e + choice + constant + word
    let two := r.whirl r.first a + most
    [low r.bits (one + two), a, b, c, add r.bits d one, e, f, g]
  | kept => kept

def block (r : Rounds) (constants : List Nat) (kept bytes : List Nat) : List Nat :=
  let words := (Octets.grouped (r.bits / 8) 16 bytes).map number
  let after := ((r.extended words).reverse.zip constants).foldl (fun kept (word, constant) =>
    r.step kept word constant) kept
  kept.zipWith (add r.bits) after

def digest (r : Rounds) (start bytes : List Nat) : List Nat :=
  let constants := (primes.take r.count).map (rootBits 3 r.bits)
  let bytes := filled (2 * r.bits) (r.bits / 4) false bytes
  let kept := (Octets.grouped (2 * r.bits) bytes.length bytes).foldl (r.block constants) start
  kept.flatMap (bytesOf (r.bits / 8))

end Rounds

def sha256 (bytes : List Nat) : List Nat :=
  Rounds.small.digest ((primes.take 8).map (rootBits 2 32)) bytes

def sha512 (bytes : List Nat) : List Nat :=
  Rounds.large.digest ((primes.take 8).map (rootBits 2 64)) bytes

def sha384 (bytes : List Nat) : List Nat :=
  (Rounds.large.digest (((primes.drop 8).take 8).map (rootBits 2 64)) bytes).take 48

def sha224 (bytes : List Nat) : List Nat :=
  let start := ((primes.drop 8).take 8).map fun p => low 32 (rootBits 2 64 p)
  (Rounds.small.digest start bytes).take 28

/-! ### Older methods -/

def oldStart : List Nat :=
  [0x67452301, 0xEFCDAB89, 0x98BADCFE, 0x10325476]

def turn (count a : Nat) : Nat :=
  rotate 32 (32 - count) a

def step160 (kept : List Nat) (i word : Nat) : List Nat :=
  match kept with
  | [a, b, c, d, e] =>
    let (mixed, constant) :=
      if i < 20 then ((b &&& c) ||| (invert 32 b &&& d), 0x5A827999)
      else if i < 40 then (b ^^^ c ^^^ d, 0x6ED9EBA1)
      else if i < 60 then ((b &&& c) ||| (b &&& d) ||| (c &&& d), 0x8F1BBCDC)
      else (b ^^^ c ^^^ d, 0xCA62C1D6)
    [low 32 (turn 5 a + mixed + e + constant + word), a, turn 30 b, c, d]
  | kept => kept

def sha1 (bytes : List Nat) : List Nat :=
  let block (kept bytes : List Nat) : List Nat :=
    let words := (Octets.grouped 4 16 bytes).map number
    let words := (List.range 64).foldl (fun all _ =>
      let word (back : Nat) : Nat := all.getD (back - 1) 0
      turn 1 (word 3 ^^^ word 8 ^^^ word 14 ^^^ word 16) :: all) words.reverse
    let after := words.reverse.zipIdx.foldl (fun kept (word, i) => step160 kept i word) kept
    kept.zipWith (add 32) after
  let bytes := filled 64 8 false bytes
  ((Octets.grouped 64 bytes.length bytes).foldl block (oldStart ++ [0xC3D2E1F0])).flatMap (bytesOf 4)

def sines : List Nat :=
  (List.range 64).map fun i =>
    ((Nat.toFloat (i + 1)).sin.abs * 4294967296).toUInt64.toNat

def step128 (words : List Nat) (kept : List Nat) (i constant : Nat) : List Nat :=
  match kept with
  | [a, b, c, d] =>
    let (mixed, place, turns) :=
      if i < 16 then ((b &&& c) ||| (invert 32 b &&& d), i, [7, 12, 17, 22])
      else if i < 32 then ((d &&& b) ||| (invert 32 d &&& c), 5 * i + 1, [5, 9, 14, 20])
      else if i < 48 then (b ^^^ c ^^^ d, 3 * i + 5, [4, 11, 16, 23])
      else (c ^^^ (b ||| invert 32 d), 7 * i, [6, 10, 15, 21])
    let sum := low 32 (a + mixed + constant + words.getD (place % 16) 0)
    [d, add 32 b (turn (turns.getD (i % 4) 0) sum), b, c]
  | kept => kept

def md5 (bytes : List Nat) : List Nat :=
  let block (kept bytes : List Nat) : List Nat :=
    let words := (Octets.grouped 4 16 bytes).map fun w => number w.reverse
    let after := sines.zipIdx.foldl (fun kept (constant, i) => step128 words kept i constant) kept
    kept.zipWith (add 32) after
  let bytes := filled 64 8 true bytes
  ((Octets.grouped 64 bytes.length bytes).foldl block oldStart).flatMap fun w => (bytesOf 4 w).reverse

/-! ### Sums -/

def remainder (bytes : List Nat) : Nat :=
  let bit (n : Nat) : Nat :=
    let doubled := low 32 (2 * n)
    if n < 0x80000000 then doubled else doubled ^^^ 0x04C11DB7
  let row := ((List.range 256).map fun b =>
    (List.range 8).foldl (fun n _ => bit n) (b * Nat.pow 2 24)).toArray
  let add (n b : Nat) : Nat := low 32 (n * 256) ^^^ row.getD (n / Nat.pow 2 24 ^^^ b) 0
  let size := (bytesOf 8 bytes.length).dropWhile (· == 0)
  invert 32 (size.reverse.foldl add (bytes.foldl add 0))

def circleSum (bytes : List Nat) : Nat :=
  bytes.foldl (fun n b => add 16 (rotate 16 1 n) b) 0

/-- A sum of 16 bits with what is above them. -/
def plainSum (bytes : List Nat) : Nat :=
  let sum := low 32 (bytes.foldl (fun n b => n + b) 0)
  let sum := sum % 65536 + sum / 65536
  sum % 65536 + sum / 65536

end Interpolation.Shell.Utility.Digest
