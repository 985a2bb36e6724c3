import MalwareScan.Digest.Block

/-!
# SHA-1

The 160-bit secure hash algorithm as a hash over blocks.
-/

namespace MalwareScan.Digest.Sha1

/-- The five words of the chaining state. -/
structure State where
  a : UInt32
  b : UInt32
  c : UInt32
  d : UInt32
  e : UInt32
  deriving DecidableEq, Repr

/-- `word` rotated left by `n` bits, for `0 < n < 32`. -/
def rotateLeft (word : UInt32) (n : UInt32) : UInt32 :=
  (word <<< n) ||| (word >>> (32 - n))

/-- The big-endian words of a block. -/
def wordsOf : Bytes → List UInt32
  | a :: b :: c :: d :: rest => Bytes.toUInt32 a b c d :: wordsOf rest
  | _ => []

/-- The eighty words of the message schedule. -/
def schedule (block : Bytes) : Array UInt32 :=
  (List.range 64).foldl (fun words i =>
      let t := i + 16
      words.push (rotateLeft (words.getD (t - 3) 0 ^^^ words.getD (t - 8) 0 ^^^
        words.getD (t - 14) 0 ^^^ words.getD (t - 16) 0) 1))
    (wordsOf block).toArray

/-- The round function and constant of round `t`. -/
def roundPart (t : Nat) (b c d : UInt32) : UInt32 × UInt32 :=
  if t < 20 then ((b &&& c) ||| (~~~b &&& d), 0x5A827999)
  else if t < 40 then (b ^^^ c ^^^ d, 0x6ED9EBA1)
  else if t < 60 then ((b &&& c) ||| (b &&& d) ||| (c &&& d), 0x8F1BBCDC)
  else (b ^^^ c ^^^ d, 0xCA62C1D6)

/-- One round. -/
def round (words : Array UInt32) (s : State) (t : Nat) : State :=
  let part := roundPart t s.b s.c s.d
  ⟨rotateLeft s.a 5 + part.1 + s.e + part.2 + words.getD t 0, s.a, rotateLeft s.b 30, s.c, s.d⟩

/-- How a block changes the state. -/
def compress (s : State) (block : Bytes) : State :=
  let words := schedule block
  let r := (List.range 80).foldl (round words) s
  ⟨s.a + r.a, s.b + r.b, s.c + r.c, s.d + r.d, s.e + r.e⟩

/-- SHA-1. -/
def hash : BlockHash State where
  start := ⟨0x67452301, 0xEFCDAB89, 0x98BADCFE, 0x10325476, 0xC3D2E1F0⟩
  compress := compress
  output s := [s.a, s.b, s.c, s.d, s.e].flatMap Bytes.ofUInt32

/-- A digest has twenty bytes. -/
theorem length_output (s : State) : (hash.output s).length = 20 := rfl

end MalwareScan.Digest.Sha1
