import MalwareScan.Bytes

/-!
# UTF-8

Texts travel as UTF-8. `encode` and `decode?` convert without loss; `decodeLossy` reads any bytes,
with one replacement character for each longest part that could still have begun a character.
-/

namespace MalwareScan.Text.Utf8

/-- The bytes of `s`. -/
def encode (s : String) : Bytes :=
  s.toByteArray.data.toList

/-- The text whose bytes are `bytes`, if there is one. -/
def decode? (bytes : Bytes) : Option String :=
  String.fromUTF8? ⟨bytes.toArray⟩

/-- A byte that continues a character. -/
def isTail (b : UInt8) : Bool :=
  0x80 ≤ b && b ≤ 0xBF

/-- The bytes that may follow the first byte of a character of three or four bytes. -/
def isSecond (first b : UInt8) : Bool :=
  if first = 0xE0 then 0xA0 ≤ b && b ≤ 0xBF
  else if first = 0xED then 0x80 ≤ b && b ≤ 0x9F
  else if first = 0xF0 then 0x90 ≤ b && b ≤ 0xBF
  else if first = 0xF4 then 0x80 ≤ b && b ≤ 0x8F
  else isTail b

/-- What stands for bytes that are no character. -/
def replacement : Char := '\uFFFD'

/-- The character that begins with `first`, or the replacement, and how many bytes of `rest` belong
to it. -/
def nextChar (first : UInt8) (rest : Bytes) : Char × Nat :=
  let tail (b : UInt8) : Nat := b.toNat % 64
  if first < 0x80 then (Char.ofNat first.toNat, 0)
  else if 0xC2 ≤ first && first ≤ 0xDF then
    match rest with
    | b :: _ =>
      if isTail b then (Char.ofNat (first.toNat % 32 * 64 + tail b), 1) else (replacement, 0)
    | [] => (replacement, 0)
  else if 0xE0 ≤ first && first ≤ 0xEF then
    match rest with
    | b :: more =>
      if isSecond first b then
        match more with
        | c :: _ =>
          if isTail c then
            (Char.ofNat (first.toNat % 16 * 4096 + tail b * 64 + tail c), 2)
          else (replacement, 1)
        | [] => (replacement, 1)
      else (replacement, 0)
    | [] => (replacement, 0)
  else if 0xF0 ≤ first && first ≤ 0xF4 then
    match rest with
    | b :: more =>
      if isSecond first b then
        match more with
        | c :: more =>
          if isTail c then
            match more with
            | d :: _ =>
              if isTail d then
                (Char.ofNat (first.toNat % 8 * 262144 + tail b * 4096 + tail c * 64 + tail d), 3)
              else (replacement, 2)
            | [] => (replacement, 2)
          else (replacement, 1)
        | [] => (replacement, 1)
      else (replacement, 0)
    | [] => (replacement, 0)
  else (replacement, 0)

/-- The characters of `bytes`, replacements among them where the bytes are no characters. -/
def decodeLossy : Bytes → List Char
  | [] => []
  | first :: rest =>
    let next := nextChar first rest
    next.1 :: decodeLossy (rest.drop next.2)
termination_by bytes => bytes.length
decreasing_by
  simp only [List.length_drop, List.length_cons]
  omega

/-- A text is read back from its bytes. -/
@[simp] theorem decode?_encode (s : String) : decode? (encode s) = some s := by
  have h : (⟨s.toByteArray.data.toList.toArray⟩ : ByteArray) = s.toByteArray := by simp
  simp only [decode?, encode, h, String.fromUTF8?, s.isValidUTF8, dite_true]
  rfl

end MalwareScan.Text.Utf8
