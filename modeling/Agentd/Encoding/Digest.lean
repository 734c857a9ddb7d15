/-
# Digests in hexadecimal

`sha256.Sum256` of `crypto/sha256`, `sha1.Sum` of `crypto/sha1` and `hex.EncodeToString` of
`encoding/hex`, on lists of bytes.  The message is filled up to whole blocks of sixty-four bytes
with a one bit, zeros and its length; every block is spread over sixty-four words, or eighty, and
each of these is stirred into a state of eight words, or five.

Of the hash functions nothing is proved but the length of the sum: that they do not collide is not
a fact.  The hexadecimal text of a list of bytes determines it (`hexBytes_injective`).
-/

import Mathlib.Data.List.Basic

namespace Agentd
namespace Encoding

/-- A hexadecimal digit, in lower case. -/
def hexDigit (d : ℕ) : Char := if d < 10 then Char.ofNat (48 + d) else Char.ofNat (87 + d)

/-- The value of a hexadecimal digit in lower case. -/
def unhexDigit (c : Char) : ℕ := if c.toNat < 58 then c.toNat - 48 else c.toNat - 87

/-- `hex.EncodeToString`, as characters. -/
def hexBytes (bytes : List UInt8) : List Char :=
  bytes.flatMap fun b => [hexDigit (b.toNat / 16), hexDigit (b.toNat % 16)]

namespace Sha256

/-- The constants of the sixty-four rounds. -/
def k : List UInt32 :=
  [ 0x428a2f98, 0x71374491, 0xb5c0fbcf, 0xe9b5dba5, 0x3956c25b, 0x59f111f1, 0x923f82a4, 0xab1c5ed5,
    0xd807aa98, 0x12835b01, 0x243185be, 0x550c7dc3, 0x72be5d74, 0x80deb1fe, 0x9bdc06a7, 0xc19bf174,
    0xe49b69c1, 0xefbe4786, 0x0fc19dc6, 0x240ca1cc, 0x2de92c6f, 0x4a7484aa, 0x5cb0a9dc, 0x76f988da,
    0x983e5152, 0xa831c66d, 0xb00327c8, 0xbf597fc7, 0xc6e00bf3, 0xd5a79147, 0x06ca6351, 0x14292967,
    0x27b70a85, 0x2e1b2138, 0x4d2c6dfc, 0x53380d13, 0x650a7354, 0x766a0abb, 0x81c2c92e, 0x92722c85,
    0xa2bfe8a1, 0xa81a664b, 0xc24b8b70, 0xc76c51a3, 0xd192e819, 0xd6990624, 0xf40e3585, 0x106aa070,
    0x19a4c116, 0x1e376c08, 0x2748774c, 0x34b0bcb5, 0x391c0cb3, 0x4ed8aa4a, 0x5b9cca4f, 0x682e6ff3,
    0x748f82ee, 0x78a5636f, 0x84c87814, 0x8cc70208, 0x90befffa, 0xa4506ceb, 0xbef9a3f7, 0xc67178f2 ]

/-- The eight words of the state. -/
structure State where
  a : UInt32 := 0x6a09e667
  b : UInt32 := 0xbb67ae85
  c : UInt32 := 0x3c6ef372
  d : UInt32 := 0xa54ff53a
  e : UInt32 := 0x510e527f
  f : UInt32 := 0x9b05688c
  g : UInt32 := 0x1f83d9ab
  h : UInt32 := 0x5be0cd19

/-- A word, rotated to the right by `n` bits. -/
def rotateRight (x n : UInt32) : UInt32 := (x >>> n) ||| (x <<< (32 - n))

/-- The words of a block, the newest first, and `n` further ones. -/
def spread : ℕ → List UInt32 → List UInt32
  | 0, w => w
  | n + 1, w =>
      let w₂ := w.getD 1 0
      let w₇ := w.getD 6 0
      let w₁₅ := w.getD 14 0
      let w₁₆ := w.getD 15 0
      let s₀ := rotateRight w₁₅ 7 ^^^ rotateRight w₁₅ 18 ^^^ (w₁₅ >>> 3)
      let s₁ := rotateRight w₂ 17 ^^^ rotateRight w₂ 19 ^^^ (w₂ >>> 10)
      spread n ((w₁₆ + s₀ + w₇ + s₁) :: w)

/-- A round, with its constant and its word. -/
def round (s : State) (kw : UInt32 × UInt32) : State :=
  let s₁ := rotateRight s.e 6 ^^^ rotateRight s.e 11 ^^^ rotateRight s.e 25
  let ch := (s.e &&& s.f) ^^^ (~~~s.e &&& s.g)
  let t₁ := s.h + s₁ + ch + kw.1 + kw.2
  let s₀ := rotateRight s.a 2 ^^^ rotateRight s.a 13 ^^^ rotateRight s.a 22
  let maj := (s.a &&& s.b) ^^^ (s.a &&& s.c) ^^^ (s.b &&& s.c)
  { a := t₁ + (s₀ + maj), b := s.a, c := s.b, d := s.c
    e := s.d + t₁, f := s.e, g := s.f, h := s.g }

/-- The state after a block of sixteen words. -/
def block (s : State) (words : List UInt32) : State :=
  let t := (k.zip (spread 48 words.reverse).reverse).foldl round s
  { a := s.a + t.a, b := s.b + t.b, c := s.c + t.c, d := s.d + t.d, e := s.e + t.e, f := s.f + t.f,
    g := s.g + t.g, h := s.h + t.h }

/-- The bytes of a number, `n` of them, the greatest first. -/
def bigEndian (x : ℕ) : ℕ → List UInt8
  | 0 => []
  | n + 1 => UInt8.ofNat (x / 256 ^ n) :: bigEndian x n

/-- The message, filled up to whole blocks. -/
def pad (message : List UInt8) : List UInt8 :=
  message ++ 0x80 :: List.replicate ((119 - message.length % 64) % 64) 0 ++
    bigEndian (8 * message.length) 8

/-- The words of a list of bytes. -/
def words : List UInt8 → List UInt32
  | b₃ :: b₂ :: b₁ :: b₀ :: rest =>
      UInt32.ofNat (((b₃.toNat * 256 + b₂.toNat) * 256 + b₁.toNat) * 256 + b₀.toNat) :: words rest
  | _ => []

/-- The state after `n` blocks. -/
def blocks : ℕ → State → List UInt32 → State
  | 0, s, _ => s
  | n + 1, s, w => blocks n (block s (w.take 16)) (w.drop 16)

/-- `sha256.Sum256`. -/
def sum256 (message : List UInt8) : List UInt8 :=
  let w := words (pad message)
  let s := blocks (w.length / 16) {} w
  [s.a, s.b, s.c, s.d, s.e, s.f, s.g, s.h].flatMap fun x => bigEndian x.toNat 4

end Sha256

namespace Sha1

/-- The five words of the state. -/
structure State where
  a : UInt32 := 0x67452301
  b : UInt32 := 0xefcdab89
  c : UInt32 := 0x98badcfe
  d : UInt32 := 0x10325476
  e : UInt32 := 0xc3d2e1f0

/-- A word, rotated to the left by `n` bits. -/
def rotateLeft (x n : UInt32) : UInt32 := (x <<< n) ||| (x >>> (32 - n))

/-- The words of a block, the newest first, and `n` further ones. -/
def spread : ℕ → List UInt32 → List UInt32
  | 0, w => w
  | n + 1, w =>
      spread n (rotateLeft (w.getD 2 0 ^^^ w.getD 7 0 ^^^ w.getD 13 0 ^^^ w.getD 15 0) 1 :: w)

/-- The function of a round, with its constant. -/
def mix (i : ℕ) (s : State) : UInt32 :=
  if i < 20 then ((s.b &&& s.c) ||| (~~~s.b &&& s.d)) + 0x5a827999
  else if i < 40 then (s.b ^^^ s.c ^^^ s.d) + 0x6ed9eba1
  else if i < 60 then ((s.b &&& s.c) ||| (s.b &&& s.d) ||| (s.c &&& s.d)) + 0x8f1bbcdc
  else (s.b ^^^ s.c ^^^ s.d) + 0xca62c1d6

/-- Round `i`, with its word. -/
def round (s : State) (iw : ℕ × UInt32) : State :=
  { a := rotateLeft s.a 5 + mix iw.1 s + s.e + iw.2, b := s.a, c := rotateLeft s.b 30, d := s.c
    e := s.d }

/-- The state after a block of sixteen words. -/
def block (s : State) (words : List UInt32) : State :=
  let t := ((List.range 80).zip (spread 64 words.reverse).reverse).foldl round s
  { a := s.a + t.a, b := s.b + t.b, c := s.c + t.c, d := s.d + t.d, e := s.e + t.e }

/-- The state after `n` blocks. -/
def blocks : ℕ → State → List UInt32 → State
  | 0, s, _ => s
  | n + 1, s, w => blocks n (block s (w.take 16)) (w.drop 16)

/-- `sha1.Sum`: the message is filled up as for SHA-256. -/
def sum (message : List UInt8) : List UInt8 :=
  let w := Sha256.words (Sha256.pad message)
  let s := blocks (w.length / 16) {} w
  [s.a, s.b, s.c, s.d, s.e].flatMap fun x => Sha256.bigEndian x.toNat 4

end Sha1

/-- The bytes of a text. -/
def utf8 (s : String) : List UInt8 := s.toList.flatMap String.utf8EncodeChar

/-- The bytes of characters determine them. -/
theorem utf8EncodeChar_flatMap_injective :
    Function.Injective fun l : List Char => l.flatMap String.utf8EncodeChar := by
  intro l m h
  have hbytes : l.utf8Encode = m.utf8Encode := congrArg List.toByteArray h
  have htext := congrArg ByteArray.utf8Decode? hbytes
  rw [List.utf8Decode?_utf8Encode, List.utf8Decode?_utf8Encode] at htext
  exact List.toArray_inj (Option.some.inj htext)

/-- **The bytes of a text determine it.** -/
theorem utf8_injective : Function.Injective utf8 := fun _ _ h =>
  String.toList_inj.1 (utf8EncodeChar_flatMap_injective h)

/-- A digit is read back. -/
theorem unhexDigit_hexDigit : ∀ d < 16, unhexDigit (hexDigit d) = d := by
  decide

/-- **The text of a list of bytes determines it.** -/
theorem hexBytes_injective : Function.Injective hexBytes := by
  intro l m h
  induction l generalizing m with
  | nil =>
      cases m with
      | nil => rfl
      | cons c m => cases h
  | cons b l ih =>
      cases m with
      | nil => cases h
      | cons c m =>
          have hhigh : hexDigit (b.toNat / 16) = hexDigit (c.toNat / 16) := (List.cons.inj h).1
          have hlow : hexDigit (b.toNat % 16) = hexDigit (c.toNat % 16) :=
            (List.cons.inj (List.cons.inj h).2).1
          have hrest : hexBytes l = hexBytes m := (List.cons.inj (List.cons.inj h).2).2
          have hb := b.toNat_lt
          have hc := c.toNat_lt
          have hhigh' := congrArg unhexDigit hhigh
          have hlow' := congrArg unhexDigit hlow
          rw [unhexDigit_hexDigit _ (by omega), unhexDigit_hexDigit _ (by omega)] at hhigh' hlow'
          obtain rfl : b = c := UInt8.toNat_inj.1 (by omega)
          rw [ih hrest]

/-- A byte is written with two digits. -/
theorem length_hexBytes (bytes : List UInt8) : (hexBytes bytes).length = 2 * bytes.length := by
  induction bytes with
  | nil => rfl
  | cons b bytes ih =>
      rw [hexBytes, List.flatMap_cons, List.length_append, List.length_cons]
      have hrest : (bytes.flatMap fun b => [hexDigit (b.toNat / 16), hexDigit (b.toNat % 16)]).length =
        2 * bytes.length := ih
      rw [hrest, List.length_cons, List.length_cons, List.length_nil]
      omega

/-- The hexadecimal digits. -/
def hexDigits : List Char :=
  ['0', '1', '2', '3', '4', '5', '6', '7', '8', '9', 'a', 'b', 'c', 'd', 'e', 'f']

theorem hexDigit_mem : ∀ d < 16, hexDigit d ∈ hexDigits := by
  decide

/-- The text of a list of bytes is made of digits. -/
theorem mem_hexBytes {bytes : List UInt8} {c : Char} (h : c ∈ hexBytes bytes) : c ∈ hexDigits := by
  obtain ⟨b, -, hc⟩ := List.mem_flatMap.1 h
  have hb := b.toNat_lt
  rcases List.mem_cons.1 hc with rfl | hc
  · exact hexDigit_mem _ (by omega)
  · rw [List.mem_singleton.1 hc]
    exact hexDigit_mem _ (by omega)

theorem Sha256.length_bigEndian (x n : ℕ) : (bigEndian x n).length = n := by
  induction n with
  | zero => rfl
  | succ n ih =>
      show (bigEndian x n).length + 1 = n + 1
      rw [ih]

/-- A sum has thirty-two bytes. -/
theorem Sha256.length_sum256 (message : List UInt8) : (sum256 message).length = 32 := by
  simp [sum256, length_bigEndian]

/-- The digests of the three letters `abc`. -/
example : String.ofList (hexBytes (Sha256.sum256 [97, 98, 99])) =
    "ba7816bf8f01cfea414140de5dae2223b00361a396177a9cb410ff61f20015ad" := by
  decide +kernel

example : String.ofList (hexBytes (Sha1.sum [97, 98, 99])) =
    "a9993e364706816aba3e25717850c26c9cd0d89d" := by
  decide +kernel

end Encoding
end Agentd
