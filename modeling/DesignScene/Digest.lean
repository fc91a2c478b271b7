/-
This file computes the SHA-256 digest of a text.
-/

namespace DesignScene.Digest

/-- The eight words that are carried from block to block. -/
structure Words where
  a : UInt32
  b : UInt32
  c : UInt32
  d : UInt32
  e : UInt32
  f : UInt32
  g : UInt32
  h : UInt32

def initial : Words :=
  ⟨0x6A09E667, 0xBB67AE85, 0x3C6EF372, 0xA54FF53A, 0x510E527F, 0x9B05688C, 0x1F83D9AB, 0x5BE0CD19⟩

def constants : List UInt32 := [
  0x428A2F98, 0x71374491, 0xB5C0FBCF, 0xE9B5DBA5, 0x3956C25B, 0x59F111F1, 0x923F82A4, 0xAB1C5ED5,
  0xD807AA98, 0x12835B01, 0x243185BE, 0x550C7DC3, 0x72BE5D74, 0x80DEB1FE, 0x9BDC06A7, 0xC19BF174,
  0xE49B69C1, 0xEFBE4786, 0x0FC19DC6, 0x240CA1CC, 0x2DE92C6F, 0x4A7484AA, 0x5CB0A9DC, 0x76F988DA,
  0x983E5152, 0xA831C66D, 0xB00327C8, 0xBF597FC7, 0xC6E00BF3, 0xD5A79147, 0x06CA6351, 0x14292967,
  0x27B70A85, 0x2E1B2138, 0x4D2C6DFC, 0x53380D13, 0x650A7354, 0x766A0ABB, 0x81C2C92E, 0x92722C85,
  0xA2BFE8A1, 0xA81A664B, 0xC24B8B70, 0xC76C51A3, 0xD192E819, 0xD6990624, 0xF40E3585, 0x106AA070,
  0x19A4C116, 0x1E376C08, 0x2748774C, 0x34B0BCB5, 0x391C0CB3, 0x4ED8AA4A, 0x5B9CCA4F, 0x682E6FF3,
  0x748F82EE, 0x78A5636F, 0x84C87814, 0x8CC70208, 0x90BEFFFA, 0xA4506CEB, 0xBEF9A3F7, 0xC67178F2]

def rotate (word count : UInt32) : UInt32 := (word >>> count) ||| (word <<< (32 - count))

/-- The schedule word that follows the sixteen words of a window. -/
def nextWord (window : List UInt32) : UInt32 :=
  let first := window.getD 0 0
  let second := window.getD 1 0
  let tenth := window.getD 9 0
  let fifteenth := window.getD 14 0
  let small := rotate second 7 ^^^ rotate second 18 ^^^ (second >>> 3)
  let large := rotate fifteenth 17 ^^^ rotate fifteenth 19 ^^^ (fifteenth >>> 10)
  first + small + tenth + large

def round (constant word : UInt32) (words : Words) : Words :=
  let choice := (words.e &&& words.f) ^^^ (~~~words.e &&& words.g)
  let majority := (words.a &&& words.b) ^^^ (words.a &&& words.c) ^^^ (words.b &&& words.c)
  let large := rotate words.e 6 ^^^ rotate words.e 11 ^^^ rotate words.e 25
  let small := rotate words.a 2 ^^^ rotate words.a 13 ^^^ rotate words.a 22
  let first := words.h + large + choice + constant + word
  ⟨first + small + majority, words.a, words.b, words.c,
    words.d + first, words.e, words.f, words.g⟩

def rounds : List UInt32 → List UInt32 → Words → Words
  | constant :: more, word :: window, words =>
      rounds more (window ++ [nextWord (word :: window)]) (round constant word words)
  | _, _, words => words

def Words.add (first second : Words) : Words :=
  ⟨first.a + second.a, first.b + second.b, first.c + second.c, first.d + second.d,
    first.e + second.e, first.f + second.f, first.g + second.g, first.h + second.h⟩

def wordOfBytes (bytes : List UInt8) : UInt32 :=
  bytes.foldl (fun word byte => (word <<< 8) ||| byte.toUInt32) 0

def blockWords (block : List UInt8) : List UInt32 :=
  (List.range 16).map fun index => wordOfBytes ((block.drop (4 * index)).take 4)

def compress (words : Words) (block : List UInt8) : Words :=
  words.add (rounds constants (blockWords block) words)

/-- The bit length fills the last eight bytes of the last block. -/
def lengthBytes (length : Nat) : List UInt8 :=
  (List.range 8).map fun index => UInt8.ofNat (8 * length / Nat.pow 256 (7 - index))

def pad (bytes : List UInt8) : List UInt8 :=
  let fill := (119 - bytes.length % 64) % 64
  bytes ++ 0x80 :: List.replicate fill 0 ++ lengthBytes bytes.length

def digest (bytes : List UInt8) : Words :=
  let padded := pad bytes
  (List.range (padded.length / 64)).foldl
    (fun words index => compress words ((padded.drop (64 * index)).take 64)) initial

def hexWord (word : UInt32) : List Char :=
  (List.range 8).map fun index => Nat.digitChar (word.toNat / Nat.pow 16 (7 - index) % 16)

/-- The digest of the UTF-8 bytes of a text, in lower-case hexadecimal digits. -/
def ofText (text : String) : String :=
  let words := digest text.toUTF8.toList
  String.ofList
    ([words.a, words.b, words.c, words.d, words.e, words.f, words.g, words.h].flatMap hexWord)

end DesignScene.Digest
