/-!
# Digests

The 256 bit digest of the Secure Hash Standard. The message is padded to blocks of sixteen words;
each block is expanded to a schedule of sixty-four words, one for each round of the compression.
-/

namespace Registrar

/-- The digest of a message: eight words. -/
structure Digest where
  words : List UInt32
  deriving DecidableEq, Repr

namespace Digest

/-- The unit in which a digest is computed: thirty-two bits. -/
abbrev Word := UInt32

/-- The bits of a word moved to the right, those that fall out coming back at the left. -/
def rotate (word : Word) (count : Word) : Word :=
  (word >>> count) ||| (word <<< (32 - count))

/-- The constants of the sixty-four rounds, as the standard gives them. -/
def roundConstants : List Word := [
  0x428a2f98, 0x71374491, 0xb5c0fbcf, 0xe9b5dba5, 0x3956c25b, 0x59f111f1, 0x923f82a4, 0xab1c5ed5,
  0xd807aa98, 0x12835b01, 0x243185be, 0x550c7dc3, 0x72be5d74, 0x80deb1fe, 0x9bdc06a7, 0xc19bf174,
  0xe49b69c1, 0xefbe4786, 0x0fc19dc6, 0x240ca1cc, 0x2de92c6f, 0x4a7484aa, 0x5cb0a9dc, 0x76f988da,
  0x983e5152, 0xa831c66d, 0xb00327c8, 0xbf597fc7, 0xc6e00bf3, 0xd5a79147, 0x06ca6351, 0x14292967,
  0x27b70a85, 0x2e1b2138, 0x4d2c6dfc, 0x53380d13, 0x650a7354, 0x766a0abb, 0x81c2c92e, 0x92722c85,
  0xa2bfe8a1, 0xa81a664b, 0xc24b8b70, 0xc76c51a3, 0xd192e819, 0xd6990624, 0xf40e3585, 0x106aa070,
  0x19a4c116, 0x1e376c08, 0x2748774c, 0x34b0bcb5, 0x391c0cb3, 0x4ed8aa4a, 0x5b9cca4f, 0x682e6ff3,
  0x748f82ee, 0x78a5636f, 0x84c87814, 0x8cc70208, 0x90befffa, 0xa4506ceb, 0xbef9a3f7, 0xc67178f2]

/-- The state between two rounds. -/
structure State where
  a : Word
  b : Word
  c : Word
  d : Word
  e : Word
  f : Word
  g : Word
  h : Word

namespace State

/-- The state before the first block. -/
def initial : State :=
  ⟨0x6a09e667, 0xbb67ae85, 0x3c6ef372, 0xa54ff53a, 0x510e527f, 0x9b05688c, 0x1f83d9ab, 0x5be0cd19⟩

/-- One round with the sum of its constant and its word of the schedule. -/
def round (state : State) (input : Word) : State :=
  let choice := (state.e &&& state.f) ^^^ (~~~state.e &&& state.g)
  let majority := (state.a &&& state.b) ^^^ (state.a &&& state.c) ^^^ (state.b &&& state.c)
  let low := rotate state.e 6 ^^^ rotate state.e 11 ^^^ rotate state.e 25
  let high := rotate state.a 2 ^^^ rotate state.a 13 ^^^ rotate state.a 22
  let first := state.h + low + choice + input
  ⟨first + high + majority, state.a, state.b, state.c, state.d + first, state.e, state.f, state.g⟩

/-- The sum of two states, word by word. -/
def add (left right : State) : State :=
  ⟨left.a + right.a, left.b + right.b, left.c + right.c, left.d + right.d,
    left.e + right.e, left.f + right.f, left.g + right.g, left.h + right.h⟩

end State

/-- The next word of a schedule after sixteen words, which come first to last. -/
def nextWord (window : List Word) : Word :=
  let early := window.getD 1 0
  let late := window.getD 14 0
  window.getD 0 0 + (rotate early 7 ^^^ rotate early 18 ^^^ (early >>> 3)) + window.getD 9 0 +
    (rotate late 17 ^^^ rotate late 19 ^^^ (late >>> 10))

/-- The given number of words of a schedule that starts with the given sixteen words. -/
def schedule : Nat → List Word → List Word
  | 0, _ => []
  | count + 1, window =>
    window.getD 0 0 :: schedule count (window.tail ++ [nextWord window])

/-- The state after a block. -/
def compress (state : State) (block : List Word) : State :=
  state.add ((List.zipWith (· + ·) roundConstants (schedule 64 block)).foldl State.round state)

/-- The big-endian words of bytes. Bytes that do not fill a word are dropped. -/
def wordsOfBytes : List UInt8 → List Word
  | a :: b :: c :: d :: rest =>
    ((a.toUInt32 <<< 24) ||| (b.toUInt32 <<< 16) ||| (c.toUInt32 <<< 8) ||| d.toUInt32) ::
      wordsOfBytes rest
  | _ => []

/-- The words of a message, followed by a one bit, zeros and the number of its bits. -/
def paddedWords (message : List UInt8) : List Word :=
  let bits := 8 * message.length
  let zeros := List.replicate ((119 - message.length % 64) % 64) 0
  wordsOfBytes (message ++ 0x80 :: zeros) ++
    [UInt32.ofNat (bits / 4294967296), UInt32.ofNat bits]

/-- The state after all blocks of the given words. -/
def compressAll (state : State) : Nat → List Word → State
  | 0, _ => state
  | blocks + 1, words => compressAll (compress state (words.take 16)) blocks (words.drop 16)

/-- The digest of a message. -/
def ofBytes (message : ByteArray) : Digest :=
  let words := paddedWords message.data.toList
  let state := compressAll .initial (words.length / 16) words
  ⟨[state.a, state.b, state.c, state.d, state.e, state.f, state.g, state.h]⟩

/-- The digest of a text, by its bytes. -/
def ofText (text : String) : Digest :=
  ofBytes text.toUTF8

/-- The eight hexadecimal digits of a word. -/
def hexOfWord (word : Word) : List Char :=
  let digits := Nat.toDigits 16 word.toNat
  List.replicate (8 - digits.length) '0' ++ digits

/-- The digest in hexadecimal digits. -/
def hex (digest : Digest) : String :=
  String.ofList (digest.words.flatMap hexOfWord)

end Digest

end Registrar
