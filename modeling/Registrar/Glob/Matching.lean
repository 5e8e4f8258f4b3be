import Registrar.Glob.Pattern

/-!
# What a pattern matches

A pattern is matched against the bytes of a whole path. A piece matches a start of the bytes in
zero or more ways, each of which leaves some bytes; the pattern matches if some way leaves none.
-/

namespace Registrar.Glob

/-- What patterns match paths by. -/
abbrev Byte := UInt8

/-- The byte that separates the names in a path. -/
def slash : Byte := 0x2F

/-- The bytes of a character. -/
def bytesOf (character : Char) : List Byte :=
  (String.singleton character).toUTF8.data.toList

/-- The ranges of bytes that a range of characters stands for: a range between the last byte of
its first character and the first byte of its last, and each of the other bytes alone. -/
def byteRanges (range : Char × Char) : List (Byte × Byte) :=
  let first := bytesOf range.1
  let last := bytesOf range.2
  if range.1 = range.2 then first.map fun byte => (byte, byte)
  else
    first.dropLast.map (fun byte => (byte, byte)) ++
      (first.getLast?.getD 0, last.head?.getD 0) :: last.tail.map fun byte => (byte, byte)

/-- Whether a byte is in a class, or in none of its ranges if the class is negated. -/
def inClass (negated : Bool) (ranges : List (Char × Char)) (byte : Byte) : Bool :=
  (ranges.flatMap byteRanges).any (fun (first, last) => first ≤ byte && byte ≤ last) != negated

/-- All that may be left after any number of bytes that pass a test. -/
def afterRun (test : Byte → Bool) : List Byte → List (List Byte)
  | [] => [[]]
  | byte :: rest =>
    (byte :: rest) :: if test byte then afterRun test rest else []

/-- What may follow a single byte that passes a test. -/
def afterByte (test : Byte → Bool) : List Byte → List (List Byte)
  | [] => []
  | byte :: rest => if test byte then [rest] else []

/-- What may follow a slash anywhere in a path. -/
def afterSlashes (bytes : List Byte) : List (List Byte) :=
  (afterRun (fun _ => true) bytes).flatMap (afterByte (· == slash))

/-- What follows the given bytes. -/
def afterBytes : List Byte → List Byte → List (List Byte)
  | [], bytes => [bytes]
  | _ :: _, [] => []
  | expected :: others, byte :: rest => if expected = byte then afterBytes others rest else []

mutual

/-- Whether a piece is a group that has nothing to match. -/
def Piece.isVoid : Piece → Bool
  | .group branches => areVoid branches
  | _ => false

/-- Whether a branch has nothing to match. -/
def isVoid : List Piece → Bool
  | [] => true
  | piece :: others => piece.isVoid && isVoid others

/-- Whether all branches have nothing to match. -/
def areVoid : List (List Piece) → Bool
  | [] => true
  | branch :: others => isVoid branch && areVoid others

end

mutual

/-- All that a piece may leave of the given bytes. -/
def Piece.remainders : Piece → List Byte → List (List Byte)
  | .character value, bytes => afterBytes (bytesOf value) bytes
  | .anyByte, bytes => afterByte (· != slash) bytes
  | .anyRun, bytes => afterRun (· != slash) bytes
  | .leadingDirectories, bytes => bytes :: afterSlashes bytes
  | .trailingPath, bytes => (afterByte (· == slash) bytes).flatMap (afterRun fun _ => true)
  | .innerDirectories, bytes =>
    (afterByte (· == slash) bytes).flatMap fun rest => rest :: afterSlashes rest
  | .byteClass negated ranges, bytes => afterByte (inClass negated ranges) bytes
  | .group branches, bytes =>
    if areVoid branches then [bytes] else anyRemainders branches bytes

/-- All that consecutive pieces may leave of the given bytes. -/
def remainders : List Piece → List Byte → List (List Byte)
  | [], bytes => [bytes]
  | piece :: others, bytes =>
    ((piece.remainders bytes).flatMap (remainders others)).eraseDups

/-- All that the branches of a group may leave of the given bytes. A branch that has nothing to
match is left out. -/
def anyRemainders : List (List Piece) → List Byte → List (List Byte)
  | [], _ => []
  | branch :: others, bytes =>
    (if isVoid branch then [] else remainders branch bytes) ++ anyRemainders others bytes

end

/-- Whether the pattern matches the bytes of a path. A pattern that is `**` alone matches every
path. -/
def accepts (glob : Glob) (path : List Byte) : Bool :=
  match glob.pieces with
  | [.leadingDirectories] => true
  | pieces => (remainders pieces path).contains []

end Registrar.Glob
