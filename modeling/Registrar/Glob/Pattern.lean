/-!
# File patterns

A pattern is written as a text. `?` stands for one byte and `*` for a run of bytes, both without a
slash; `**` stands for any number of directories where it fills a segment; `[a-z]` and `[!a-z]`
stand for one byte of a class or outside it; braces enclose branches that are separated by commas;
a backslash takes away the meaning of the character that follows. Outside braces a comma stands
for itself.
-/

namespace Registrar

/-- A part of a pattern. -/
inductive Glob.Piece
  | character (value : Char)
  /-- One byte that is no slash. -/
  | anyByte
  /-- Bytes that are no slash. -/
  | anyRun
  /-- Any directories that lead to the rest of the pattern. -/
  | leadingDirectories
  /-- A slash with anything that follows. -/
  | trailingPath
  /-- A slash, or two with anything between them. -/
  | innerDirectories
  | byteClass (negated : Bool) (ranges : List (Char × Char))
  | group (branches : List (List Glob.Piece))
  deriving Repr

/-- A pattern that was read. -/
structure Glob where
  pieces : List Glob.Piece
  deriving Repr

namespace Glob

/-- Why a text is not a pattern. -/
inductive Problem
  | unclosedClass
  | invalidRange (first last : Char)
  | unopenedGroup
  | unclosedGroup
  | danglingEscape
  deriving DecidableEq, Repr

/-- What is wrong with a pattern, in words. -/
def Problem.message : Problem → String
  | unclosedClass => "unclosed character class; missing ']'"
  | invalidRange first last => s!"invalid range; '{first}' > '{last}'"
  | unopenedGroup =>
    "unopened alternate group; missing '\x7b' (maybe escape '\x7d' with '[\x7d]'?)"
  | unclosedGroup =>
    "unclosed alternate group; missing '\x7d' (maybe escape '\x7b' with '[\x7b]'?)"
  | danglingEscape => "dangling '\\'"

/-- A pattern that is being read: the pieces of the open branch, last one first, and for each open
group, innermost first, the pieces before it and its finished branches. -/
structure Draft where
  pieces : List Piece
  groups : List (List Piece × List (List Piece))

namespace Draft

/-- Nothing was read. -/
def empty : Draft := ⟨[], []⟩

/-- Whether the pattern is read within a group. -/
def inGroup (draft : Draft) : Bool := !draft.groups.isEmpty

/-- Adds a piece to the open branch. -/
def add (draft : Draft) (piece : Piece) : Draft := { draft with pieces := piece :: draft.pieces }

/-- Begins a group with its first branch. -/
def openGroup (draft : Draft) : Draft := ⟨[], (draft.pieces, []) :: draft.groups⟩

/-- Ends a branch at a comma, which stands for itself outside groups. -/
def endBranch (draft : Draft) : Draft :=
  match draft.groups with
  | [] => draft.add (.character ',')
  | (before, branches) :: others => ⟨[], (before, branches ++ [draft.pieces.reverse]) :: others⟩

/-- Ends the innermost group. -/
def closeGroup (draft : Draft) : Except Problem Draft :=
  match draft.groups with
  | [] => .error .unopenedGroup
  | (before, branches) :: others =>
    .ok ⟨.group (branches ++ [draft.pieces.reverse]) :: before, others⟩

/-- Adds what `**` stands for at the end of a branch or in front of a slash, in place of the slash
before it. Directories that lead to the pattern, and a path that ends it, absorb it. -/
def addDirectories (draft : Draft) (atEnd : Bool) : Draft :=
  match draft.pieces with
  | .leadingDirectories :: _ => draft
  | .trailingPath :: _ => draft
  | pieces => ⟨(if atEnd then .trailingPath else .innerDirectories) :: pieces.tail, draft.groups⟩

/-- Whether `**` after the given character may stand for directories in a branch that has begun. -/
def startsSegment (draft : Draft) (previous : Option Char) : Bool :=
  previous == some '/' || draft.inGroup && (previous == some ',' || previous == some '\x7b')

/-- The pattern, if all groups are closed. -/
def finish (draft : Draft) : Except Problem Glob :=
  if draft.inGroup then .error .unclosedGroup else .ok ⟨draft.pieces.reverse⟩

end Draft

/-- A class that is being read: its ranges, last one first, whether a character was read, and
whether the last one may start a range that a hyphen continues. -/
structure ClassDraft where
  negated : Bool
  ranges : List (Char × Char)
  isFirst : Bool
  inRange : Bool

namespace ClassDraft

/-- Nothing was read. -/
def empty (negated : Bool) : ClassDraft := ⟨negated, [], true, false⟩

/-- Adds a character to the class, or ends a range with it. -/
def add (draft : ClassDraft) (character : Char) : Except Problem ClassDraft :=
  match draft.inRange, draft.ranges with
  | true, (first, _) :: others =>
    if character < first then .error (.invalidRange first character)
    else .ok ⟨draft.negated, (first, character) :: others, false, false⟩
  | _, ranges => .ok ⟨draft.negated, (character, character) :: ranges, false, false⟩

/-- Adds a hyphen, which stands for itself at the start of the class and at the end of a range. -/
def addHyphen (draft : ClassDraft) : Except Problem ClassDraft :=
  if draft.isFirst || draft.inRange then draft.add '-' else .ok { draft with inRange := true }

/-- The piece that the class is. A hyphen at its end stands for itself. -/
def finish (draft : ClassDraft) : Piece :=
  .byteClass draft.negated
    (if draft.inRange then ('-', '-') :: draft.ranges else draft.ranges).reverse

end ClassDraft

mutual

/-- Reads the rest of a pattern outside classes. -/
def readPieces (draft : Draft) (previous : Option Char) : List Char → Except Problem Glob
  | [] => draft.finish
  | '?' :: rest => readPieces (draft.add .anyByte) (some '?') rest
  | '*' :: '*' :: rest =>
    if draft.pieces.isEmpty then
      match rest with
      | [] => (draft.add .leadingDirectories).finish
      | '/' :: rest => readPieces (draft.add .leadingDirectories) (some '/') rest
      | rest => readPieces (draft.add .anyRun) (some '*') rest
    else if draft.startsSegment previous then
      match rest with
      | [] => (draft.addDirectories true).finish
      | '/' :: rest => readPieces (draft.addDirectories false) (some '/') rest
      | rest =>
        if draft.inGroup && (rest.head? == some ',' || rest.head? == some '\x7d') then
          readPieces (draft.addDirectories true) (some '*') rest
        else readPieces (draft.add .anyRun) (some '*') rest
    else readPieces (draft.add .anyRun) (some '*') rest
  | '*' :: rest => readPieces (draft.add .anyRun) (some '*') rest
  | '[' :: '!' :: rest => readClass draft (.empty true) rest
  | '[' :: '^' :: rest => readClass draft (.empty true) rest
  | '[' :: rest => readClass draft (.empty false) rest
  | '\x7b' :: rest => readPieces draft.openGroup (some '\x7b') rest
  | '\x7d' :: rest => do readPieces (← draft.closeGroup) (some '\x7d') rest
  | ',' :: rest => readPieces draft.endBranch (some ',') rest
  | ['\\'] => .error .danglingEscape
  | '\\' :: value :: rest => readPieces (draft.add (.character value)) (some value) rest
  | value :: rest => readPieces (draft.add (.character value)) (some value) rest

/-- Reads the rest of a pattern within a class. -/
def readClass (draft : Draft) (class' : ClassDraft) : List Char → Except Problem Glob
  | [] => .error .unclosedClass
  | ']' :: rest =>
    if class'.isFirst then do readClass draft (← class'.add ']') rest
    else readPieces (draft.add class'.finish) (some ']') rest
  | '-' :: rest => do readClass draft (← class'.addHyphen) rest
  | value :: rest => do readClass draft (← class'.add value) rest

end

/-- The pattern that a text spells, or what is wrong with the text. -/
def ofText (text : String) : Except Problem Glob :=
  readPieces .empty none text.toList

end Glob

end Registrar
