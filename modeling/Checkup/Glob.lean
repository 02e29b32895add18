import Checkup.FileTree

/-!
# Globs

Patterns of paths. `?` stands for a character, `*` for any run of them, brackets for a choice, and
a whole segment `**` for directories of any depth. A pattern names the paths of a file tree that
it matches, in the order of their names. What lies in a directory that cannot be listed is only
found by its name.
-/

namespace Checkup.Glob

/-- A range of characters; a single one begins and ends it. -/
structure Range where
  low : Char
  high : Char
  deriving DecidableEq, Repr

inductive Piece where
  | char (char : Char)
  | anyChar
  | oneOf (choice : List Range)
  | noneOf (choice : List Range)
  | anything
  deriving DecidableEq, Repr

inductive Segment where
  | pieces (pieces : List Piece)
  /-- Directories of any depth. -/
  | descend
  deriving DecidableEq, Repr

/-! ## Reading -/

def ranges : List Char → List Range
  | low :: '-' :: high :: rest => ⟨low, high⟩ :: ranges rest
  | char :: rest => ⟨char, char⟩ :: ranges rest
  | [] => []

/-- Splits behind a bracket. The first character of a choice never closes it. -/
def choice? : List Char → Option (List Range × List Char)
  | first :: rest =>
    match rest.dropWhile (· ≠ ']') with
    | _ :: after => some (ranges (first :: rest.takeWhile (· ≠ ']')), after)
    | [] => none
  | [] => none

theorem choice?_length {chars rest : List Char} {choice : List Range}
    (found : choice? chars = some (choice, rest)) : rest.length < chars.length := by
  cases chars with
  | nil => cases found
  | cons first others =>
    have bound := (List.dropWhile_suffix (l := others) (· ≠ ']')).length_le
    simp only [choice?] at found
    split at found
    · rename_i split
      cases found
      rw [split] at bound
      simp only [List.length_cons] at *
      omega
    · cases found

/-- Reads the segment that begins here, up to a slash. A run of stars is one or, if it is a whole
segment, two of them. -/
def segmentPieces? (chars : List Char) : Option (List Piece) :=
  match chars with
  | [] => some []
  | '?' :: rest => (segmentPieces? rest).map (.anyChar :: ·)
  | '*' :: '*' :: _ => none
  | '*' :: rest => (segmentPieces? rest).map (.anything :: ·)
  | '[' :: '!' :: rest =>
    match _found : choice? rest with
    | some (choice, after) => (segmentPieces? after).map (.noneOf choice :: ·)
    | none => none
  | '[' :: rest =>
    match _found : choice? rest with
    | some (choice, after) => (segmentPieces? after).map (.oneOf choice :: ·)
    | none => none
  | char :: rest => (segmentPieces? rest).map (.char char :: ·)
termination_by chars.length
decreasing_by
  all_goals simp only [List.length_cons]
  all_goals first
    | omega
    | exact Nat.lt_of_lt_of_le (choice?_length _found) (by omega)

def segment? (chars : List Char) : Option Segment :=
  if chars = ['*', '*'] then some .descend else (segmentPieces? chars).map .pieces

structure Pattern where
  absolute : Bool
  segments : List Segment
  /-- A slash at its end asks for directories. -/
  onlyDirectories : Bool
  deriving DecidableEq, Repr

/-- The pieces of a text between slashes, without the empty one behind a final slash. -/
def pathSegments (chars : List Char) : List (List Char) :=
  let segments := chars.splitOn '/'
  if segments.getLast? = some [] then segments.dropLast else segments

def Pattern.ofText? (text : String) : Option Pattern := do
  let chars := text.toList
  let absolute := chars.head? = some '/'
  let segments ← (pathSegments (if absolute then chars.drop 1 else chars)).mapM segment?
  return ⟨absolute, segments, chars.getLast? = some '/'⟩

/-- Only a text with one of these characters is read as a pattern. -/
def isWildcard (char : Char) : Bool := char = '*' || char = '?' || char = '['

def isPattern (text : String) : Bool := text.toList.any isWildcard

/-! ## Names -/

def Range.contains (range : Range) (char : Char) : Bool := range.low ≤ char && char ≤ range.high

def Piece.accepts : Piece → Char → Bool
  | .char own, given => own = given
  | .anyChar, _ => true
  | .oneOf choice, given => choice.any (·.contains given)
  | .noneOf choice, given => !choice.any (·.contains given)
  | .anything, _ => false

def matchesName : List Piece → List Char → Bool
  | [], name => name.isEmpty
  | .anything :: pieces, name =>
    matchesName pieces name ||
      (match name with
      | _ :: rest => matchesName (.anything :: pieces) rest
      | [] => false)
  | piece :: pieces, char :: rest => piece.accepts char && matchesName pieces rest
  | _ :: _, [] => false
termination_by pieces name => pieces.length + name.length

/-- The name that a segment without any wildcard stands for. -/
def Segment.literal? : Segment → Option String
  | .descend => none
  | .pieces own =>
    (own.mapM fun (piece : Piece) =>
      match piece with
      | .char char => some char
      | _ => none).map String.ofList

def Segment.matchesFile (segment : Segment) (path : Path) : Bool :=
  match segment, (path.fileName?).bind Text.Utf8.decode? with
  | .pieces own, some name => matchesName own name
  | _, _ => false

/-- The entries `.` and `..`, for a segment that writes their first dot. -/
def Segment.specialNames : Segment → List String
  | .pieces (.char '.' :: rest) =>
    ["..", "."].filter fun name => matchesName (.char '.' :: rest) name.toList
  | _ => []

/-! ## Expansion -/

/-- Below the working directory paths are written without it. -/
def child (directory : Path) (name : Bytes) : Path :=
  if directory.components = [.current] then ⟨name⟩ else directory.join ⟨name⟩

/-- Puts a name before the first one that does not come before it. -/
def insertName (name : Bytes) : List Bytes → List Bytes
  | [] => [name]
  | other :: rest => if name ≤ other then name :: other :: rest else other :: insertName name rest

/-- Names in the order of their bytes. -/
def sorted (names : List Bytes) : List Bytes := names.foldr insertName []

/-- The paths of the entries of a directory, in the order of their names. -/
def children (tree : FileTree) (directory : Path) : Except FileError (List Path) :=
  (tree.list directory).map fun names => (sorted names).map (child directory)

/-- A directory in which a pattern looks for names and whose names cannot be told. -/
structure Gap where
  directory : Path
  cause : FileError
  deriving DecidableEq, Repr

/-- What an expansion comes upon: a path that the pattern names, or a gap. -/
abbrev Item := Except Gap Path

/-- Skips all but the last of several segments that descend. -/
def joinDescents : List Segment → List Segment
  | .descend :: .descend :: rest => joinDescents (.descend :: rest)
  | segments => segments

mutual

/-- The paths below a directory that some segments match. A segment without any wildcard is looked
up by its name; for another one the directory has to be listed. -/
def below (tree : FileTree) : (turns : Nat) → List Segment → (directory : Path) → List Item
  | 0, _, _ => []
  | _ + 1, [], directory => [.ok directory]
  | turns + 1, segment :: rest, directory =>
    match segment.literal? with
    | some name =>
      let next := child directory (Bytes.ofString name)
      let exists_ : Bool :=
        if name = "." ∨ name = ".." then tree.isDirectory directory else tree.holds next
      if exists_ then below tree turns rest next else []
    | none =>
      if tree.isDirectory directory then
        match children tree directory with
        | .error cause => [.error ⟨directory, cause⟩]
        | .ok entries =>
          (segment.specialNames.flatMap fun name =>
            below tree turns rest (directory.join (.ofString name))) ++
          entries.flatMap (visit tree turns (segment :: rest))
      else []

/-- The paths that begin with an entry and that some segments match, of which the first is to
match the name of the entry. -/
def visit (tree : FileTree) : (turns : Nat) → List Segment → (entry : Path) → List Item
  | 0, _, _ => []
  | turns + 1, segments, entry =>
    match joinDescents segments with
    | [] => []
    | .descend :: rest =>
      let deeper :=
        if tree.isDirectory entry then below tree turns (.descend :: rest) entry else []
      match rest with
      | [] => if tree.isDirectory entry then .ok entry :: deeper else []
      | segment :: rest =>
        (if segment.matchesFile entry then below tree turns rest entry else []) ++ deeper
    | segment :: rest => if segment.matchesFile entry then below tree turns rest entry else []

end

/-- What a pattern comes upon in a tree. -/
def Pattern.expand (pattern : Pattern) (tree : FileTree) : List Item :=
  let start : Path := ⟨[if pattern.absolute then Path.slash else Path.dot]⟩
  let turns := 2 * (pattern.segments.length + 1) * (tree.entries.length + 2)
  (below tree turns pattern.segments start).filter fun item =>
    match item with
    | .ok path => !pattern.onlyDirectories || tree.isDirectory path
    | .error _ => true

/-- The paths of a tree that a pattern names, as far as they are known. Gaps are passed over. -/
def Pattern.paths (pattern : Pattern) (tree : FileTree) : List Path :=
  (pattern.expand tree).filterMap (·.toOption)

end Checkup.Glob
