import Checkup.Text.Utf8

/-!
# Paths

A path is kept as it is written. Reading it as components drops empty segments and every `.` but a
leading one; nothing here consults a file system.
-/

namespace Checkup

structure Path where
  text : Bytes
  deriving DecidableEq, Repr

namespace Path

def slash : UInt8 := 0x2F

def dot : UInt8 := 0x2E

inductive Component where
  | root
  | current
  | parent
  | name (text : Bytes)
  deriving DecidableEq, Repr

def Component.text : Component → Bytes
  | .root => [slash]
  | .current => [dot]
  | .parent => [dot, dot]
  | .name text => text

def ofString (text : String) : Path := ⟨Bytes.ofString text⟩

def display (path : Path) : String := path.text.toLossyString

def isAbsolute (path : Path) : Bool := path.text.head? == some slash

/-- The pieces between slashes, as they are written. -/
def segments (path : Path) : List Bytes := path.text.splitOn slash

/-- A segment that is neither empty nor `.` moves. -/
def componentOfSegment? (segment : Bytes) : Option Component :=
  if segment = [] ∨ segment = [dot] then none
  else if segment = [dot, dot] then some .parent
  else some (.name segment)

def startsHere (path : Path) : Bool := path.segments.head? == some [dot]

def components (path : Path) : List Component :=
  let start := if path.isAbsolute then [.root] else if path.startsHere then [.current] else []
  start ++ path.segments.filterMap componentOfSegment?

/-- An absolute child replaces the base; otherwise one slash stands between the two. -/
def join (base child : Path) : Path :=
  if child.isAbsolute || base.text.isEmpty then child
  else if base.text.getLast? == some slash then ⟨base.text ++ child.text⟩
  else ⟨base.text ++ slash :: child.text⟩

def ofComponents (components : List Component) : Path :=
  components.foldl (fun path component => path.join ⟨component.text⟩) ⟨[]⟩

/-- `..` cancels a name above it, stays at the root and piles up at a relative start. -/
def climbOrDescend (stack : List Component) : Component → List Component
  | .current => stack
  | .parent =>
    match stack with
    | .name _ :: below => below
    | .root :: below => .root :: below
    | _ => .parent :: stack
  | .root => .root :: stack
  | .name text => .name text :: stack

/-- The shortest path to the same place, as far as the text alone tells. -/
def normalize (path : Path) : Path :=
  match path.components.foldl climbOrDescend [] with
  | [] => ⟨[dot]⟩
  | stack => ofComponents stack.reverse

def fileName? (path : Path) : Option Bytes :=
  match path.components.getLast? with
  | some (.name text) => some text
  | _ => none

/-- What follows the last dot of a name that does not begin with it. -/
def suffix? (name : Bytes) : Option Bytes :=
  let reversed := name.reverse
  match reversed.dropWhile (· != dot) with
  | _ :: _ :: _ => some (reversed.takeWhile (· != dot)).reverse
  | _ => none

/-- The extension of the file name, if it is text. -/
def extension? (path : Path) : Option String :=
  ((path.fileName?.bind suffix?).bind Text.Utf8.decode?).map String.ofList

/-! ## The lexical parent -/

/-- Removes slashes and `.` segments from the end of a text that is given in reverse. -/
def dropIdle : Bytes → Bytes
  | [] => []
  | byte :: rest =>
    if byte = slash then dropIdle rest
    else if byte = dot then
      match rest with
      | [] => []
      | next :: further => if next = slash then dropIdle further else byte :: next :: further
    else byte :: rest

theorem dropIdle_length (reversed : Bytes) : (dropIdle reversed).length ≤ reversed.length := by
  fun_induction dropIdle reversed with
  | case1 => exact Nat.le_refl _
  | case2 _ ih => exact Nat.le_succ_of_le ih
  | case3 => exact Nat.zero_le _
  | case4 _ _ ih => simp only [List.length_cons]; omega
  | case5 => exact Nat.le_refl _
  | case6 => exact Nat.le_refl _

theorem dropIdle_head (reversed : Bytes) {byte : UInt8} {rest : Bytes}
    (left : dropIdle reversed = byte :: rest) : byte ≠ slash := by
  fun_induction dropIdle reversed with
  | case1 => cases left
  | case2 _ ih => exact ih left
  | case3 => cases left
  | case4 _ _ ih => exact ih left
  | case5 => cases left; decide
  | case6 _ _ other => cases left; exact other

/-- How many bytes of the text are its leading slash or leading `.` segment. -/
def leadLength (path : Path) : Nat := if path.isAbsolute || path.startsHere then 1 else 0

/-- The path without its last component. The root and the empty path have none; the parent of `.`
is the empty path. -/
def parent? (path : Path) : Option Path :=
  let body := path.text.drop path.leadLength
  match dropIdle body.reverse with
  | [] => if path.startsHere then some ⟨[]⟩ else none
  | last =>
    some ⟨path.text.take path.leadLength ++ (dropIdle (last.dropWhile (· != slash))).reverse⟩

theorem parent?_length {path parent : Path} (found : path.parent? = some parent) :
    parent.text.length < path.text.length := by
  unfold parent? at found
  dsimp only at found
  have whole := List.take_append_drop path.leadLength path.text
  split at found
  · split at found
    · rename_i here
      cases found
      simp only [startsHere, segments] at here
      cases text : path.text with
      | nil => rw [text] at here; simp at here
      | cons => simp
    · cases found
  · rename_i last split
    cases found
    cases remaining : dropIdle (path.text.drop path.leadLength).reverse with
    | nil => exact absurd remaining split
    | cons byte rest =>
      have bound := dropIdle_length (path.text.drop path.leadLength).reverse
      have other := dropIdle_head _ remaining
      have inner := dropIdle_length ((byte :: rest).dropWhile (· != slash))
      have outer := (List.dropWhile_suffix (l := rest) (· != slash)).length_le
      have total := congrArg List.length whole
      rw [remaining] at bound
      simp only [List.length_append, List.length_reverse, List.length_cons] at *
      rw [List.dropWhile_cons_of_pos (by simpa using other)] at inner ⊢
      omega

/-! ## Display -/

/-- The steps that lead from `base` to `path`; a base that climbs where the two part has none. -/
def difference? : (path base : List Component) → Option (List Component)
  | path, [] => some path
  | [], base => some (base.map fun _ => .parent)
  | head :: tail, other :: more =>
    if head = other then difference? tail more
    else if other = .parent then none
    else some (.parent :: more.map (fun _ => .parent) ++ head :: tail)

def relativeTo? (path base : Path) : Option Path :=
  if path.isAbsolute == base.isAbsolute then
    (difference? path.components base.components).map ofComponents
  else if path.isAbsolute then some path
  else none

/-- A path below the working directory is shown from there, any other as it is written. -/
def labelFrom (workingDirectory path : Path) : Path :=
  match path.relativeTo? workingDirectory with
  | some relative =>
    if relative.text.isEmpty || relative.components.head? == some .parent then path else relative
  | none => path

end Path

end Checkup
