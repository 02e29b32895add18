import Checkup.Pattern.Escape

/-!
# Bracketed classes

Classes nest and combine by `&&`, `--` and `~~`, which group to the left. A stack holds what is
still open, so that the reader is one loop over the text.
-/

namespace Checkup.Pattern

inductive SetOperator where
  | intersection
  | difference
  | symmetricDifference
  deriving DecidableEq

def SetOperator.apply (operator : SetOperator) (top : Nat) (left right : Ranges) : Ranges :=
  match operator with
  | .intersection => left.intersection top right
  | .difference => left.difference top right
  | .symmetricDifference => left.symmetricDifference top right

/-- The items of a class so far: their union, their number and how deeply they nest. -/
structure ClassItems where
  set : Ranges := []
  count : Nat := 0
  depth : Nat := 0

namespace ClassItems

def add (items : ClassItems) (set : Ranges) (depth : Nat) : ClassItems :=
  ⟨items.set.union set, items.count + 1, max items.depth depth⟩

/-- A union of several items is a level of its own. -/
def level (items : ClassItems) : Nat :=
  if items.count ≤ 1 then items.depth else items.depth + 1

end ClassItems

inductive ClassFrame where
  | opened (outer : ClassItems) (negated : Bool)
  | operator (operator : SetOperator) (left : Ranges) (depth : Nat)

/-- Applies the operator that waits for its right side, if there is one. -/
def applyPending (flags : Flags) (frames : List ClassFrame) (items : ClassItems) :
    List ClassFrame × Ranges × Nat :=
  match frames with
  | .operator operator left depth :: below =>
    (below, operator.apply flags.top (flags.foldSet left) (flags.foldSet items.set),
      max depth items.level + 1)
  | frames => (frames, items.set, items.level)

def asciiClass? : String → Option Ranges
  | "alnum" => some [(0x30, 0x39), (0x41, 0x5A), (0x61, 0x7A)]
  | "alpha" => some [(0x41, 0x5A), (0x61, 0x7A)]
  | "ascii" => some [(0x00, 0x7F)]
  | "blank" => some [(0x09, 0x09), (0x20, 0x20)]
  | "cntrl" => some [(0x00, 0x1F), (0x7F, 0x7F)]
  | "digit" => some [(0x30, 0x39)]
  | "graph" => some [(0x21, 0x7E)]
  | "lower" => some [(0x61, 0x7A)]
  | "print" => some [(0x20, 0x7E)]
  | "punct" => some [(0x21, 0x2F), (0x3A, 0x40), (0x5B, 0x60), (0x7B, 0x7E)]
  | "space" => some [(0x09, 0x0D), (0x20, 0x20)]
  | "upper" => some [(0x41, 0x5A)]
  | "word" => some [(0x30, 0x39), (0x41, 0x5A), (0x5F, 0x5F), (0x61, 0x7A)]
  | "xdigit" => some [(0x30, 0x39), (0x41, 0x46), (0x61, 0x66)]
  | _ => none

/-- Reads `[:name:]` behind its first bracket. -/
def namedClass? (flags : Flags) : List Char → Option (Ranges × List Char)
  | ':' :: rest =>
    let negated := rest.head? == some '^'
    let rest := if negated then rest.drop 1 else rest
    let name := rest.takeWhile (· != ':')
    match rest.drop name.length with
    | ':' :: ']' :: rest =>
      (asciiClass? (String.ofList name)).map fun set => (flags.closeSet negated set, rest)
    | _ => none
  | _ => none

/-- A literal of a class is a code point in Unicode mode and a byte otherwise. -/
def classCode? (flags : Flags) (char : Char) (asByte : Bool) : Option Nat :=
  if flags.unicode || char.toNat < 0x80 || asByte then some char.toNat else none

def classAtom? (flags : Flags) : List Char → Option (Atom × List Char)
  | [] => none
  | '\\' :: rest => escape? flags rest
  | char :: rest => some (.literal char false, rest)

def classItem? (flags : Flags) : Atom → Option Ranges
  | .literal char asByte => (classCode? flags char asByte).map Ranges.single
  | .set ranges => some ranges
  | .look _ => none

/-- What follows the character that is being looked at. Of a comment only its mark is passed. -/
def peekSpaced (flags : Flags) (rest : List Char) : Option Char :=
  if !flags.extended then rest.head?
  else
    let ahead :=
      match rest.dropWhile Text.isBlank with
      | '#' :: rest => rest.dropWhile Text.isBlank
      | ahead => ahead
    ahead.head? <|> rest.head?

/-- A hyphen before `]` or before another hyphen is no range. -/
def classRange? (flags : Flags) (chars : List Char) : Option (Ranges × List Char) := do
  let (first, rest) ← classAtom? flags chars
  match flags.skip rest with
  | [] => none
  | next :: after =>
    let ahead := peekSpaced flags after
    if next != '-' || ahead == some ']' || ahead == some '-' then
      return (← classItem? flags first, next :: after)
    else
      match flags.skip after with
      | [] => none
      | second =>
        let (last, rest) ← classAtom? flags second
        match first, last with
        | .literal low lowByte, .literal high highByte =>
          let low ← classCode? flags low lowByte
          let high ← classCode? flags high highByte
          if low ≤ high then return ([(low, high)], rest) else none
        | _, _ => none

/-- Any number of hyphens may begin a class, and without them a closing bracket. -/
def leadingHyphens (flags : Flags) (items : ClassItems) (chars : List Char) :
    ClassItems × List Char :=
  match chars with
  | '-' :: rest =>
    have := flags.skip_length rest
    leadingHyphens flags (items.add (.single '-'.toNat) 0) (flags.skip rest)
  | _ => (items, chars)
termination_by chars.length
decreasing_by simp; omega

/-- Reads the beginning of a class behind its bracket. -/
def openClass? (flags : Flags) (chars : List Char) : Option (Bool × ClassItems × List Char) :=
  let chars := flags.skip chars
  let negated := chars.head? == some '^'
  let chars := if negated then flags.skip (chars.drop 1) else chars
  match leadingHyphens flags ⟨[], 0, 0⟩ chars with
  | (_, []) => none
  | (items, ']' :: rest) =>
    if items.count = 0 then
      match flags.skip rest with
      | [] => none
      | rest => some (negated, items.add (.single ']'.toNat) 0, rest)
    else some (negated, items, ']' :: rest)
  | (items, rest) => some (negated, items, rest)

def setOperator? : List Char → Option (SetOperator × List Char)
  | '&' :: '&' :: rest => some (.intersection, rest)
  | '-' :: '-' :: rest => some (.difference, rest)
  | '~' :: '~' :: rest => some (.symmetricDifference, rest)
  | _ => none

/-- A class with the depth at which its parts nest. -/
structure ReadClass where
  set : Ranges
  depth : Nat

/-- Reads up to the bracket that closes the outermost class; each turn takes a character. -/
def readClass (flags : Flags) : (turns : Nat) → (frames : List ClassFrame) → ClassItems →
    List Char → Option (ReadClass × List Char)
  | 0, _, _, _ => none
  | turns + 1, frames, items, chars =>
    match flags.skip chars with
    | [] => none
    | '[' :: rest =>
      match namedClass? flags rest with
      | some (set, rest) => readClass flags turns frames (items.add set 0) rest
      | none =>
        match openClass? flags rest with
        | none => none
        | some (negated, inner, rest) =>
          readClass flags turns (.opened items negated :: frames) inner rest
    | ']' :: rest =>
      match applyPending flags frames items with
      | (.opened outer negated :: below, set, depth) =>
        let set := flags.closeSet negated set
        match below with
        | [] => some (⟨set, depth + 1⟩, rest)
        | below => readClass flags turns below (outer.add set (depth + 1)) rest
      | _ => none
    | chars =>
      match setOperator? chars with
      | some (operator, rest) =>
        let (below, set, depth) := applyPending flags frames items
        readClass flags turns (.operator operator set depth :: below) ⟨[], 0, 0⟩ rest
      | none =>
        match classRange? flags chars with
        | none => none
        | some (set, rest) => readClass flags turns frames (items.add set 0) rest

/-- Reads a class behind its first bracket. -/
def bracket? (flags : Flags) (chars : List Char) : Option (ReadClass × List Char) :=
  (openClass? flags chars).bind fun (negated, items, rest) =>
    readClass flags (rest.length + 1) [.opened ⟨[], 0, 0⟩ negated] items rest

end Checkup.Pattern
