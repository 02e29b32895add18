import Checkup.Pattern.Ranges

/-!
# Pattern trees

What a pattern is made of once flags, classes and counts are resolved. Choices are ordered: an
earlier alternative is preferred, and a greedy repetition prefers to go on.
-/

namespace Checkup.Pattern

/-- An assertion about the place between two bytes. -/
inductive Look where
  | textStart
  | textEnd
  | lineStart (crlf : Bool)
  | lineEnd (crlf : Bool)
  | wordBoundary (unicode : Bool)
  | notWordBoundary (unicode : Bool)
  | wordStart (unicode : Bool)
  | wordEnd (unicode : Bool)
  | wordStartHalf (unicode : Bool)
  | wordEndHalf (unicode : Bool)
  deriving DecidableEq, Repr

inductive Node where
  | empty
  | byte (set : Ranges)
  | scalar (set : Ranges)
  | look (assertion : Look)
  | group (index : Nat) (inner : Node)
  | concat (first second : Node)
  | either (first second : Node)
  | plus (inner : Node) (greedy : Bool)
  deriving DecidableEq, Repr

namespace Node

def optional (inner : Node) (greedy : Bool) : Node :=
  if greedy then .either inner .empty else .either .empty inner

def star (inner : Node) (greedy : Bool) : Node := optional (.plus inner greedy) greedy

def concatAll : List Node → Node
  | [] => .empty
  | [node] => node
  | node :: rest => .concat node (concatAll rest)

def eitherAll : List Node → Node
  | [] => .empty
  | [node] => node
  | node :: rest => .either node (eitherAll rest)

/-- `count` copies of `inner` and then `last`. -/
def copies (inner : Node) : (count : Nat) → (last : Node) → Node
  | 0, last => last
  | count + 1, last => .concat inner (copies inner count last)

/-- Up to `count` copies, each allowed only after the one before it. -/
def upTo (inner : Node) (greedy : Bool) : (count : Nat) → Node
  | 0 => .empty
  | 1 => optional inner greedy
  | count + 2 => optional (.concat inner (upTo inner greedy (count + 1))) greedy

def exactly (inner : Node) : (count : Nat) → Node
  | 0 => .empty
  | count + 1 => copies inner count inner

/-- From `least` to `most` copies, any number of them if `most` is absent. -/
def repeated (inner : Node) (least : Nat) (most : Option Nat) (greedy : Bool) : Node :=
  match most with
  | none =>
    match least with
    | 0 => star inner greedy
    | more + 1 => copies inner more (.plus inner greedy)
  | some most =>
    if most ≤ least then exactly inner least
    else copies inner least (upTo inner greedy (most - least))

end Node

end Checkup.Pattern
