import Checkup.Pattern.Read
import Checkup.Pattern.Search

/-!
# Patterns

A pattern is a program together with the names of its groups.
-/

namespace Checkup

structure Pattern where
  program : Pattern.Program
  names : List (String × Nat)

namespace Pattern

def ofNode (node : Node) (names : List (String × Nat)) : Pattern :=
  ⟨Program.ofNode node, names⟩

/-- The pattern that a text denotes, unless it is malformed or too large. -/
def ofText? (text : String) : Option Pattern :=
  (read? text).map fun reading => ofNode reading.node reading.names

def matches? (pattern : Pattern) (subject : Subject) : Option Match :=
  search pattern.program subject 0

def allMatches (pattern : Pattern) (subject : Subject) : List Match :=
  searchAll pattern.program subject 0

/-- The bytes of a named group, if the pattern has it and it took part in the match. -/
def group? (pattern : Pattern) (subject : Subject) (found : Match) (name : String) :
    Option Bytes := do
  let index ← pattern.names.lookup name
  let (start, stop) ← found.group? index
  return (subject.extract start stop).toList

end Pattern

end Checkup
