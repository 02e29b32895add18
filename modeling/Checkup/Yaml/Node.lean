import Checkup.Yaml.Tokens
import Checkup.Settings.Datum

/-!
# YAML documents

The nodes of a document, read from its tokens as data. A text holds one document at most. An
alias stands for the node that took its name, which is known by a number. If the name is taken
again, its new number goes on to the nodes behind it, up to the next name that is new.
-/

namespace Checkup.Yaml

open Settings (Datum Scalar)

/-! ## Scalars -/

def standardTag (name : String) : List Char := "tag:yaml.org,2002:".toList ++ name.toList

def truth? (text : List Char) : Option Bool :=
  if ["true", "True", "TRUE"].contains (String.ofList text) then some true
  else if ["false", "False", "FALSE"].contains (String.ofList text) then some false
  else none

def isNull (text : List Char) : Bool := ["null", "Null", "NULL", "~"].contains (String.ofList text)

/-- How a scalar may be read. Only a plain one, or a literal one that is tagged so, is a truth
value; only a plain one stands for no value. -/
def scalarReading (style : ScalarStyle) (tag : Option (List Char)) (text : List Char) : Scalar where
  text := some (String.ofList text)
  truth :=
    if style = .plain ∨ (style = .literal ∧ tag = some (standardTag "bool")) then truth? text
    else none
  absent :=
    if style ≠ .plain then some false
    else
      match tag with
      | none => some (text.isEmpty || isNull text)
      | some tag =>
        if tag = standardTag "null" then if isNull text then some true else none
        else some false
  vacant := style = .plain && text.isEmpty

def emptyNode : Datum := .scalar (scalarReading .plain none [])

/-! ## Nodes -/

abbrev Namespaces := List (List Char × List Char)

def resolveTag? (namespaces : Namespaces) (tag : Tag) : Option (List Char) :=
  if tag.handle.isEmpty then some tag.suffix
  else (namespaces.lookup tag.handle).map (· ++ tag.suffix)

/-- The number of the anchor at a place: how many names the anchors before it have. So an anchor
that takes a name again shares its number with the next one. -/
def anchorNumber (names : List (List Char)) (place : Nat) : Nat :=
  (names.take place).eraseDups.length

/-- The place of the anchor that has the number of another one in the end. -/
def lastOfNumber (names : List (List Char)) (place : Nat) : Nat :=
  let same := (List.range names.length).filter fun other =>
    anchorNumber names other = anchorNumber names place
  same.getLast?.getD place

structure Reading where
  tokens : List Token
  namespaces : Namespaces := []
  /-- The names of all anchors of the text. -/
  names : List (List Char) := []
  /-- The nodes of all anchors, as far as an earlier reading knew them. -/
  known : List Datum := []
  /-- The named nodes, the latest first. -/
  anchors : List (List Char × Datum) := []

namespace Reading

/-- The reading behind the token at hand. -/
def next (reading : Reading) : Reading := { reading with tokens := reading.tokens.drop 1 }

def name (reading : Reading) (anchor : Option (List Char)) (node : Datum) : Reading :=
  match anchor with
  | none => reading
  | some anchor => { reading with anchors := (anchor, node) :: reading.anchors }

/-- Gives a node to the name that was taken when `before` names were known. -/
def settle (reading : Reading) (anchor : Option (List Char)) (before : Nat) (node : Datum) :
    Reading :=
  match anchor with
  | none => reading
  | some anchor =>
    { reading with
      anchors := reading.anchors.set (reading.anchors.length - 1 - before) (anchor, node) }

/-- The node that an alias stands for. It may come later than the alias, and then an earlier reading
has to know it. -/
def aliased? (reading : Reading) (name : List Char) : Option Datum :=
  (reading.anchors.findIdx? (·.1 == name)).map fun index =>
    let place := reading.anchors.length - 1 - index
    let last := lastOfNumber reading.names place
    if last = place then (reading.anchors[index]?.map (·.2)).getD .other
    else reading.known[last]?.getD .other

end Reading

structure Properties where
  anchor : Option (List Char) := none
  tag : Option Tag := none

def takeProperties : List Token → Properties × List Token
  | .anchor name :: .tag tag :: rest => (⟨some name, some tag⟩, rest)
  | .tag tag :: .anchor name :: rest => (⟨some name, some tag⟩, rest)
  | .anchor name :: rest => (⟨some name, none⟩, rest)
  | .tag tag :: rest => (⟨none, some tag⟩, rest)
  | rest => ({}, rest)

/-- What a node may be where it stands. -/
inductive Setting where
  | flow
  | block
  /-- In a block mapping, where a sequence need not be indented. -/
  | value
  deriving DecidableEq

mutual

/-- Reads a node that is there. -/
def node? : (turns : Nat) → Setting → Reading → Option (Datum × Reading)
  | 0, _, _ => none
  | turns + 1, setting, reading =>
    match reading.tokens with
    | .alias name :: _ => (reading.aliased? name).map fun node => (node, reading.next)
    | tokens => do
      let (properties, tokens) := takeProperties tokens
      let tag ←
        match properties.tag with
        | none => some none
        | some tag => (resolveTag? reading.namespaces tag).map some
      let before := reading.anchors.length
      let reading := { reading with tokens }
      let inside := reading.name properties.anchor Datum.other
      let collection (read? : Reading → Option (Datum × Reading)) (start : Reading) :
          Option (Datum × Reading) :=
        (read? start).map fun (node, reading) =>
          (node, reading.settle properties.anchor before node)
      match tokens with
      | .blockEntry :: _ =>
        if setting = .value then
          collection (fun reading => (looseItems? turns reading).map fun (items, reading) =>
            (.list items, reading)) inside
        else if properties.anchor.isSome || tag.isSome then
          let node := Datum.scalar (scalarReading .plain tag [])
          some (node, reading.name properties.anchor node)
        else none
      | .scalar style text :: _ =>
        let node := Datum.scalar (scalarReading style tag text)
        some (node, reading.next.name properties.anchor node)
      | .flowSequenceStart :: _ =>
        collection (fun reading => (flowItems? turns true reading).map fun (items, reading) =>
          (.list items, reading)) inside.next
      | .flowMappingStart :: _ =>
        collection (fun reading => (flowEntries? turns true reading).map fun (entries, reading) =>
          (.table entries, reading)) inside.next
      | token :: _ =>
        if token = .blockSequenceStart ∧ setting ≠ .flow then
          collection (fun reading => (blockItems? turns reading).map fun (items, reading) =>
            (.list items, reading)) inside.next
        else if token = .blockMappingStart ∧ setting ≠ .flow then
          collection (fun reading => (blockEntries? turns reading).map fun (entries, reading) =>
            (.table entries, reading)) inside.next
        else if properties.anchor.isSome || tag.isSome then
          let node := Datum.scalar (scalarReading .plain tag [])
          some (node, reading.name properties.anchor node)
        else none
      | [] => none

/-- Reads a node that is left out where one of the given tokens stands. -/
def optionalNode? :
    (turns : Nat) → Setting → (stops : List Token) → Reading → Option (Datum × Reading)
  | 0, _, _, _ => none
  | turns + 1, setting, stops, reading =>
    if reading.tokens.head?.any stops.contains then some (emptyNode, reading)
    else node? turns setting reading

/-- Reads the items of a sequence up to the end of its block. -/
def blockItems? : (turns : Nat) → Reading → Option (List Datum × Reading)
  | 0, _ => none
  | turns + 1, reading =>
    match reading.tokens with
    | .blockEntry :: _ => do
      let (item, reading) ← optionalNode? turns .block [.blockEntry, .blockEnd] reading.next
      let (items, reading) ← blockItems? turns reading
      return (item :: items, reading)
    | .blockEnd :: _ => some ([], reading.next)
    | _ => none

/-- Reads the items of a sequence that has no block of its own. -/
def looseItems? : (turns : Nat) → Reading → Option (List Datum × Reading)
  | 0, _ => none
  | turns + 1, reading =>
    match reading.tokens with
    | .blockEntry :: _ => do
      let (item, reading) ←
        optionalNode? turns .block [.blockEntry, .key, .value, .blockEnd] reading.next
      let (items, reading) ← looseItems? turns reading
      return (item :: items, reading)
    | _ => some ([], reading)

def blockEntries? : (turns : Nat) → Reading → Option (List (Datum × Datum) × Reading)
  | 0, _ => none
  | turns + 1, reading => do
    let stops := [Token.key, .value, .blockEnd]
    let entryFrom (key : Datum) (reading : Reading) : Option (List (Datum × Datum) × Reading) := do
      let (value, reading) ←
        match reading.tokens with
        | .value :: _ => optionalNode? turns .value stops reading.next
        | _ => some (emptyNode, reading)
      let (entries, reading) ← blockEntries? turns reading
      return ((key, value) :: entries, reading)
    match reading.tokens with
    | .key :: _ => do
      let (key, reading) ← optionalNode? turns .value stops reading.next
      entryFrom key reading
    | .blockEnd :: _ => some ([], reading.next)
    | _ => none

/-- Reads the items of a sequence in brackets; behind a key mark an item is a table of one entry. -/
def flowItems? : (turns : Nat) → (first : Bool) → Reading → Option (List Datum × Reading)
  | 0, _, _ => none
  | turns + 1, first, reading =>
    match reading.tokens with
    | .flowSequenceEnd :: _ => some ([], reading.next)
    | token :: _ => do
      let reading ←
        if first then some reading
        else if token = .flowEntry then some reading.next
        else none
      match reading.tokens with
      | .flowSequenceEnd :: _ => some ([], reading.next)
      | .key :: _ => do
        let (item, reading) ← flowPair? turns reading.next
        let (items, reading) ← flowItems? turns false reading
        return (item :: items, reading)
      | _ => do
        let (item, reading) ← node? turns .flow reading
        let (items, reading) ← flowItems? turns false reading
        return (item :: items, reading)
    | [] => none

/-- Reads a single entry in a flow sequence. Where its key is left out the next token is lost. -/
def flowPair? : (turns : Nat) → Reading → Option (Datum × Reading)
  | 0, _ => none
  | turns + 1, reading => do
    let stops := [Token.value, .flowEntry, .flowSequenceEnd]
    let (key, reading) ←
      if reading.tokens.head?.any stops.contains then some (emptyNode, reading.next)
      else node? turns .flow reading
    let (value, reading) ←
      match reading.tokens with
      | .value :: _ => optionalNode? turns .flow [.flowEntry, .flowSequenceEnd] reading.next
      | _ => some (emptyNode, reading)
    return (.table [(key, value)], reading)

/-- Reads the entries of a mapping in braces. -/
def flowEntries? :
    (turns : Nat) → (first : Bool) → Reading → Option (List (Datum × Datum) × Reading)
  | 0, _, _ => none
  | turns + 1, first, reading =>
    match reading.tokens with
    | .flowMappingEnd :: _ => some ([], reading.next)
    | token :: _ => do
      let reading ←
        if first then some reading
        else if token = .flowEntry then some reading.next
        else none
      match reading.tokens with
      | .flowMappingEnd :: _ => some ([], reading.next)
      | .key :: _ => do
        let (key, reading) ←
          optionalNode? turns .flow [.value, .flowEntry, .flowMappingEnd] reading.next
        let (value, reading) ←
          match reading.tokens with
          | .value :: _ => optionalNode? turns .flow [.flowEntry, .flowMappingEnd] reading.next
          | _ => some (emptyNode, reading)
        let (entries, reading) ← flowEntries? turns false reading
        return ((key, value) :: entries, reading)
      | _ => do
        let (key, reading) ← node? turns .flow reading
        let (entries, reading) ← flowEntries? turns false reading
        return ((key, emptyNode) :: entries, reading)
    | [] => none

end

/-! ## Documents -/

def defaultNamespaces : Namespaces :=
  [(['!'], ['!']), (['!', '!'], "tag:yaml.org,2002:".toList)]

/-- Reads the directives before a document. Each may be given once, and the version has to be
known. -/
def directives? (versioned : Bool) (namespaces : Namespaces) :
    List Token → Option (Bool × Namespaces × List Token)
  | .version major minor :: rest =>
    if versioned ∨ major ≠ 1 ∨ (minor ≠ 1 ∧ minor ≠ 2) then none
    else directives? true namespaces rest
  | .tagNamespace handle expansion :: rest =>
    if (namespaces.lookup handle).isSome then none
    else directives? versioned ((handle, expansion) :: namespaces) rest
  | rest => some (versioned || !namespaces.isEmpty, namespaces, rest)

/-- Reads a root several times, so that each reading knows the nodes of the one before. -/
def rootNode? (turns : Nat) (start : Reading) : (again : Nat) → Option (Datum × Reading)
  | 0 => node? turns .block start
  | again + 1 => do
    let (_, reading) ← node? turns .block start
    rootNode? turns { start with known := reading.anchors.reverse.map (·.2) } again

/-- Nothing but the end of the document may follow its root. -/
def endsText (tokens : List Token) : Bool := tokens.all (· == .documentEnd)

/-- The data of a text's only document. Without a document it is empty. -/
def datum? (text : String) : Option Datum := do
  let tokens ← tokens? text
  let (directed, namespaces, tokens) ← directives? false [] tokens
  let root (tokens : List Token) : Option Datum := do
    let turns := 4 * tokens.length + 4
    let names := tokens.filterMap fun token =>
      match token with
      | .anchor name => some name
      | _ => none
    let start : Reading := { tokens, namespaces := namespaces ++ defaultNamespaces, names }
    let (node, reading) ← rootNode? turns start (names.length - names.eraseDups.length)
    if endsText reading.tokens then some node else none
  match tokens with
  | [] => if directed then none else some emptyNode
  | .documentStart :: rest =>
    match rest with
    | [] => some emptyNode
    | .documentEnd :: rest => if endsText rest then some emptyNode else none
    | .version .. :: _ | .tagNamespace .. :: _ | .documentStart :: _ => none
    | _ => root rest
  | _ => if directed then none else root tokens

end Checkup.Yaml
