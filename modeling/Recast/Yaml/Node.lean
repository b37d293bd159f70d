import Recast.Yaml.Token

/-!
# Nodes of YAML documents

A stream holds at most one document: a tree of scalars, sequences and mappings, in which aliases
stand for anchored nodes. `Document.parse?` reads it.
-/

namespace Recast.Yaml

inductive Node where
  | scalar (tag : Option String) (style : Style) (text : String)
  | sequence (tag : Option String) (items : List Node)
  | mapping (tag : Option String) (entries : List (Node × Node))
  /-- A node that aliases may stand for, under a number. -/
  | anchored (id : Nat) (node : Node)
  | reference (id : Nat)
deriving Inhabited

namespace Node

/-- The node of nothing. -/
def empty : Node := scalar none .plain ""

mutual

/-- How many nodes a tree has; the ends of collections count too. -/
def size : Node → Nat
  | scalar .. | reference _ => 1
  | sequence _ items => sizeOfItems items + 2
  | mapping _ entries => sizeOfEntries entries + 2
  | anchored _ node => size node
termination_by structural n => n

def sizeOfItems : List Node → Nat
  | [] => 0
  | n :: ns => size n + sizeOfItems ns
termination_by structural ns => ns

def sizeOfEntries : List (Node × Node) → Nat
  | [] => 0
  | (k, v) :: es => size k + size v + sizeOfEntries es
termination_by structural es => es

end

mutual

/-- The last node under a number. -/
def find? (id : Nat) : Node → Option Node
  | scalar .. | reference _ => none
  | sequence _ items => findInItems? id items
  | mapping _ entries => findInEntries? id entries
  | anchored i node => (find? id node).or (if i == id then some node else none)
termination_by structural n => n

def findInItems? (id : Nat) : List Node → Option Node
  | [] => none
  | n :: ns => (findInItems? id ns).or (find? id n)
termination_by structural ns => ns

def findInEntries? (id : Nat) : List (Node × Node) → Option Node
  | [] => none
  | (k, v) :: es => (findInEntries? id es).or ((find? id v).or (find? id k))
termination_by structural es => es

end

end Node

/-- A document; without any content there is no root. -/
structure Document where
  root : Option Node

namespace Document

/-! ## Handles of tags -/

abbrev Handles := List (String × String)

def defaultHandles : Handles := [("!", "!"), ("!!", "tag:yaml.org,2002:")]

/-- The handles that directives declare. The version is declared at most once and is 1.1 or 1.2. -/
def handles? : (versioned : Bool) → Handles → List Directive → Option Handles
  | _, handles, [] => some (handles ++ defaultHandles)
  | versioned, handles, .version major minor :: ds =>
    if versioned || major != 1 || (minor != 1 && minor != 2) then none
    else handles? true handles ds
  | versioned, handles, .handle name meaning :: ds =>
    if (handles.lookup name).isSome then none
    else handles? versioned (handles ++ [(name, meaning)]) ds

/-- The full tag of a handle and a suffix. -/
def fullTag? (handles : Handles) (handle suffix : String) : Option String :=
  if handle == "" then some suffix else (handles.lookup handle).map (· ++ suffix)

/-! ## Nodes -/

/-- The tokens to come, and the numbers of the anchors so far. A new anchor has as its number how
many names there were before it. -/
structure State where
  tokens : List Token
  anchors : List (String × Nat)

namespace State

def next? (s : State) : Option Token := s.tokens.head?

def drop (s : State) : State := { s with tokens := s.tokens.drop 1 }

/-- Declares an anchor, if there is one. -/
def declare (name : Option String) (s : State) : State :=
  match name with
  | none => s
  | some name =>
    { s with anchors := (name, s.anchors.length) :: s.anchors.filter (·.1 != name) }

/-- The number that the next anchor gets. -/
def anchored (name : Option String) (s : State) (node : Node) : Node :=
  match name with
  | none => node
  | some _ => .anchored s.anchors.length node

end State

/-- The anchor and the tag in front of a node, in either order. -/
def properties? (handles : Handles) (s : State) : Option (Option String × Option String × State) :=
  let tag? (handle suffix : String) : Option (Option String) :=
    (fullTag? handles handle suffix).map some
  match s.tokens with
  | .anchor a :: .tag h t :: tokens => do some (some a, ← tag? h t, { s with tokens })
  | .anchor a :: tokens => some (some a, none, { s with tokens })
  | .tag h t :: .anchor a :: tokens => do some (some a, ← tag? h t, { s with tokens })
  | .tag h t :: tokens => do some (none, ← tag? h t, { s with tokens })
  | _ => some (none, none, s)

/-- Whether a value or a key is left out before a token. -/
def isLeftOut : Option Token → Bool
  | some .key | some .value | some .blockEnd => true
  | _ => false

/-- Whether an item is left out before a token. -/
def isItemLeftOut (indentless : Bool) : Option Token → Bool
  | some .blockEntry | some .blockEnd => true
  | some .key | some .value => indentless
  | _ => false

/-- Whether a token ends an entry of a collection in brackets. -/
def endsFlowEntry (last : Token → Bool) : Option Token → Bool
  | some .flowEntry => true
  | some t => last t
  | none => false

/-- Whether a key in brackets is left out before a token. -/
def isKeyLeftOut (last : Token → Bool) : Option Token → Bool
  | some .value => true
  | t => endsFlowEntry last t

def endsSequence : Token → Bool
  | .flowSequenceEnd => true
  | _ => false

def endsMapping : Token → Bool
  | .flowMappingEnd => true
  | _ => false

mutual

/-- A node. In a block, it may be a block collection; in a mapping, a sequence may stand without
indentation. -/
def node? (handles : Handles) : (fuel : Nat) → (block indentless : Bool) → State →
    Option (Node × State)
  | 0, _, _, _ => none
  | fuel + 1, block, indentless, s =>
    match s.next? with
    | some (.reference name) => do some (.reference (← s.anchors.lookup name), s.drop)
    | _ => do
      let (anchor, tag, s) ← properties? handles s
      let wrap (node : Node) : Node := s.anchored anchor node
      let inner := s.declare anchor
      match s.next? with
      | some (.scalar style text) =>
        let tag := if tag == some "!" then none else tag
        some (wrap (.scalar tag style text), inner.drop)
      | some .flowSequenceStart => do
        let (items, s) ← flowItems? handles fuel true inner.drop
        some (wrap (.sequence tag items), s)
      | some .flowMappingStart => do
        let (entries, s) ← flowEntries? handles fuel true inner.drop
        some (wrap (.mapping tag entries), s)
      | t =>
        let isBlockEntry := match t with | some .blockEntry => true | _ => false
        let isBlockSequence := match t with | some .blockSequenceStart => true | _ => false
        let isBlockMapping := match t with | some .blockMappingStart => true | _ => false
        if indentless && isBlockEntry then do
          let (items, s) ← blockItems? handles fuel true inner
          some (wrap (.sequence tag items), s)
        else if block && isBlockSequence then do
          let (items, s) ← blockItems? handles fuel false inner.drop
          some (wrap (.sequence tag items), s)
        else if block && isBlockMapping then do
          let (entries, s) ← blockEntries? handles fuel inner.drop
          some (wrap (.mapping tag entries), s)
        else if anchor.isSome || tag.isSome then some (wrap (.scalar tag .plain ""), inner)
        else none

/-- The items of a block sequence. Without indentation, it ends where no item follows. -/
def blockItems? (handles : Handles) : (fuel : Nat) → (indentless : Bool) → State →
    Option (List Node × State)
  | 0, _, _ => none
  | fuel + 1, indentless, s =>
    match s.next? with
    | some .blockEntry => do
      let s := s.drop
      let (item, s) ← if isItemLeftOut indentless s.next? then some (Node.empty, s)
        else node? handles fuel true false s
      let (items, s) ← blockItems? handles fuel indentless s
      some (item :: items, s)
    | t =>
      if indentless then some ([], s)
      else match t with
        | some .blockEnd => some ([], s.drop)
        | _ => none

/-- The entries of a block mapping. -/
def blockEntries? (handles : Handles) : (fuel : Nat) → State → Option (List (Node × Node) × State)
  | 0, _ => none
  | fuel + 1, s =>
    match s.next? with
    | some .key => do
      let s := s.drop
      let (key, s) ← if isLeftOut s.next? then some (Node.empty, s)
        else node? handles fuel true true s
      let (value, s) ← match s.next? with
        | some .value =>
          let s := s.drop
          if isLeftOut s.next? then some (Node.empty, s) else node? handles fuel true true s
        | _ => some (Node.empty, s)
      let (entries, s) ← blockEntries? handles fuel s
      some ((key, value) :: entries, s)
    | some .blockEnd => some ([], s.drop)
    | _ => none

/-- The items of a sequence in brackets. A key among them begins a mapping of one entry. -/
def flowItems? (handles : Handles) : (fuel : Nat) → (first : Bool) → State →
    Option (List Node × State)
  | 0, _, _ => none
  | fuel + 1, first, s =>
    match s.next? with
    | some .flowSequenceEnd => some ([], s.drop)
    | t => do
      let s ← if first then some s
        else match t with
          | some .flowEntry => some s.drop
          | _ => none
      match s.next? with
      | some .flowSequenceEnd => some ([], s.drop)
      | some .key => do
        let s := s.drop
        let (key, s) ← if isKeyLeftOut endsSequence s.next? then some (Node.empty, s.drop)
          else node? handles fuel false false s
        let (value, s) ← flowValue? handles fuel endsSequence s
        let (items, s) ← flowItems? handles fuel false s
        some (.mapping none [(key, value)] :: items, s)
      | _ => do
        let (item, s) ← node? handles fuel false false s
        let (items, s) ← flowItems? handles fuel false s
        some (item :: items, s)

/-- The entries of a mapping in brackets. A node alone is a key without a value. -/
def flowEntries? (handles : Handles) : (fuel : Nat) → (first : Bool) → State →
    Option (List (Node × Node) × State)
  | 0, _, _ => none
  | fuel + 1, first, s =>
    match s.next? with
    | some .flowMappingEnd => some ([], s.drop)
    | t => do
      let s ← if first then some s
        else match t with
          | some .flowEntry => some s.drop
          | _ => none
      match s.next? with
      | some .flowMappingEnd => some ([], s.drop)
      | some .key => do
        let s := s.drop
        let (key, s) ← if isKeyLeftOut endsMapping s.next? then some (Node.empty, s)
          else node? handles fuel false false s
        let (value, s) ← flowValue? handles fuel endsMapping s
        let (entries, s) ← flowEntries? handles fuel false s
        some ((key, value) :: entries, s)
      | _ => do
        let (key, s) ← node? handles fuel false false s
        let (entries, s) ← flowEntries? handles fuel false s
        some ((key, Node.empty) :: entries, s)

/-- The value after a key in brackets, if there is one. -/
def flowValue? (handles : Handles) : (fuel : Nat) → (last : Token → Bool) → State →
    Option (Node × State)
  | 0, _, _ => none
  | fuel + 1, last, s =>
    match s.next? with
    | some .value =>
      let s := s.drop
      if endsFlowEntry last s.next? then some (Node.empty, s) else node? handles fuel false false s
    | _ => some (Node.empty, s)

end

/-! ## Documents -/

/-- The directives at the start, and the tokens after them. -/
def directives : List Token → List Directive × List Token
  | .directive d :: tokens => let (ds, tokens) := directives tokens; (d :: ds, tokens)
  | tokens => ([], tokens)

/-- Whether the tokens after a document are the end of the stream. -/
def isEnd : List Token → Bool
  | [] => true
  | .documentEnd :: tokens => isEnd tokens
  | _ => false

/-- Whether a document that has been opened is left empty. -/
def isEmpty : Option Token → Bool
  | none | some (.directive _) | some .documentStart | some .documentEnd => true
  | _ => false

/-- The document that tokens make up. -/
def ofTokens? (tokens : List Token) : Option Document :=
  let fuel := 4 * tokens.length + 8
  let finish (found : Option (Node × State)) : Option Document := do
    let (root, s) ← found
    if isEnd s.tokens then some ⟨some root⟩ else none
  match tokens with
  | [] => some ⟨none⟩
  | .directive _ :: _ | .documentStart :: _ =>
    match directives tokens with
    | (ds, .documentStart :: tokens) => do
      let handles ← handles? false [] ds
      let s : State := ⟨tokens, []⟩
      finish (if isEmpty s.next? then some (Node.empty, s) else node? handles fuel true false s)
    | _ => none
  | _ => finish (node? defaultHandles fuel true false ⟨tokens, []⟩)

/-- The document of a text. -/
def parse? (text : String) : Option Document := do ofTokens? (← tokens? text.toList)

end Document

end Recast.Yaml
