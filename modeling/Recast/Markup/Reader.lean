import Recast.Markup.Namespace

/-!
# Reading documents

`parse?` reads a well-formed document and gives its document element. Comments, instructions and the
declaration are dropped; text on both sides of a section is one text. Documents with a type
declaration are not read.
-/

namespace Recast.Markup

/-- An element that is open: its name as written, what it declares, and its children so far,
reversed. -/
structure Frame where
  name : QName
  scope : Scope
  attributes : List Attribute
  children : List Node
  /-- Whether text now would go on with the text read last. -/
  inText : Bool

namespace Frame

def close (f : Frame) : Node := .element f.name.loc f.attributes f.children.reverse

def addNode (f : Frame) (n : Node) : Frame :=
  { f with children := n :: f.children, inText := false }

def addText (f : Frame) (s : String) : Frame :=
  match f.inText, f.children with
  | true, .text before :: rest => { f with children := .text (before ++ s) :: rest }
  | _, children => { f with children := .text s :: children, inText := true }

end Frame

namespace Reader

/-- The rest of a document after an open element: its node and the text behind it. The frames around
it are in `outer`, the nearest first. -/
def content : (fuel : Nat) → (current : Frame) → (outer : List Frame) → List Char →
    Option (Node × List Char)
  | 0, _, _, _ => none
  | _, _, _, [] => none
  | fuel + 1, current, outer, s => do
    let (token, s) ← Token.next? s
    match token with
    | .gap => content fuel { current with inText := false } outer s
    | .text t => content fuel (current.addText t) outer s
    | .sect t => content fuel (current.addText t) outer s
    | .start name attributes isEmpty =>
      let (scope, attributes) ← current.scope.enter? name attributes
      if isEmpty then content fuel (current.addNode (.element name.loc attributes [])) outer s
      else content fuel ⟨name, scope, attributes, [], false⟩ (current :: outer) s
    | .stop name =>
      if name != current.name then none
      else match outer with
        | [] => some (current.close, s)
        | parent :: outer => content fuel (parent.addNode current.close) outer s

/-- The text after spaces, comments and instructions. -/
def skipMisc : (fuel : Nat) → List Char → Option (List Char)
  | 0, s => some s
  | fuel + 1, s =>
    match Token.skipSpaces s with
    | '<' :: '!' :: '-' :: '-' :: s => do skipMisc fuel (← Token.comment? s)
    | '<' :: '?' :: s => do skipMisc fuel (← Token.instruction? s)
    | s => some s

/-- The text after an assignment that has to follow, if it starts with `word`. -/
def declarationPart? (word s : List Char) : Option (List Char) :=
  if Text.startsWith word s then (Token.assignment? s).map (·.2.2) else some s

/-- The text after spaces, which have to be there unless the declaration ends. -/
def partEnd? (s : List Char) : Option (List Char) :=
  match s with
  | [] => some []
  | c :: _ => if isSpace c then some (Token.skipSpaces s)
    else if Text.startsWith "?>".toList s then some s else none

/-- The text after a declaration, whose `<?xml` was read: a version, then perhaps an encoding and
whether the document stands alone. -/
def declaration? (s : List Char) : Option (List Char) := do
  let s := Token.skipSpaces s
  if !Text.startsWith "version".toList s then none
  else
    let s ← partEnd? (← declarationPart? "version".toList s)
    let s ← if Text.startsWith "encoding".toList s then
        partEnd? (← declarationPart? "encoding".toList s)
      else some s
    let s ← declarationPart? "standalone".toList s
    Text.dropStart? "?>".toList (Token.skipSpaces s)

/-- The document element, at the start of the text. -/
def root? (s : List Char) : Option (Node × List Char) := do
  match s with
  | '<' :: s =>
    let (token, s) ← Token.start? s
    match token with
    | .start name attributes isEmpty =>
      let (scope, attributes) ← Scope.enter? [] name attributes
      let frame : Frame := ⟨name, scope, attributes, [], false⟩
      if isEmpty then some (frame.close, s) else content (s.length + 1) frame [] s
    | _ => none
  | _ => none

end Reader

/-- The document element of a document. -/
def parse? (source : List Char) : Option Node := do
  let s := match source with
    | '\ufeff' :: s => s
    | s => s
  let s ← match Text.dropStart? "<?xml ".toList s with
    | some s => Reader.declaration? s
    | none => some s
  let s ← Reader.skipMisc s.length s
  let (root, s) ← Reader.root? s
  let s ← Reader.skipMisc s.length s
  if s.isEmpty then some root else none

end Recast.Markup
