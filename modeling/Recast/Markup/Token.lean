import Recast.Markup.Reference

/-!
# Pieces of a document

The pieces that the content of a document is made of: tags, text, sections, and gaps, which are
comments and instructions. `Token.next?` takes the first piece off the text.
-/

namespace Recast.Markup

/-- An attribute as it stands in a tag. -/
structure RawAttribute where
  name : QName
  value : String
deriving DecidableEq, Repr

inductive Token where
  /-- A start tag, or an empty element. -/
  | start (name : QName) (attributes : List RawAttribute) (isEmpty : Bool)
  | stop (name : QName)
  | text (content : String)
  | sect (content : String)
  | gap
deriving DecidableEq, Repr

namespace Token

def skipSpaces (s : List Char) : List Char := s.dropWhile isSpace

/-- The text before a word, which may hold document characters only, and the text after it. -/
def until? (word : List Char) : List Char → Option (List Char × List Char)
  | [] => none
  | c :: s =>
    if !isDocumentChar c then none
    else match Text.dropStart? word (c :: s) with
      | some rest => some ([], rest)
      | none => (until? word s).map fun (a, b) => (c :: a, b)

/-- Whether a word stands in the text. -/
def holds (word : List Char) : List Char → Bool
  | [] => word.isEmpty
  | c :: s => Text.startsWith word (c :: s) || holds word s

/-- The rest after a comment, whose opening was read. It holds no two hyphens in a row and does not
end in one. -/
def comment? (s : List Char) : Option (List Char) := do
  let (content, rest) ← until? "-->".toList s
  if holds "--".toList content || content.getLast? == some '-' then none else some rest

/-- The rest after an instruction, whose opening was read. -/
def instruction? (s : List Char) : Option (List Char) := do
  if Text.startsWith "xml ".toList s then none
  else
    let (_, s) ← name? s
    let (_, rest) ← until? "?>".toList (skipSpaces s)
    some rest

/-- A quoted value, which holds no `<`. -/
def quotedValue? (s : List Char) : Option (List Char × List Char) :=
  match s with
  | [] => none
  | quote :: s =>
    if quote != '"' && quote != '\'' then none
    else do
      let (value, rest) ← until? [quote] s
      if value.contains '<' then none else some (value, rest)

/-- A name, an equals sign and a quoted value. -/
def assignment? (s : List Char) : Option (QName × List Char × List Char) := do
  let (name, s) ← qualifiedName? s
  match skipSpaces s with
  | '=' :: s => do
    let (value, s) ← quotedValue? (skipSpaces s)
    some (name, value, s)
  | _ => none

/-- The attributes of a tag up to its end, and whether it ends the element. Every attribute stands
after a space. -/
def attributes? : (fuel : Nat) → List Char → Option (List RawAttribute × Bool × List Char)
  | 0, _ => none
  | fuel + 1, s =>
    match skipSpaces s with
    | '/' :: '>' :: rest => some ([], true, rest)
    | '>' :: rest => some ([], false, rest)
    | inner =>
      if inner.length == s.length then none
      else do
        let (name, raw, s) ← assignment? inner
        let value ← attributeValue? raw
        let (attributes, isEmpty, s) ← attributes? fuel s
        some (⟨name, String.ofList value⟩ :: attributes, isEmpty, s)

/-- A start tag after its `<`. -/
def start? (s : List Char) : Option (Token × List Char) := do
  let (name, s) ← qualifiedName? s
  let (attributes, isEmpty, s) ← attributes? (s.length + 1) s
  some (.start name attributes isEmpty, s)

/-- An end tag after its `</`. -/
def stop? (s : List Char) : Option (Token × List Char) := do
  let (name, s) ← qualifiedName? s
  match skipSpaces s with
  | '>' :: s => some (.stop name, s)
  | _ => none

/-- Character data up to the next tag. -/
def characters? (s : List Char) : Option (Token × List Char) := do
  let raw := s.takeWhile (· != '<')
  if !raw.all isDocumentChar || holds "]]>".toList raw then none
  else some (.text (String.ofList (← text? raw)), s.dropWhile (· != '<'))

/-- The first piece of content that is not empty. -/
def next? (s : List Char) : Option (Token × List Char) :=
  match s with
  | '<' :: '!' :: '-' :: '-' :: s => (comment? s).map (.gap, ·)
  | '<' :: '!' :: s => do
    let s ← Text.dropStart? "[CDATA[".toList s
    let (content, rest) ← until? "]]>".toList s
    some (.sect (String.ofList (sectionText [] content)), rest)
  | '<' :: '?' :: s => (instruction? s).map (.gap, ·)
  | '<' :: '/' :: s => stop? s
  | '<' :: s => start? s
  | s => characters? s

end Token

end Recast.Markup
