import Recast.Json.Numeral
import Recast.Text.Utf8

/-!
# Reading JSON text

`parse` reads a document from its bytes: one value of depth at most 127 and nothing but blanks
around it.
-/

namespace Recast.Json

namespace Reader

def isSpace (b : UInt8) : Bool := b == 32 || b == 10 || b == 9 || b == 13

def skip (s : List UInt8) : List UInt8 := s.dropWhile isSpace

/-- The rest of a word whose first letter has been read. -/
def word : (letters s : List UInt8) → Except Stop (List UInt8)
  | [], s => .ok s
  | _ :: _, [] => stopHere .unfinishedValue []
  | w :: letters, b :: s => if w == b then word letters s else stopHere .expectedWord s

/-! ## Strings -/

def hexDigit? (b : UInt8) : Option Nat := Text.hexDigit? (Char.ofNat b.toNat)

/-- Four hexadecimal digits. -/
def fourHex (s : List UInt8) : Except Stop (Nat × List UInt8) :=
  match s with
  | a :: b :: c :: d :: s =>
    match hexDigit? a, hexDigit? b, hexDigit? c, hexDigit? d with
    | some a, some b, some c, some d => .ok (((a * 16 + b) * 16 + c) * 16 + d, s)
    | _, _, _, _ => stopHere .badEscape s
  | _ => stopHere .unfinishedString []

/-- The second half of a pair of surrogates, after the first one. -/
def secondHalf (first : Nat) (s : List UInt8) : Except Stop (Char × List UInt8) :=
  match s with
  | [] => stopHere .unfinishedString s
  | 92 :: s =>
    match s with
    | [] => stopHere .unfinishedString s
    | 117 :: s => do
      let (n, s) ← fourHex s
      if n < 0xDC00 || n > 0xDFFF then stopHere .loneSurrogate s
      else .ok (Char.ofNat ((first - 0xD800) * 1024 + (n - 0xDC00) + 0x10000), s)
    | _ :: s => stopHere .unfinishedEscape s
  | _ :: s => stopHere .unfinishedEscape s

/-- The character that a code in an escape stands for. -/
def coded (s : List UInt8) : Except Stop (Char × List UInt8) := do
  let (n, s) ← fourHex s
  if 0xDC00 ≤ n && n ≤ 0xDFFF then stopHere .loneSurrogate s
  else if n < 0xD800 || n > 0xDBFF then .ok (Char.ofNat n, s)
  else secondHalf n s

/-- The character that an escape stands for, after its backslash. -/
def escaped (s : List UInt8) : Except Stop (Char × List UInt8) :=
  match s with
  | [] => stopHere .unfinishedString s
  | 34 :: s => .ok ('"', s)
  | 92 :: s => .ok ('\\', s)
  | 47 :: s => .ok ('/', s)
  | 98 :: s => .ok ('\x08', s)
  | 102 :: s => .ok ('\x0c', s)
  | 110 :: s => .ok ('\n', s)
  | 114 :: s => .ok ('\r', s)
  | 116 :: s => .ok ('\t', s)
  | 117 :: s => coded s
  | _ :: s => stopHere .badEscape s

/-- The bytes of a string after its opening quote; `bytes` are those read, reversed. -/
def stringBytes : (fuel : Nat) → (bytes s : List UInt8) → Except Stop (List UInt8 × List UInt8)
  | 0, _, s => stopHere .unfinishedString s
  | fuel + 1, bytes, s =>
    match s with
    | [] => stopHere .unfinishedString s
    | 34 :: s => .ok (bytes.reverse, s)
    | 92 :: s => do
      let (c, s) ← escaped s
      stringBytes fuel ((Text.Utf8.encode (String.ofList [c])).reverse ++ bytes) s
    | b :: s => if b < 32 then stopHere .controlCharacter s else stringBytes fuel (b :: bytes) s

/-- A string after its opening quote. Bytes that are no text are found before the closing quote is
passed. -/
def string (s : List UInt8) : Except Stop (String × List UInt8) := do
  let (bytes, s) ← stringBytes (s.length + 1) [] s
  match Text.Utf8.decode? bytes with
  | some cs => .ok (String.ofList cs, s)
  | none => .error ⟨.badCodePoint, s.length + 1⟩

/-! ## Values -/

mutual

/-- One value; `depth` more levels of lists and objects are allowed. -/
def value : (fuel depth : Nat) → List UInt8 → Except Stop (Value × List UInt8)
  | 0, _, s => stopAfter .unfinishedValue s
  | fuel + 1, depth, s =>
    match skip s with
    | [] => stopAfter .unfinishedValue []
    | 110 :: s => do .ok (.null, ← word [117, 108, 108] s)
    | 116 :: s => do .ok (.bool true, ← word [114, 117, 101] s)
    | 102 :: s => do .ok (.bool false, ← word [97, 108, 115, 101] s)
    | 45 :: s => do
      let (n, s) ← Numeral.read true s
      .ok (.number n, s)
    | 34 :: s => do
      let (t, s) ← string s
      .ok (.string t, s)
    | 91 :: s =>
      match depth with
      | 0 => stopHere .tooDeep s
      | depth + 1 => do
        let (items, s) ← items fuel depth true [] s
        .ok (.array items, s)
    | 123 :: s =>
      match depth with
      | 0 => stopHere .tooDeep s
      | depth + 1 => do
        let (fields, s) ← members fuel depth true [] s
        .ok (.object fields, s)
    | b :: s =>
      if (Numeral.digit? b).isSome then do
        let (n, s) ← Numeral.read false (b :: s)
        .ok (.number n, s)
      else stopAfter .expectedValue (b :: s)

/-- The items of a list after those in `done`, reversed. -/
def items : (fuel depth : Nat) → (first : Bool) → (done : List Value) → List UInt8 →
    Except Stop (List Value × List UInt8)
  | 0, _, _, _, s => stopAfter .unfinishedList s
  | fuel + 1, depth, first, done, s =>
    match skip s with
    | [] => stopAfter .unfinishedList []
    | 93 :: s => .ok (done.reverse, s)
    | b :: s =>
      if first then do
        let (v, s) ← value fuel depth (b :: s)
        items fuel depth false (v :: done) s
      else if b == 44 then
        match skip s with
        | [] => stopAfter .unfinishedValue []
        | 93 :: s => stopAfter .trailingComma (93 :: s)
        | s => do
          let (v, s) ← value fuel depth s
          items fuel depth false (v :: done) s
      else stopAfter .expectedListEnd (b :: s)

/-- The members of an object after those in `done`, reversed. -/
def members : (fuel depth : Nat) → (first : Bool) → (done : Fields) → List UInt8 →
    Except Stop (Fields × List UInt8)
  | 0, _, _, _, s => stopAfter .unfinishedObject s
  | fuel + 1, depth, first, done, s =>
    match skip s with
    | [] => stopAfter .unfinishedObject []
    | 125 :: s => .ok (done.reverse, s)
    | b :: s =>
      if first then
        if b == 34 then member fuel depth done s else stopAfter .keyNotString (b :: s)
      else if b == 44 then
        match skip s with
        | [] => stopAfter .unfinishedValue []
        | 34 :: s => member fuel depth done s
        | 125 :: s => stopAfter .trailingComma (125 :: s)
        | s => stopAfter .keyNotString s
      else stopAfter .expectedObjectEnd (b :: s)

/-- A member after the opening quote of its key, and those after it. -/
def member : (fuel depth : Nat) → (done : Fields) → List UInt8 → Except Stop (Fields × List UInt8)
  | 0, _, _, s => stopAfter .unfinishedObject s
  | fuel + 1, depth, done, s => do
    let (key, s) ← string s
    match skip s with
    | [] => stopAfter .unfinishedObject []
    | 58 :: s =>
      let (v, s) ← value fuel depth s
      members fuel depth false ((key, v) :: done) s
    | s => stopAfter .expectedColon s

end

/-- One value, with the members of its objects as they are written, and the blanks around it. -/
def document (s : List UInt8) : Except Stop Value := do
  let (v, s) ← value (2 * s.length + 2) 127 s
  match skip s with
  | [] => .ok v
  | s => stopAfter .trailingCharacters s

/-- Line and column before the last `left` bytes. -/
def placed (bytes : List UInt8) (left : Nat) : Nat × Nat :=
  (bytes.take (bytes.length - left)).foldl
    (fun place b => if b == 10 then (place.1 + 1, 0) else (place.1, place.2 + 1)) (1, 0)

end Reader

/-- The document that the bytes hold. -/
def parseBytes (bytes : List UInt8) : Except Fault Value :=
  match Reader.document bytes with
  | .ok v => .ok v.merged
  | .error stop =>
    let (line, column) := Reader.placed bytes stop.left
    .error ⟨stop.cause, line, column⟩

/-- The document that the text holds. -/
def parse (text : String) : Except Fault Value := parseBytes (Text.Utf8.encode text)

end Recast.Json
