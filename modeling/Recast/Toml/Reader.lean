import Recast.Toml.Value

/-!
# Reading TOML text

`parse?` reads a document: sections of keys with values, put together into tables.
-/

namespace Recast.Toml

namespace Reader

/-! ## Blanks -/

def isSpace (c : Char) : Bool := c == ' ' || c == '\t'

def skip (s : List Char) : List Char := s.dropWhile isSpace

/-- Whether a character may stand in a text as it is: a tab, or no control character. -/
def isText (c : Char) : Bool := c == '\t' || (0x20 ≤ c.toNat && c.toNat != 0x7F)

def newline? : List Char → Option (List Char)
  | '\n' :: s => some s
  | '\r' :: '\n' :: s => some s
  | _ => none

def skipComment : List Char → List Char
  | '#' :: s => s.dropWhile isText
  | s => s

/-- The text after the end of a line, which may have a comment. -/
def lineEnd? (s : List Char) : Option (List Char) :=
  match skipComment (skip s) with
  | [] => some []
  | s => newline? s

/-- Passes blanks, comments and line breaks. -/
def skipLines : (fuel : Nat) → List Char → List Char
  | 0, s => s
  | fuel + 1, s =>
    let s := skipComment (skip s)
    match newline? s with
    | some s => skipLines fuel s
    | none => s

def skipAll (s : List Char) : List Char := skipLines (s.length + 1) s

/-! ## Strings -/

def hexValue? (digits : List Char) : Option Nat :=
  digits.foldlM (fun n c => (Text.hexDigit? c).map (n * 16 + ·)) 0

/-- The character of a code of `n` digits. -/
def coded? (n : Nat) (s : List Char) : Option (Char × List Char) := do
  let code ← hexValue? (s.take n)
  if s.length < n || (0xD800 ≤ code && code ≤ 0xDFFF) || 0x110000 ≤ code then none
  else some (Char.ofNat code, s.drop n)

/-- What an escape stands for, after its backslash. -/
def escaped? : List Char → Option (Char × List Char)
  | 'b' :: s => some ('\x08', s)
  | 't' :: s => some ('\t', s)
  | 'n' :: s => some ('\n', s)
  | 'f' :: s => some ('\x0c', s)
  | 'r' :: s => some ('\r', s)
  | '"' :: s => some ('"', s)
  | '\\' :: s => some ('\\', s)
  | 'u' :: s => coded? 4 s
  | 'U' :: s => coded? 8 s
  | _ => none

/-- A string on one line after its opening quote. -/
def string? (quote : Char) : (fuel : Nat) → (text : List Char) → List Char →
    Option (String × List Char)
  | 0, _, _ => none
  | fuel + 1, text, s =>
    match s with
    | [] => none
    | c :: s =>
      if c == quote then some (String.ofList text.reverse, s)
      else if c == '\\' && quote == '"' then do
        let (d, s) ← escaped? s
        string? quote fuel (d :: text) s
      else if isText c then string? quote fuel (c :: text) s
      else none

/-- Passes blanks and line breaks. -/
def skipBreaks : (fuel : Nat) → List Char → List Char
  | 0, s => s
  | fuel + 1, s =>
    match newline? (skip s) with
    | some s => skipBreaks fuel s
    | none => skip s

/-- The text after an escaped line break and the blanks around it. -/
def continued? (s : List Char) : Option (List Char) :=
  (newline? (skip s)).map fun rest => skipBreaks (rest.length + 1) rest

/-- A string of several lines after its opening quotes. Up to two quotes may stand before the
closing ones. -/
def lines? (quote : Char) : (fuel : Nat) → (text : List Char) → List Char →
    Option (String × List Char)
  | 0, _, _ => none
  | fuel + 1, text, s =>
    match s with
    | [] => none
    | c :: rest =>
      if c == quote then
        let count := (s.takeWhile (· == quote)).length
        if count < 3 then lines? quote fuel (List.replicate count quote ++ text) (s.drop count)
        else
          let extra := min (count - 3) 2
          some (String.ofList (List.replicate extra quote ++ text).reverse, s.drop (extra + 3))
      else match newline? s with
        | some s => lines? quote fuel ('\n' :: text) s
        | none =>
          if c == '\\' && quote == '"' then
            match continued? rest with
            | some s => lines? quote fuel text s
            | none => do
              let (d, s) ← escaped? rest
              lines? quote fuel (d :: text) s
          else if isText c then lines? quote fuel (c :: text) rest
          else none

def oneLine? (quote : Char) (s : List Char) : Option (String × List Char) :=
  string? quote (s.length + 1) [] s

/-- A string after its first quote. -/
def anyString? (quote : Char) (s : List Char) : Option (String × List Char) :=
  match s with
  | a :: b :: s =>
    if a == quote && b == quote then lines? quote (s.length + 1) [] ((newline? s).getD s)
    else oneLine? quote (a :: b :: s)
  | s => oneLine? quote s

/-! ## Keys -/

def isBare (c : Char) : Bool := c.isAlphanum || c == '_' || c == '-'

def simpleKey? (s : List Char) : Option (String × List Char) :=
  match s with
  | '"' :: s => oneLine? '"' s
  | '\'' :: s => oneLine? '\'' s
  | s =>
    let name := s.takeWhile isBare
    if name.isEmpty then none else some (String.ofList name, s.dropWhile isBare)

/-- A key with dots, and the blanks around it: the keys before the last dot, and the last one. -/
def key? : (fuel : Nat) → List Char → Option ((List String × String) × List Char)
  | 0, _ => none
  | fuel + 1, s => do
    let (name, s) ← simpleKey? (skip s)
    match skip s with
    | '.' :: s => do
      let ((path, last), s) ← key? fuel s
      some ((name :: path, last), s)
    | s => some (([], name), s)

/-- The most keys that dots may join, and the most levels of values. -/
def limit : Nat := 80

def anyKey? (s : List Char) : Option ((List String × String) × List Char) := key? (limit - 1) s

/-! ## Numbers -/

/-- Digits with single underscores between them, without these. -/
def digits (isDigit : Char → Bool) : List Char → List Char × List Char
  | '_' :: c :: s =>
    if isDigit c then let (ds, s) := digits isDigit s; (c :: ds, s) else ([], '_' :: c :: s)
  | c :: s => if isDigit c then let (ds, s) := digits isDigit s; (c :: ds, s) else ([], c :: s)
  | [] => ([], [])

/-- Digits that do not begin with an underscore. -/
def someDigits? (isDigit : Char → Bool) (s : List Char) : Option (List Char × List Char) :=
  match s with
  | c :: _ => if isDigit c then some (digits isDigit s) else none
  | [] => none

/-- A decimal integer without a superfluous zero: its sign, its digits. -/
def decimal? (s : List Char) : Option ((List Char × List Char) × List Char) :=
  let (mark, s) := match s with
    | '+' :: s => ([], s)
    | '-' :: s => (['-'], s)
    | s => ([], s)
  match s with
  | '0' :: s => some ((mark, ['0']), s)
  | s => (someDigits? Text.isDigit s).map fun (ds, s) => ((mark, ds), s)

/-- Digits after a point. -/
def fraction? : List Char → Option (List Char × List Char)
  | '.' :: s => (someDigits? Text.isDigit s).map fun (ds, s) => ('.' :: ds, s)
  | _ => none

/-- A power of ten. -/
def exponent? : List Char → Option (List Char × List Char)
  | c :: s =>
    if c != 'e' && c != 'E' then none
    else
      let (mark, s) := match s with
        | '+' :: s => ([], s)
        | '-' :: s => (['-'], s)
        | s => ([], s)
      (someDigits? Text.isDigit s).map fun (ds, s) => ('e' :: mark ++ ds, s)
  | [] => none

/-- An infinity, or what is no number. -/
def special? (s : List Char) : Option (Value × List Char) :=
  let (negative, rest) := Numeral.sign s
  match rest with
  | 'i' :: 'n' :: 'f' :: s => some (.infinity negative, s)
  | 'n' :: 'a' :: 'n' :: s => some (.notANumber, s)
  | _ => none

def float? (s : List Char) : Option (Value × List Char) := do
  let ((mark, whole), s) ← decimal? s
  let (part, s) ← match fraction? s with
    | some (part, s) => match exponent? s with
      | some (e, s) => some (part ++ e, s)
      | none => some (part, s)
    | none => exponent? s
  match Numeral.double? (mark ++ whole ++ part) with
  | some d => some (.float d, s)
  | none => if mark.isEmpty then none else some (.infinity true, s)

/-- The value of digits of a base. -/
def inBase (base : Nat) (ds : List Char) : Nat :=
  ds.foldl (fun n c => n * base + (Text.hexDigit? c).getD 0) 0

def isBaseDigit (base : Nat) (c : Char) : Bool :=
  match Text.hexDigit? c with
  | some d => decide (d < base)
  | none => false

def integer? (s : List Char) : Option (Value × List Char) :=
  let based (base : Nat) (s : List Char) : Option (Value × List Char) := do
    let (ds, s) ← someDigits? (isBaseDigit base) s
    if inBase base ds < Nat.pow 2 63 then some (.integer (inBase base ds), s) else none
  match s with
  | '0' :: 'x' :: s => based 16 s
  | '0' :: 'o' :: s => based 8 s
  | '0' :: 'b' :: s => based 2 s
  | s => do
    let ((mark, ds), s) ← decimal? s
    some (.integer (← Numeral.signed? (mark ++ ds)), s)

/-! ## Dates and times -/

/-- A number of exactly `n` digits within bounds. -/
def numeral? (n low high : Nat) (s : List Char) : Option (Nat × List Char) :=
  let ds := s.take n
  let value := Text.digitsValue ds
  if ds.length == n && ds.all Text.isDigit && low ≤ value && value ≤ high then
    some (value, s.drop n)
  else none

def mark? (c : Char) (s : List Char) : Option (List Char) := Text.dropStart? [c] s

def daysInMonth (year month : Nat) : Nat :=
  if month == 2 then
    if (year % 4 == 0 && year % 100 != 0) || year % 400 == 0 then 29 else 28
  else if month == 4 || month == 6 || month == 9 || month == 11 then 30
  else 31

/-- The text after a date. -/
def date? (s : List Char) : Option (List Char) := do
  let (year, s) ← numeral? 4 0 9999 s
  let (month, s) ← numeral? 2 1 12 (← mark? '-' s)
  let (_, s) ← numeral? 2 1 (daysInMonth year month) (← mark? '-' s)
  some s

/-- The text after a time of a day. -/
def time? (s : List Char) : Option (List Char) := do
  let (_, s) ← numeral? 2 0 23 s
  let (_, s) ← numeral? 2 0 59 (← mark? ':' s)
  let (_, s) ← numeral? 2 0 60 (← mark? ':' s)
  match s with
  | '.' :: c :: rest => if Text.isDigit c then some (rest.dropWhile Text.isDigit) else none
  | '.' :: [] => none
  | s => some s

/-- The text after an offset from universal time. -/
def offset? (s : List Char) : Option (List Char) :=
  match s with
  | 'Z' :: s | 'z' :: s => some s
  | '+' :: s | '-' :: s => do
    let (_, s) ← numeral? 2 0 23 s
    let (_, s) ← numeral? 2 0 59 (← mark? ':' s)
    some s
  | _ => none

/-- The text after a time that follows a date, if one does. -/
def afterDate (s : List Char) : List Char :=
  match s with
  | c :: rest =>
    if c == 'T' || c == 't' || c == ' ' then
      match time? rest with
      | some rest => (offset? rest).getD rest
      | none => s
    else s
  | [] => s

def moment? (s : List Char) : Option (Value × List Char) := do
  let rest ← ((date? s).map afterDate).or (time? s)
  some (.moment (String.ofList (s.take (s.length - rest.length))), rest)

/-! ## Values -/

def word? (word : String) (v : Value) (s : List Char) : Option (Value × List Char) :=
  (Text.dropStart? word.toList s).map fun s => (v, s)

mutual

/-- One value; `depth` more levels of values are allowed. -/
def value? : (fuel depth : Nat) → List Char → Option (Value × List Char)
  | 0, _, _ => none
  | fuel + 1, depth, s =>
    match s with
    | [] => none
    | c :: rest =>
      if c == '"' || c == '\'' then (anyString? c rest).map fun (text, s) => (.string text, s)
      else if c == '[' then
        match depth with
        | 0 => none
        | depth + 1 => (items? fuel depth rest).map fun (items, s) => (.array items, s)
      else if c == '\x7b' then
        match depth with
        | 0 => none
        | depth + 1 =>
          match skip rest with
          | '\x7d' :: s => some (.table .closed [], s)
          | s => do
            let (entries, s) ← entries? fuel depth s
            some (.table .closed (← Fields.insertAll? entries []), s)
      else if c == 't' then word? "true" (.boolean true) s
      else if c == 'f' then word? "false" (.boolean false) s
      else (moment? s).or ((special? s).or ((float? s).or (integer? s)))

/-- The items of an array. -/
def items? : (fuel depth : Nat) → List Char → Option (List Value × List Char)
  | 0, _, _ => none
  | fuel + 1, depth, s =>
    match skipAll s with
    | ']' :: s => some ([], s)
    | s => do
      let (v, s) ← value? fuel depth s
      match skipAll s with
      | ',' :: s => do
        let (vs, s) ← items? fuel depth s
        some (v :: vs, s)
      | ']' :: s => some ([v], s)
      | _ => none

/-- The entries of a table between braces, up to the closing one. -/
def entries? : (fuel depth : Nat) → List Char → Option (List Entry × List Char)
  | 0, _, _ => none
  | fuel + 1, depth, s => do
    let ((path, key), s) ← anyKey? s
    let (v, s) ← value? fuel depth (skip (← mark? '=' s))
    match skip s with
    | ',' :: s => do
      let (es, s) ← entries? fuel depth s
      some (⟨path, key, v⟩ :: es, s)
    | '\x7d' :: s => some ([⟨path, key, v⟩], s)
    | _ => none

end

/-! ## Documents -/

/-- An entry on a line of its own. -/
def entry? (s : List Char) : Option (Entry × List Char) := do
  let ((path, key), s) ← anyKey? s
  let (v, s) ← value? (2 * s.length + 2) (limit - 1) (skip (← mark? '=' s))
  some (⟨path, key, v⟩, ← lineEnd? s)

/-- The entries up to a header or the end, each on a line of its own. -/
def sectionEntries? : (fuel : Nat) → List Char → Option (List Entry × List Char)
  | 0, _ => none
  | fuel + 1, s =>
    match skipAll s with
    | [] => some ([], [])
    | '[' :: s => some ([], '[' :: s)
    | s => do
      let (e, s) ← entry? s
      let (es, s) ← sectionEntries? fuel s
      some (e :: es, s)

/-- A header on a line of its own. -/
def header? (s : List Char) : Option (Header × List Char) :=
  match s with
  | '[' :: '[' :: s => do
    let ((path, key), s) ← anyKey? s
    some (.element path key, ← lineEnd? (← Text.dropStart? [']', ']'] s))
  | '[' :: s => do
    let ((path, key), s) ← anyKey? s
    some (.table path key, ← lineEnd? (← mark? ']' s))
  | _ => none

/-- The sections after the first one. -/
def sections? : (fuel : Nat) → List Char → Option (List Section)
  | 0, _ => none
  | _ + 1, [] => some []
  | fuel + 1, s => do
    let (header, s) ← header? s
    let (entries, s) ← sectionEntries? (s.length + 1) s
    some (⟨header, entries⟩ :: (← sections? fuel s))

end Reader

open Reader in
/-- The tables of a document. -/
def parse? (text : String) : Option Fields := do
  let s := match text.toList with
    | '\ufeff' :: s => s
    | s => s
  let (entries, s) ← sectionEntries? (s.length + 1) s
  let sections ← sections? (s.length + 1) s
  (⟨.top, entries⟩ :: sections).foldlM (fun root part => part.addTo? root) ([] : Fields)

end Recast.Toml
