import Recast.Pattern.Match
import Recast.Text.Letter
import Recast.Validation.Draft

/-!
# Formats of strings

The formats that a schema can ask of a string, for the drafts that check them.
-/

namespace Recast.Validation.Format

open Text (isDigit natural?)

/-! ## Dates and times -/

/-- A number of exactly two digits. -/
def twoDigits? : List Char → Option Nat
  | [a, b] => natural? [a, b]
  | _ => none

def monthLength (year month : Nat) : Nat :=
  if month == 2 then
    if year % 4 == 0 && (year % 100 != 0 || year % 400 == 0) then 29 else 28
  else if [4, 6, 9, 11].contains month then 30 else 31

def isDate (s : List Char) : Bool :=
  match s with
  | [a, b, c, d, '-', e, f, '-', g, h] =>
    match natural? [a, b, c, d], natural? [e, f], natural? [g, h] with
    | some year, some month, some day =>
      1 ≤ month && month ≤ 12 && 1 ≤ day && day ≤ monthLength year month
    | _, _, _ => false
  | _ => false

/-- Minutes that a clock is ahead. -/
def offset? : List Char → Option Int
  | ['Z'] | ['z'] => some 0
  | [sign, a, b, ':', c, d] =>
    match natural? [a, b], natural? [c, d] with
    | some hours, some minutes =>
      let n : Int := (hours * 60 + minutes : Nat)
      if hours > 23 || minutes > 59 then none
      else if sign == '+' then some n
      else if sign == '-' then some (-n)
      else none
    | _, _ => none
  | _ => none

/-- What follows a fraction of a second, if one stands there. -/
def afterFraction? : List Char → Option (List Char)
  | '.' :: s => if (s.takeWhile isDigit).isEmpty then none else some (s.dropWhile isDigit)
  | s => some s

/-- A time with an offset. A leap second ends a day of Greenwich. -/
def isTime (s : List Char) : Bool :=
  match s with
  | a :: b :: ':' :: c :: d :: ':' :: e :: f :: rest =>
    match natural? [a, b], natural? [c, d], natural? [e, f], (afterFraction? rest).bind offset? with
    | some hour, some minute, some second, some offset =>
      let minutes : Int := (hour * 60 + minute : Nat)
      hour ≤ 23 && minute ≤ 59 && second ≤ 60 &&
        (second < 60 || (minutes - offset) % 1440 == 1439)
    | _, _, _, _ => false
  | _ => false

def isDateTime (s : List Char) : Bool :=
  match s.dropWhile fun c => c != 'T' && c != 't' with
  | _ :: time => isDate (s.takeWhile fun c => c != 'T' && c != 't') && isTime time
  | [] => false

/-! ## Addresses -/

/-- A number of one to three digits, with no zero before others, below 256. -/
def isOctet (s : List Char) : Bool :=
  match natural? s with
  | some n => s.length ≤ 3 && n < 256 && (s.length == 1 || s.head? != some '0')
  | none => false

def isIpv4 (s : List Char) : Bool :=
  let parts := Text.splitAt (· == '.') s
  parts.length == 4 && parts.all isOctet

def isHexGroup (s : List Char) : Bool :=
  !s.isEmpty && s.length ≤ 4 && s.all fun c => (Text.hexDigit? c).isSome

/-- The number of 16-bit groups that a list of groups stands for; the last one may be an address of
four octets. -/
def groupCount? (mayEndInOctets : Bool) : List (List Char) → Option Nat
  | [] => some 0
  | [g] => if isHexGroup g then some 1 else if mayEndInOctets && isIpv4 g then some 2 else none
  | g :: rest => if isHexGroup g then (groupCount? mayEndInOctets rest).map (· + 1) else none

def groups (s : List Char) : List (List Char) :=
  if s.isEmpty then [] else Text.splitAt (· == ':') s

def isIpv6 (s : List Char) : Bool :=
  match Text.splitOn "::".toList s with
  | [whole] => groupCount? true (groups whole) == some 8
  | [front, back] =>
    match groupCount? false (groups front), groupCount? true (groups back) with
    | some a, some b => a + b ≤ 7
    | _, _ => false
  | _ => false

def isHostname (s : List Char) : Bool :=
  !s.isEmpty && s.head? != some '-' && s.getLast? != some '-' && s.length ≤ 255 &&
    s.all (fun c => Text.isAlphanumeric c || c == '-' || c == '.') &&
    (Text.splitAt (· == '.') s).all fun part => part.length ≤ 63

/-- The characters of a word in the local part of a mail address. -/
def isAtomChar (c : Char) : Bool :=
  c.isAlphanum || "!#$%&'*+-/=?^_`\x7b|\x7d~".toList.contains c || c.toNat ≥ 128

def isLocalPart (s : List Char) : Bool :=
  !s.isEmpty && s.length ≤ 64 &&
    ((Text.splitAt (· == '.') s).all (fun word => !word.isEmpty && word.all isAtomChar) ||
      (s.length ≥ 2 && s.head? == some '"' && s.getLast? == some '"'))

def isDomainLabel (s : List Char) : Bool :=
  let isEnd (c : Char) := c.isAlphanum || c.toNat ≥ 128
  s.length ≤ 63 && (s.head?.any isEnd) && (s.getLast?.any isEnd) &&
    s.all fun c => isEnd c || c == '-'

def isDomain (s : List Char) : Bool :=
  !s.isEmpty && s.length ≤ 254 &&
    ((Text.splitAt (· == '.') s).all isDomainLabel ||
      (s.head? == some '[' && s.getLast? == some ']'))

def isEmail (s : List Char) : Bool :=
  match s.reverse.dropWhile (· != '@') with
  | _ :: front => isLocalPart front.reverse && isDomain (Text.afterLast '@' s)
  | [] => false

/-! ## References -/

def isUnreserved (c : Char) : Bool := c.isAlphanum || "-._~".toList.contains c

/-- Characters of a reference; percent signs stand before two hexadecimal digits. -/
def isUriText (isInternational : Bool) : List Char → Bool
  | [] => true
  | '%' :: a :: b :: s =>
    (Text.hexDigit? a).isSome && (Text.hexDigit? b).isSome && isUriText isInternational s
  | c :: s =>
    (isUnreserved c || ":/?@!$&'()*+,;=[]".toList.contains c ||
      (isInternational && c.toNat ≥ 0xA0)) && isUriText isInternational s

def isScheme (s : List Char) : Bool :=
  match s with
  | [] => false
  | c :: s => c.isAlpha && s.all fun c => c.isAlphanum || "+-.".toList.contains c

/-- A reference that may be relative. -/
def isReference (isInternational : Bool) (s : List Char) : Bool :=
  let main := s.takeWhile (· != '#')
  let fragment := (s.dropWhile (· != '#')).drop 1
  isUriText isInternational main && isUriText isInternational fragment &&
    match Text.cutAt? ':' main with
    | some (head, _) => head.contains '/' || head.contains '?' || isScheme head
    | none => true

/-- A reference with a scheme. -/
def isUri (isInternational : Bool) (s : List Char) : Bool :=
  isReference isInternational s &&
    match Text.cutAt? ':' s with
    | some (head, _) => isScheme head
    | none => false

/-- Pointer text: every tilde stands before a zero or a one. -/
def isPointerText : List Char → Bool
  | [] => true
  | '~' :: c :: s => (c == '0' || c == '1') && isPointerText s
  | '~' :: [] => false
  | _ :: s => isPointerText s

def isPointer (s : List Char) : Bool := s.isEmpty || (s.head? == some '/' && isPointerText s)

def isRelativePointer (s : List Char) : Bool :=
  let digits := s.takeWhile isDigit
  let rest := s.dropWhile isDigit
  !digits.isEmpty && (digits.length == 1 || digits.head? != some '0') &&
    (rest == ['#'] || isPointer rest)

/-- A template: text with expressions in braces that are not nested. -/
def isTemplate : (isOpen : Bool) → List Char → Bool
  | isOpen, [] => !isOpen
  | isOpen, c :: s =>
    if c == '\x7b' then !isOpen && isTemplate true s
    else if c == '\x7d' then isOpen && isTemplate false s
    else if c == ' ' || c == '"' || c == '<' || c == '>' || c == '\\' || c == '^' then false
    else isTemplate isOpen s

def isPattern (s : String) : Bool := (Pattern.parseScript? s).isSome

/-- Whether a string has a format of a draft; every string has a format that is not known. -/
def holds (draft : Draft) (name text : String) : Bool :=
  let s := text.toList
  match name with
  | "date" => isDate s
  | "date-time" => isDateTime s
  | "time" => isTime s
  | "email" => isEmail s
  | "hostname" => isHostname s
  | "ipv4" => isIpv4 s
  | "ipv6" => isIpv6 s
  | "uri" => isUri false s
  | "regex" => isPattern text
  | "json-pointer" => !draft.since .draft6 || isPointer s
  | "uri-reference" => !draft.since .draft6 || isReference false s
  | "uri-template" => !draft.since .draft6 || isTemplate false s
  | "idn-email" => !draft.since .draft7 || isEmail s
  | "idn-hostname" => !draft.since .draft7 || isHostname s
  | "iri" => !draft.since .draft7 || isUri true s
  | "iri-reference" => !draft.since .draft7 || isReference true s
  | "relative-json-pointer" => !draft.since .draft7 || isRelativePointer s
  | _ => true

end Recast.Validation.Format
