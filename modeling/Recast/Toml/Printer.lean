import Recast.Text.Basic

/-!
# Writing TOML strings

A string is written in the first of several ways that needs no escape: in double quotes, in single
quotes, or on lines of their own. Without one, it is escaped.
-/

namespace Recast.Toml

/-- The length of the longest run of a character. -/
def longestRun (c : Char) (s : List Char) : Nat :=
  let step : Nat × Nat → Char → Nat × Nat := fun (best, run) d =>
    if d == c then (max best (run + 1), run + 1) else (best, 0)
  (s.foldl step (0, 0)).1

/-- Control characters that cannot be written as they are. -/
def needsCode (c : Char) : Bool :=
  (c.toNat < 0x20 && c != '\t' && c != '\n') || c.toNat == 0x7F

def upperHexChar (i : Nat) : Char := Char.ofNat (if i < 10 then 48 + i else 55 + i)

/-- A character in double quotes; line breaks stand as they are between triple quotes. -/
def escape (onLines : Bool) (c : Char) : List Char :=
  if c == '\x08' then ['\\', 'b']
  else if c == '\t' then ['\\', 't']
  else if c == '\n' then if onLines then ['\n'] else ['\\', 'n']
  else if c == '\x0c' then ['\\', 'f']
  else if c == '\r' then ['\\', 'r']
  else if c == '\\' then ['\\', '\\']
  else if needsCode c then
    ['\\', 'u', '0', '0', upperHexChar (c.toNat / 16), upperHexChar (c.toNat % 16)]
  else [c]

/-- Text in double quotes. Of quotes in a row, every one that exceeds `allowed` is escaped. -/
def escaped (onLines : Bool) (allowed : Nat) : (run : Nat) → List Char → List Char
  | _, [] => []
  | run, c :: s =>
    if c == '"' then
      if run < allowed then c :: escaped onLines allowed (run + 1) s
      else '\\' :: '"' :: escaped onLines allowed 0 s
    else escape onLines c ++ escaped onLines allowed 0 s

/-- A string between quotes. -/
def quoted (s : String) : String :=
  let cs := s.toList
  let doubles := longestRun '"' cs
  let singles := longestRun '\'' cs
  let coded := cs.any needsCode
  let plain := !coded && !cs.contains '\\'
  let hasBreak := cs.contains '\n'
  let onLines (quotes : String) (text : List Char) : String :=
    quotes ++ (if hasBreak then "\n" else "") ++ String.ofList text ++ quotes
  if plain && doubles == 0 && !hasBreak then "\"" ++ String.ofList (escaped false 0 0 cs) ++ "\""
  else if !coded && singles == 0 && !hasBreak then "'" ++ s ++ "'"
  else if plain && doubles ≤ 2 then onLines "\"\"\"" (escaped true 2 0 cs)
  else if !coded && singles ≤ 2 then onLines "'''" cs
  else if hasBreak then onLines "\"\"\"" (escaped true 2 0 cs)
  else "\"" ++ String.ofList (escaped false 0 0 cs) ++ "\""

end Recast.Toml
