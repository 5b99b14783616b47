import Interdomain.Yaml.Printer

/-!
# TOML strings

A string is written between double or single quotes, on one line or between triple quotes. The
style is the first of five that needs no escape, or else double quotes with escapes.
-/

namespace Interdomain.Toml

/-! ## Traits of a string -/

/-- A control character that only an escape can write. -/
def isControl (c : Char) : Bool :=
  (c.toNat < 0x20 && c != '\t' && c != '\n') || c.toNat == 0x7F

/-- The length of the longest run of a character, from a run that has some length so far. -/
def longestRun (q : Char) (run : Nat) : List Char → Nat
  | [] => run
  | c :: rest => if c = q then longestRun q (run + 1) rest else max run (longestRun q 0 rest)

/-! ## Styles -/

inductive Style where
  | basic
  | literal
  | multilineBasic
  | multilineLiteral
  deriving DecidableEq

def styleOf (cs : List Char) : Style :=
  let control := cs.any isControl
  let newline := cs.contains '\n'
  let backslash := cs.contains '\\'
  let single := longestRun '\'' 0 cs
  let double := longestRun '"' 0 cs
  if !control && !backslash && double == 0 && !newline then .basic
  else if !control && single == 0 && !newline then .literal
  else if !control && !backslash && double ≤ 2 then .multilineBasic
  else if !control && single ≤ 2 then .multilineLiteral
  else if newline then .multilineBasic else .basic

/-! ## Text -/

/-- The characters of a string with their escapes. At most `quotes` double quotes in a row go
without an escape; `run` of them have come. -/
def escapeAll (multiline : Bool) (quotes run : Nat) : List Char → List Char
  | [] => []
  | c :: rest =>
    if c = '"' then
      if run < quotes then c :: escapeAll multiline quotes (run + 1) rest
      else '\\' :: '"' :: escapeAll multiline quotes 0 rest
    else
      let written := match c with
        | '\x08' => ['\\', 'b']
        | '\t' => ['\\', 't']
        | '\n' => if multiline then ['\n'] else ['\\', 'n']
        | '\x0c' => ['\\', 'f']
        | '\r' => ['\\', 'r']
        | '\\' => ['\\', '\\']
        | c =>
          if c.toNat < 0x20 || c.toNat == 0x7F then '\\' :: 'u' :: Yaml.hexDigits 4 c.toNat
          else [c]
      written ++ escapeAll multiline quotes 0 rest

/-- A string in its style. A newline right after triple quotes is not part of the string, so one is
written there if the string has any. -/
def quote (s : String) : String :=
  let cs := s.toList
  let start := if cs.contains '\n' then "\n" else ""
  match styleOf cs with
  | .basic => "\"" ++ String.ofList (escapeAll false 0 0 cs) ++ "\""
  | .literal => "'" ++ s ++ "'"
  | .multilineBasic =>
    "\"\"\"" ++ start ++ String.ofList (escapeAll true 2 0 cs) ++ "\"\"\""
  | .multilineLiteral => "'''" ++ start ++ s ++ "'''"

/-- A line that sets a key to a string. -/
def assign (key value : String) : String := key ++ " = " ++ quote value ++ "\n"

end Interdomain.Toml
