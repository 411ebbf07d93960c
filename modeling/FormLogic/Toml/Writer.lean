/-!
# FormLogic.Toml.Writer

How TOML texts are written: between double quotes if that needs no escapes, else between single
quotes if they can hold the text, else on several lines, and with escapes where nothing else helps.
-/

namespace FormLogic
namespace Toml

/-- The longest run of a character. -/
def longestRun (c : Char) (text : List Char) : Nat :=
  (text.foldl (fun (best, run) d => if d = c then (max best (run + 1), run + 1) else (best, 0))
    (0, 0)).1

/-- Control characters that only an escape can stand for. -/
def needsEscape (c : Char) : Bool :=
  (c.toNat < 32 && c != '\t' && c != '\n') || c.toNat == 127

def hexDigits4 (n : Nat) : List Char :=
  let digits := (Nat.toDigits 16 n).map Char.toUpper
  List.replicate (4 - digits.length) '0' ++ digits

/-- A character between double quotes; `isLong` for texts of several lines. -/
def escapeBasic (isLong : Bool) (c : Char) : List Char :=
  if c = '\x08' then ['\\', 'b']
  else if c = '\t' then ['\\', 't']
  else if c = '\n' then if isLong then ['\n'] else ['\\', 'n']
  else if c = '\x0c' then ['\\', 'f']
  else if c = '\r' then ['\\', 'r']
  else if c = '"' then if isLong then ['"'] else ['\\', '"']
  else if c = '\\' then ['\\', '\\']
  else if c.toNat < 32 || c.toNat = 127 then '\\' :: 'u' :: hexDigits4 c.toNat
  else [c]

/-- In a text of several lines at most two double quotes stand together without escape. -/
def escapeLong : Nat → List Char → List Char
  | _, [] => []
  | run, c :: rest =>
    if c = '"' then
      if run = 2 then '\\' :: '"' :: escapeLong 0 rest else '"' :: escapeLong (run + 1) rest
    else escapeBasic true c ++ escapeLong 0 rest

def tripled (quote : Char) (hasBreak : Bool) (body : List Char) : List Char :=
  let quotes := List.replicate 3 quote
  quotes ++ (if hasBreak then ['\n'] else []) ++ body ++ quotes

def writeText (s : String) : List Char :=
  let text := s.toList
  let hasBreak := text.contains '\n'
  let hasControl := text.any needsEscape
  let hasBackslash := text.contains '\\'
  let doubles := longestRun '"' text
  let singles := longestRun '\'' text
  let basic := '"' :: text.flatMap (escapeBasic false) ++ ['"']
  if !hasControl && !hasBackslash && doubles = 0 && !hasBreak then basic
  else if !hasControl && singles = 0 && !hasBreak then '\'' :: text ++ ['\'']
  else if !hasControl && !hasBackslash && doubles ≤ 2 then tripled '"' hasBreak (escapeLong 0 text)
  else if !hasControl && singles ≤ 2 then tripled '\'' hasBreak text
  else if hasBreak then tripled '"' hasBreak (escapeLong 0 text)
  else basic

end Toml
end FormLogic
