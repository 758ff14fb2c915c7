import RevisionGuard.Log
import RevisionGuard.Text.Quoted

/-!
# Log lines

An entry is written as a line of text, or as an object in JSON.  What could
drive a terminal is escaped in a line of text; line breaks are not.
-/

namespace RevisionGuard

namespace LogEntry

def textLetter (letter : Char) : List Char :=
  let code := letter.toNat
  if code = 0x07 ∨ code = 0x08 ∨ code = 0x0c ∨ code = 0x1b ∨ code = 0x7f then
    ['\\', 'x', Quoted.hexDigit (code / 16), Quoted.hexDigit (code % 16)]
  else if 0x80 ≤ code ∧ code ≤ 0x9f then
    ['\\', 'u', Char.ofNat 0x7b] ++ Quoted.hexText code ++ [Char.ofNat 0x7d]
  else [letter]

def jsonLetter (letter : Char) : List Char :=
  let code := letter.toNat
  if letter = '"' then ['\\', '"']
  else if letter = '\\' then ['\\', '\\']
  else if code = 0x08 then ['\\', 'b']
  else if code = 0x09 then ['\\', 't']
  else if code = 0x0a then ['\\', 'n']
  else if code = 0x0c then ['\\', 'f']
  else if code = 0x0d then ['\\', 'r']
  else if code < 0x20 then
    ['\\', 'u', '0', '0', Quoted.hexDigit (code / 16), Quoted.hexDigit (code % 16)]
  else [letter]

def jsonText (text : String) : String :=
  String.ofList ('"' :: text.toList.flatMap jsonLetter ++ ['"'])

def textLine (time : String) (entry : LogEntry) : String :=
  let level := entry.level.name
  time ++ " " ++ String.ofList (List.replicate (5 - level.length) ' ') ++ level ++ " " ++
    entry.source.name ++ ": " ++ String.ofList (entry.text.toList.flatMap textLetter) ++ "\n"

def jsonObject (fields : List (String × String)) : String :=
  let written := fields.map fun (name, value) => jsonText name ++ ":" ++ value
  "\x7b" ++ String.intercalate "," written ++ "\x7d"

def jsonLine (time : String) (entry : LogEntry) : String :=
  jsonObject [
    ("timestamp", jsonText time), ("level", jsonText entry.level.name),
    ("fields", jsonObject [("message", jsonText entry.text)]),
    ("target", jsonText entry.source.name)] ++ "\n"

def line (format : LogFormat) (time : String) (entry : LogEntry) : String :=
  match format with
  | .text => entry.textLine time
  | .json => entry.jsonLine time

end LogEntry

end RevisionGuard
