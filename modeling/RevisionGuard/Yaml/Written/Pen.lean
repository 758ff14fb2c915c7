/-!
# Writing a document

A pen puts characters on a page and remembers what decides about the next ones:
the column, whether a blank would be superfluous, and whether only indentation
has been written in the line so far.
-/

namespace RevisionGuard

namespace Yaml

/-- A page being written. -/
structure Pen where
  /-- What has been written, in reverse. -/
  written : List Char
  column : Nat
  /-- Whether the last thing written separates what follows from it. -/
  separated : Bool
  /-- Whether only indentation and indicators that indent are in the line. -/
  indented : Bool

namespace Pen

/-- The pen at the start of a page. -/
def blank : Pen := ⟨[], 0, true, true⟩

def text (pen : Pen) : String := String.ofList pen.written.reverse

def put (pen : Pen) (letter : Char) : Pen :=
  { pen with written := letter :: pen.written, column := pen.column + 1 }

def puts (pen : Pen) (letters : List Char) : Pen := letters.foldl put pen

def endLine (pen : Pen) (letter : Char) : Pen :=
  { pen with written := letter :: pen.written, column := 0 }

/-- Write a blank unless one would be superfluous. -/
def separate (pen : Pen) : Pen := if pen.separated then pen else pen.put ' '

/-- Go to the place where a line indented to a column begins. -/
def indent (pen : Pen) (column : Nat) : Pen :=
  let started :=
    if !pen.indented || column < pen.column || (pen.column = column && !pen.separated) then
      pen.endLine '\n'
    else pen
  let filled := started.puts (List.replicate (column - started.column) ' ')
  { filled with separated := true, indented := true }

/-- Write an indicator that is no part of the indentation.  The flags say
whether it needs a blank in front and whether it separates what follows. -/
def mark (pen : Pen) (letters : List Char) (needsBlank separates : Bool) : Pen :=
  let pen := (if needsBlank then pen.separate else pen).puts letters
  { pen with separated := separates, indented := false }

/-- Write an indicator that is a part of the indentation. -/
def bullet (pen : Pen) (letter : Char) : Pen :=
  { pen.separate.put letter with separated := false }

def word (pen : Pen) (letters : List Char) : Pen :=
  { pen.separate.puts letters with separated := false, indented := false }

end Pen

end Yaml

end RevisionGuard
