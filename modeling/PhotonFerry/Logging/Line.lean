import PhotonFerry.Journal
import PhotonFerry.Text.Quoted
/-!
# Records as lines

A record is shown at a terminal on a line of its own. Characters that could command
the terminal are shown by their numbers. A text of several lines is not held
together: only its first line belongs to the record, and the others stand for
themselves.
-/

namespace PhotonFerry

/-- The control characters by which commands to a terminal begin, and those that ring,
step back, feed a page or delete, with what is shown of them. -/
def shownControls : List (Char × String) :=
  [('\x1b', "\\x1b"), ('\x07', "\\x07"), ('\x08', "\\x08"), ('\x0c', "\\x0c"), ('\x7f', "\\x7f")]

/-- A character of a record as a terminal gets it. -/
def shownChar (value : Char) : String :=
  match shownControls.lookup value with
  | some shown => shown
  | none =>
    if 0x80 ≤ value.toNat && value.toNat ≤ 0x9f then
      "\\u\x7b" ++ Text.hexDigits value.toNat ++ "\x7d"
    else value.toString

/-- The lines of a text; the end of a last line makes no further one. -/
def linesOf (text : String) : List String :=
  let lines := (text.toList.splitOn '\n').map String.ofList
  if lines.getLast? = some "" then lines.dropLast else lines

namespace LogRecord

/-- The lines of a record as a terminal gets them. -/
def shownLines (entry : LogRecord) : List String :=
  ((String.join (entry.text.toList.map shownChar)).toList.splitOn '\n').map String.ofList

/-- A record with what is shown of its first line. -/
def firstLine (entry : LogRecord) : LogRecord :=
  { entry with text := entry.shownLines.headD "" }

/-- The lines of a record behind its first one. -/
def furtherLines (entry : LogRecord) : List String :=
  entry.shownLines.tail

end LogRecord

end PhotonFerry
