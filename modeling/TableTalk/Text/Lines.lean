/-!
# TableTalk.Text.Lines

The lines of a file. A carriage return, alone or before a line feed, counts as a line feed; and a
line also ends at each other character that Unicode or ASCII set aside for the end of a line, a page
or a record.
-/

namespace TableTalk.Text

/-- A text in which every end of line is a line feed. -/
def unixLineEnds : List Char → List Char
  | [] => []
  | '\r' :: '\n' :: r => '\n' :: unixLineEnds r
  | '\r' :: r => '\n' :: unixLineEnds r
  | c :: r => c :: unixLineEnds r

def lineEnds : List Char :=
  ['\n', '\x0b', '\x0c', '\r', '\x1c', '\x1d', '\x1e', '\u0085', '\u2028', '\u2029']

/-- The lines of a text whose ends of line are single characters. What follows the last end is a
line of its own unless it is empty. -/
def linesOf : List Char → List (List Char)
  | [] => []
  | c :: r =>
    if lineEnds.contains c then
      [] :: linesOf r
    else
      match linesOf r with
      | [] => [[c]]
      | line :: rest => (c :: line) :: rest

/-- The lines of a file with the given content. -/
def fileLines (content : List Char) : List (List Char) :=
  linesOf (unixLineEnds content)

end TableTalk.Text
