/-!
# TableTalk.Text.Blank

Blank characters, and the three readings of a text that depend on them: its words, the text without
the blanks at its ends, and its normal form, in which one space stands between two words.

Texts are lists of characters here, so that every reading is a recursion on the list.
-/

namespace TableTalk.Text

/-- The blank characters: the white space of Unicode and the four information separators. -/
def blanks : List Char :=
  ['\t', '\n', '\x0b', '\x0c', '\r', '\x1c', '\x1d', '\x1e', '\x1f', ' ', '\u0085', '\u00a0',
   '\u1680', '\u2000', '\u2001', '\u2002', '\u2003', '\u2004', '\u2005', '\u2006', '\u2007',
   '\u2008', '\u2009', '\u200a', '\u2028', '\u2029', '\u202f', '\u205f', '\u3000']

def isBlank (c : Char) : Bool :=
  blanks.contains c

/-- The pieces of a text between its blanks, empty pieces included: one more than it has blanks. -/
def pieces : List Char → List (List Char)
  | [] => [[]]
  | c :: r =>
    if isBlank c then
      [] :: pieces r
    else
      match pieces r with
      | [] => [[c]]
      | p :: ps => (c :: p) :: ps

/-- The words of a text: its longest runs of characters that are not blank, in order. -/
def words (s : List Char) : List (List Char) :=
  (pieces s).filter (!·.isEmpty)

/-- A text without the blanks at its end. -/
def trimEnd (s : List Char) : List Char :=
  (s.reverse.dropWhile isBlank).reverse

/-- A text without the blanks at its two ends. -/
def trim (s : List Char) : List Char :=
  trimEnd (s.dropWhile isBlank)

/-- The texts in order, with `sep` between each two neighbours. -/
def join (sep : List Char) : List (List Char) → List Char
  | [] => []
  | [t] => t
  | t :: u :: ts => t ++ sep ++ join sep (u :: ts)

/-- The normal form of a text: its words, one space between two. -/
def collapse (s : List Char) : List Char :=
  join [' '] (words s)

end TableTalk.Text
