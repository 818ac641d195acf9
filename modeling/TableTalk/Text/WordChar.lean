import TableTalk.Text.WordChar.Table
import TableTalk.Text.Case

/-!
# TableTalk.Text.WordChar

Word characters, and the boundaries between them and the rest of a text.
-/

namespace TableTalk.Text

/-- Whether a character is a letter, a digit or other numeric character, or the low line. -/
def isWordChar (c : Char) : Bool :=
  inRanges c.toNat wordRanges

/-- Whether a word begins or ends between `before` and the front of `behind`: exactly one of the two
neighbours is a word character, where the end of the text counts as none. -/
def isBoundary (before : Option Char) (behind : List Char) : Bool :=
  before.any isWordChar != behind.head?.any isWordChar

end TableTalk.Text
