import TableTalk.Text.Case

/-!
# TableTalk.Statement.Grammar

The shape of a statement: a verb, a projection, `FROM` and the name of a table, and nothing or
`WHERE` and a predicate behind it. The check runs along the normal form of the text, in which one
space stands between two words, and looks neither at the projection nor at the predicate. Keywords
may be written in any case, of ASCII letters only.
-/

namespace TableTalk.Statement

/-- The words that a statement can begin with. -/
def verbs : List String := ["SELECT", "UPDATE", "DELETE", "INSERT"]

/-- The rest of a text behind a keyword, whatever the case of its letters. -/
def afterWord? (keyword : String) (s : List Char) : Option (List Char) :=
  Text.afterKeyword? Text.sameAsciiLetter keyword.toList s

/-- Whether a character may stand in the name of a table: an ASCII letter, a digit, or the low
line. -/
def isNameChar (c : Char) : Bool :=
  c.isAlphanum || c = '_'

/-- Whether a text is empty or a condition: `WHERE` and at least one character. -/
def isCondition (s : List Char) : Bool :=
  s.isEmpty || (afterWord? " WHERE " s).any (!·.isEmpty)

/-- Whether a text is `FROM`, the name of a table, and an optional condition. -/
def isSource (s : List Char) : Bool :=
  match afterWord? " FROM " s with
  | none => false
  | some r => !(r.takeWhile isNameChar).isEmpty && isCondition (r.dropWhile isNameChar)

/-- Whether a text is a projection of at least one character, and a source behind it. -/
def isProjected : List Char → Bool
  | [] => false
  | _ :: r => isSource r || isProjected r

/-- Whether a text in normal form has the shape of a statement. -/
def hasShape (s : List Char) : Bool :=
  verbs.any fun verb => (afterWord? (verb ++ " ") s).any isProjected

/-- Whether a text is a statement. -/
def accepts (text : String) : Bool :=
  hasShape (Text.collapse text.toList)

end TableTalk.Statement
