import TableTalk.Text.Case

/-!
# TableTalk.Statement.Description

What a statement does, told from its first words. The description is chosen for any text: one that
begins like no statement gets the last kind. Keywords may be written in any case.
-/

namespace TableTalk.Statement

/-- What a statement does. -/
inductive Kind where
  | allColumns
  | someColumns
  | insertion
  | update
  | deletion
  | other
  deriving DecidableEq, Repr

def Kind.sentence : Kind → String
  | allColumns => "This query selects all columns from the specified table."
  | someColumns => "This query selects specific columns from the specified table."
  | insertion => "This query inserts new records into the specified table."
  | update => "This query updates existing records in the specified table."
  | deletion => "This query deletes records from the specified table."
  | other => "This query retrieves data from the database."

/-- The rest of a text behind an opening, whatever the case of its letters. -/
def afterOpening? (opening : String) (s : List Char) : Option (List Char) :=
  Text.afterKeyword? Text.sameLetter opening.toList s

/-- Whether a text begins with an opening. -/
def opensWith (opening : String) (s : List Char) : Bool :=
  (afterOpening? opening s).isSome

/-- Whether a source begins somewhere in a text, behind at least one character. -/
def reachesSource : List Char → Bool
  | [] => false
  | _ :: r => opensWith " FROM" r || reachesSource r

/-- The kind of a text in normal form. -/
def kindOf (s : List Char) : Kind :=
  if opensWith "SELECT * FROM" s then .allColumns
  else if (afterOpening? "SELECT " s).any reachesSource then .someColumns
  else if opensWith "INSERT" s then .insertion
  else if opensWith "UPDATE" s then .update
  else if opensWith "DELETE" s then .deletion
  else .other

def Kind.ofText (text : String) : Kind :=
  kindOf (Text.collapse text.toList)

end TableTalk.Statement
