import TableTalk.Text.Case

/-!
# TableTalk.Question.Region

The regions that a question names: the words behind an `in`, separated by commas, `and` and `or`.

The list begins at the first place where `in`, at least one blank, and at least one character of a
list follow each other. The blanks are taken greedily and given back one by one, because a blank is
itself a character of a list: after two blanks before anything else the list consists of the last
blank alone.
-/

namespace TableTalk.Question

/-- Whether a character may stand in a list of regions: an ASCII lower-case letter, a blank, or a
comma. -/
def isListChar (c : Char) : Bool :=
  ('a' ≤ c && c ≤ 'z') || Text.isBlank c || c = ','

/-- The longest run of characters of a list at the front, unless it is empty. -/
def listRun? (s : List Char) : Option (List Char) :=
  let run := s.takeWhile isListChar
  if run.isEmpty then none else some run

/-- The list that begins behind at most `most` and at least one blank, the more blanks the
better. -/
def listBehind? (s : List Char) : Nat → Option (List Char)
  | 0 => none
  | most + 1 => (listRun? (s.drop (most + 1))).or (listBehind? s most)

/-- The list that an `in` at the front introduces. -/
def listAt? (s : List Char) : Option (List Char) :=
  match Text.afterKeyword? (· == ·) "in".toList s with
  | none => none
  | some r => listBehind? r (r.takeWhile Text.isBlank).length

def firstList? : List Char → Option (List Char)
  | [] => none
  | c :: r => (listAt? (c :: r)).or (firstList? r)

/-- The rest of a text behind a word that stands between blanks at its front. -/
def afterJoiner? (word : String) (s : List Char) : Option (List Char) :=
  if (s.takeWhile Text.isBlank).isEmpty then none
  else
    match Text.afterKeyword? (· == ·) word.toList (s.dropWhile Text.isBlank) with
    | none => none
    | some r => if (r.takeWhile Text.isBlank).isEmpty then none else some (r.dropWhile Text.isBlank)

/-- The rest of a text behind a comma at its front, with the blanks around it. -/
def afterComma? (s : List Char) : Option (List Char) :=
  match s.dropWhile Text.isBlank with
  | ',' :: r => some (r.dropWhile Text.isBlank)
  | _ => none

/-- The rest of a text behind a separator at its front: `and` or `or` between blanks, or a comma
with the blanks around it. -/
def afterSeparator? (s : List Char) : Option (List Char) :=
  ((afterJoiner? "and" s).or (afterJoiner? "or" s)).or (afterComma? s)

/-- The parts of a list between its separators, each separator at the first place where one
begins. The fuel bounds the number of characters. -/
def parts : Nat → List Char → List (List Char)
  | 0, s => [s]
  | _, [] => [[]]
  | fuel + 1, c :: r =>
    match afterSeparator? (c :: r) with
    | some rest => [] :: parts fuel rest
    | none =>
      match parts fuel r with
      | [] => [[c]]
      | part :: rest => (c :: part) :: rest

/-- The names in a list: its parts without the blanks around them, empty ones left out. -/
def names (s : List Char) : List (List Char) :=
  ((parts s.length s).map Text.trim).filter (!·.isEmpty)

/-- The regions that a question in lower case names. -/
def regionsOf? (q : List Char) : Option (List (List Char)) :=
  match firstList? q with
  | none => none
  | some s => if (names s).isEmpty then none else some (names s)

def regions? (question : String) : Option (List String) :=
  (regionsOf? (Text.lower question.toList)).map (·.map .ofList)

end TableTalk.Question
