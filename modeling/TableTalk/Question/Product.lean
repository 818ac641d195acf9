import TableTalk.Text.WordChar

/-!
# TableTalk.Question.Product

The product that a question names: the first place where a name of the vocabulary begins as a word,
and ends as one, with or without an `s` behind it. Of several names at one place, the first of the
vocabulary counts. An empty vocabulary counts as one empty name.
-/

namespace TableTalk.Question

/-- Whether a name stands at the front of `s`, behind the character `before`, and a word ends behind
the name, or behind the name and an `s`. -/
def standsAt (before : Option Char) (s name : List Char) : Bool :=
  match Text.afterKeyword? (· == ·) name s with
  | none => false
  | some r =>
    (match r with
      | 's' :: r' => Text.isBoundary (some 's') r'
      | _ => false) ||
    Text.isBoundary (name.getLast?.or before) r

/-- The first name that stands at the front of `s`, if a word begins or ends there. -/
def nameAt? (names : List (List Char)) (before : Option Char) (s : List Char) :
    Option (List Char) :=
  if Text.isBoundary before s then names.find? (standsAt before s) else none

/-- The name that stands first in a text behind the character `before`. -/
def firstName? (names : List (List Char)) (before : Option Char) : List Char → Option (List Char)
  | [] => nameAt? names before []
  | c :: r => (nameAt? names before (c :: r)).or (firstName? names (some c) r)

/-- The product that a question in lower case names, by the names of a vocabulary. -/
def productOf? (names : List (List Char)) (q : List Char) : Option (List Char) :=
  firstName? (if names.isEmpty then [[]] else names) none q

def product? (names : List String) (question : String) : Option String :=
  (productOf? (names.map String.toList) (Text.lower question.toList)).map .ofList

end TableTalk.Question
