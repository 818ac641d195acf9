import TableTalk.Text.Case.Table
import TableTalk.Text.Blank

/-!
# TableTalk.Text.Case

Lower-casing of text, and the two ways in which a keyword is recognised whatever the case of its
letters: among the ASCII letters only, and with the few other letters that lower to an ASCII letter
or stand for one.
-/

namespace TableTalk.Text

/-- Whether `n` lies in one of the ascending ranges. -/
def inRanges (n : Nat) : List (Nat × Nat) → Bool
  | [] => false
  | (first, last) :: rest => first ≤ n && (n ≤ last || inRanges n rest)

/-! ### Letters -/

/-- How far the lower-case form of code point `n` is away from it. -/
def caseShift (n : Nat) : List CaseRun → Int
  | [] => 0
  | run :: runs =>
    if n < run.first then 0
    else if n ≤ run.last then
      if (n - run.first) % run.stride = 0 then run.shift else 0
    else caseShift n runs

/-- The lower-case form of a character that has one of a single character, else the character. -/
def lowerChar (c : Char) : Char :=
  if c.toNat < 128 then
    c.toLower
  else
    Char.ofNat ((c.toNat : Int) + caseShift c.toNat caseRuns).toNat

/-- Whether the case of a sigma is decided by a look beyond this character. -/
def isPassedOver (c : Char) : Bool :=
  inRanges c.toNat passedOverRanges

/-- Whether a character carries case, so that a sigma beside it stands inside a word. -/
def isCased (c : Char) : Bool :=
  inRanges c.toNat casedRanges

/-- Whether the first character that is not passed over carries case. -/
def meetsCased : List Char → Bool
  | [] => false
  | c :: r => if isPassedOver c then meetsCased r else isCased c

/-- The upper-case form of a character whose upper-case form is an ASCII letter, else the
character. -/
def upperLetter (c : Char) : Char :=
  if c = 'ı' then 'I' else if c = 'ſ' then 'S' else c.toUpper

/-! ### Texts -/

/-- The lower-case form of a character that does not depend on its neighbours. A dotted capital I
keeps its dot as a mark. -/
def lowerAlone (c : Char) : List Char :=
  if c = 'İ' then ['i', '\u0307'] else [lowerChar c]

-- The lower-case form of what follows a text whose last character that is not passed over carries
-- case, if `before` says so. A capital sigma takes its final form at the end of a word: behind a
-- letter, and not before one.
def lowerAfter (before : Bool) : List Char → List Char
  | [] => []
  | c :: r =>
    (if c = 'Σ' then [if before && !meetsCased r then 'ς' else 'σ'] else lowerAlone c) ++
      lowerAfter (if isPassedOver c then before else isCased c) r

/-- The lower-case form of a text. -/
def lower (s : List Char) : List Char :=
  lowerAfter false s

/-! ### Keywords -/

/-- The rest of a text behind a keyword at its front, where `same` says which sign of the text
stands for a sign of the keyword. -/
def afterKeyword? {κ α : Type} (same : κ → α → Bool) : List κ → List α → Option (List α)
  | [], s => some s
  | _ :: _, [] => none
  | k :: ks, c :: s => if same k c then afterKeyword? same ks s else none

/-- Whether two characters are equal but for the case of ASCII letters. -/
def sameAsciiLetter (k c : Char) : Bool :=
  k.toLower = c.toLower

/-- Whether two characters are equal but for case, where the long s stands for an s, the dotless and
the dotted capital I stand for an I, and the kelvin sign stands for a K. -/
def sameLetter (k c : Char) : Bool :=
  sameAsciiLetter k c ||
    match k.toLower with
    | 's' => c == 'ſ'
    | 'i' => c == 'ı' || c == 'İ'
    | 'k' => c == '\u212a'
    | _ => false

/-- Whether `t` occurs in `s` as a run of neighbouring characters. -/
def occursIn (t : List Char) : List Char → Bool
  | [] => t.isEmpty
  | c :: r => (afterKeyword? (· == ·) t (c :: r)).isSome || occursIn t r

end TableTalk.Text

namespace String

def lowered (s : String) : String :=
  .ofList (TableTalk.Text.lower s.toList)

end String
