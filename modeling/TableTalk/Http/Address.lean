import TableTalk.Json.Reader

/-!
# TableTalk.Http.Address

The path that an address asks for. A host before the path and a query or a fragment behind it do not
count, a step to the same level or one level up is taken, and characters may be written by a percent
sign and their number. What is read once may be written so again, so that it is read twice.
-/

namespace TableTalk.Http.Address

/-- An address without its query and its fragment. -/
def withoutQuery (address : List Char) : List Char :=
  address.takeWhile fun c => c ≠ '?' && c ≠ '#'

/-- An address without the host that two slashes announce. -/
def withoutHost : List Char → List Char
  | '/' :: '/' :: rest => rest.dropWhile (· ≠ '/')
  | s => s

/-- The levels after one more, where a point stays at the level and two points leave it; the
outermost level is never left. Levels are given from the innermost on. -/
def walk (levels : List (List Char)) (level : List Char) : List (List Char) :=
  if level = ['.'] then levels
  else if level = ['.', '.'] then if levels = [[]] then levels else levels.tail
  else level :: levels

/-- A path without steps to the same level or one level up. -/
def walked (path : List Char) : List Char :=
  Text.join ['/'] ((path.splitOn '/').foldl walk []).reverse

/-- A path with the characters of ASCII in place of their numbers. -/
def readEscapes : List Char → List Char
  | [] => []
  | '%' :: a :: b :: rest =>
    match Json.hexValue? a, Json.hexValue? b with
    | some high, some low =>
      if high < 8 then Char.ofNat (16 * high + low) :: readEscapes rest
      else '%' :: readEscapes (a :: b :: rest)
    | _, _ => '%' :: readEscapes (a :: b :: rest)
  | c :: rest => c :: readEscapes rest

/-- The path of an address, from a slash on. -/
def path (address : List Char) : List Char :=
  let relative := (withoutHost (withoutQuery address)).dropWhile (· = '/')
  readEscapes (readEscapes (walked ('/' :: relative)))

/-- A path without the slashes at its end. -/
def withoutEnd (path : List Char) : List Char :=
  (path.reverse.dropWhile (· = '/')).reverse

end TableTalk.Http.Address
