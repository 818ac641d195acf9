/-!
# TableTalk.Text.Base64

Bytes that are written with sixty-four characters of six bits each, four characters for three bytes.
Characters of no other meaning are passed over, and an equals sign stands in for a character that is
lacking at the end.
-/

namespace TableTalk.Text.Base64

/-- The six bits that a character writes. -/
def sextet? (c : Char) : Option Nat :=
  if 'A' ≤ c && c ≤ 'Z' then some (c.toNat - 'A'.toNat)
  else if 'a' ≤ c && c ≤ 'z' then some (c.toNat - 'a'.toNat + 26)
  else if '0' ≤ c && c ≤ '9' then some (c.toNat - '0'.toNat + 52)
  else if c = '+' then some 62
  else if c = '/' then some 63
  else none

/-- How far a group of four characters has come. -/
structure Group where
  -- The number of characters of the group.
  count : Nat := 0
  -- The bits that no byte has been made of.
  bits : Nat := 0
  -- The number of equals signs since the last character.
  pads : Nat := 0

/-- The group after six more bits, and the byte that is complete with them, if one is. -/
def Group.add (g : Group) (sextet : Nat) : Option UInt8 × Group :=
  let bits := 64 * g.bits + sextet
  match g.count with
  | 0 => (none, { count := 1, bits })
  | 1 => (some (.ofNat (bits / 16)), { count := 2, bits := bits % 16 })
  | 2 => (some (.ofNat (bits / 4)), { count := 3, bits := bits % 4 })
  | _ => (some (.ofNat bits), {})

-- The bytes that a text writes from a place in a group on. An equals sign that completes a group
-- ends the text; otherwise the last group must be complete.
def decodeFrom (g : Group) : List Char → Option (List UInt8)
  | [] => if g.count = 0 then some [] else none
  | c :: r =>
    if c = '=' then
      if g.count < 2 then decodeFrom g r
      else if 4 ≤ g.count + g.pads + 1 then some []
      else decodeFrom { g with pads := g.pads + 1 } r
    else
      match sextet? c with
      | none => decodeFrom g r
      | some sextet =>
        match g.add sextet with
        | (none, g') => decodeFrom g' r
        | (some byte, g') => (decodeFrom g' r).map (byte :: ·)

def decode (s : List Char) : Option (List UInt8) :=
  decodeFrom {} s

end TableTalk.Text.Base64
