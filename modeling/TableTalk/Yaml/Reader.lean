import TableTalk.Text.Lines
import TableTalk.Yaml.Document
import TableTalk.Yaml.Making

/-!
# TableTalk.Yaml.Reader

YAML text to values: the parts of a text, the nodes that they are parts of, and the values of those.
-/

namespace TableTalk.Yaml

/-- Whether a character may stand in a text. -/
def isPrintable (c : Char) : Bool :=
  let n := c.toNat
  c = '\t' || c = '\n' || 0x20 ≤ n && n ≤ 0x7e || n = 0x85 || 0xa0 ≤ n && n ≤ 0xfffd || 0x10000 ≤ n

/-- The value that a text writes, with room for so many nodes within each other; a text without a
document writes null. -/
def read (room : Nat) (content : String) : Except Error Value := do
  let s := Text.unixLineEnds content.toList
  if !s.all isPrintable then throw .malformedYaml
  match ← Document.ofTokens room (Layout.tokensOf s) with
  | none => return .null
  | some d => return (← Making.ofDocument d).value d.root

end TableTalk.Yaml
