/-!
YAML documents as nodes. A scalar is a text; it keeps whether it was written plainly, since only a
plain one can be empty, null or a number.
-/
namespace Plugboard.Yaml

/-- The ways a scalar is written that make a difference. -/
inductive Style
  | plain
  | literal
  | quoted
  deriving Repr, DecidableEq

inductive Node
  | scalar (style : Style) (tag : Option String) (text : String)
  | list (items : List Node)
  | mapping (entries : List (Node × Node))
  /-- What stands elsewhere in the document under a number. -/
  | reference (number : Nat)
  deriving Inhabited

/-- What stands where nothing is written. -/
def Node.nothing : Node := .scalar .plain none ""

def Node.isNothing : Node → Bool
  | .scalar .plain _ text => text.isEmpty
  | _ => false

def nullTag : String := "tag:yaml.org,2002:null"

def isNullWord (s : String) : Bool := ["null", "Null", "NULL", "~"].contains s

/-- Whether a node stands for no value at all; none when its tag does not go with its text. -/
def Node.isNull? : Node → Option Bool
  | .scalar .plain (some tag) text =>
    if tag == nullTag then (if isNullWord text then some true else none) else some false
  | .scalar .plain none text => some (text.isEmpty || isNullWord text)
  | _ => some false

def Node.text? : Node → Option String
  | .scalar _ _ text => some text
  | _ => none

/-- A document: its node, if there is one, and the nodes that references lead to. -/
structure Document where
  root : Option Node
  named : List (Nat × Node)

namespace Document

/-- A node, or the one that it refers to. -/
def follow (d : Document) : Node → Node
  | .reference n => (d.named.lookup n).getD (.list [])
  | node => node

end Document

end Plugboard.Yaml
