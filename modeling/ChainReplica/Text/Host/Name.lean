import ChainReplica.Text.Direction
import ChainReplica.Text.Host.Mapping
import ChainReplica.Text.Host.Refused
import ChainReplica.Text.Joining
import ChainReplica.Text.Punycode

/-!
# Names of hosts

A name is a row of labels between points, in letters of all scripts. `settled?`
is the form of a name in which different ways to write it are one. A label may
also be written in ASCII, as a text in Punycode behind `xn--`; then it has to be
the text of a label in its settled form.

A label begins with no mark, and what asks for joined or separate letters in it
has a meaning. If a name holds letters written from right to left, all of its
labels can be read one way only.
-/

namespace ChainReplica

namespace Host

def isAscii (c : Char) : Bool := c.toNat < 128

/-- The signs that have a meaning elsewhere in an address. -/
def reserved : List Char := ['#', '%', '/', ':', '<', '>', '?', '@', '[', '\\', ']', '^', '|']

/-- What no name may hold in its settled form: control characters, the blank, and
reserved signs. -/
def forbiddenInName (c : Char) : Bool := c.toNat ≤ 32 || c.toNat == 127 || reserved.contains c

def settled? (name : List Char) : Option (List Char) :=
  if name.any refused.has then none
  else
    let text := Composition.compose (name.flatMap image)
    if text.any forbiddenInName then none else some text

/-- How long a label in Punycode may be at most, without its beginning. -/
def codeLimit : Nat := 2000

/-- How long a label with characters beyond ASCII may be at most. -/
def labelLimit : Nat := 1000

/-- The text of a label of a settled name, which may be written in Punycode. -/
def labelText? : List Char → Option (List Char)
  | 'x' :: 'n' :: '-' :: '-' :: code =>
    if code.isEmpty || code.getLast? == some '-' || codeLimit < code.length
        || !code.all isAscii then none
    else (Punycode.decode? code).filter fun text => settled? text == some text
  | label => some label

def isLabel (text : List Char) : Bool :=
  !text.head?.any Marks.isMark && Joining.allHaveMeaning [] text
    && (text.all isAscii || text.length ≤ labelLimit)

/-- Whether the texts of labels can be read one way only. -/
def areClear (labels : List (List Char)) : Bool :=
  labels.all Direction.isClear
    || !labels.any fun text => text.any fun c => (Direction.ofChar c).turns

/-- The texts of the labels of a settled name. -/
def labels? (name : List Char) : Option (List (List Char)) :=
  ((name.splitOn '.').mapM labelText?).filter fun labels =>
    labels.all isLabel && areClear labels

end Host

end ChainReplica
