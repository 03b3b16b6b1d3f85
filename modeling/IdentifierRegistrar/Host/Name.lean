import IdentifierRegistrar.Host.Composition
import IdentifierRegistrar.Host.Direction
import IdentifierRegistrar.Host.Joining
import IdentifierRegistrar.Host.Mapping
import IdentifierRegistrar.Host.Punycode

/-!
Names of hosts: labels with points between them. A name is brought to its plain form, labels that
are spelled in ASCII are read, and each label is checked: it does not begin with a mark, its
joiners have their places, and it keeps to one direction if there are two in the name.
-/

namespace IdentifierRegistrar.Host

/-- The text in small letters, its parts put together; none if a character has no place in it. -/
def plain? (cs : List Char) : Option (List Char) :=
  (cs.mapM image?).map fun images => composed images.flatten

def isForbidden (c : Char) : Bool :=
  c.toNat ≤ 0x20 || c.toNat == 0x7F || c ∈ "\"#%/:<>?@[\\]^\x60\x7b|\x7d".toList

def spelledLead : List Char := "xn--".toList

def longestLabel : Nat := 1000

def longestSpelling : Nat := 2000

def isAscii (c : Char) : Bool := c.toNat < 0x80

/-- The label that a spelling stands for; it must be in its plain form. -/
def readSpelled? (spelling : List Char) : Option (List Char) :=
  if spelling.getLast? = some '-' ∨ longestSpelling < spelling.length
      ∨ !spelling.all isAscii then none
  else (Punycode.decode? spelling).filter fun label => plain? label == some label

def isLabel (label : List Char) : Bool :=
  !label.any isForbidden && !label.head?.any Text.isMark && joinersFit isVowelKiller [] label
    && (label.all isAscii || label.length ≤ longestLabel)

def readLabel? (label : List Char) : Option (List Char) :=
  let read :=
    match Text.dropLead spelledLead label with
    | some spelling => if spelling = [] then none else readSpelled? spelling
    | none => some label
  read.filter isLabel

def readName? (cs : List Char) : Option (List Char) := do
  let labels ← (Text.split '.' (← plain? cs)).mapM readLabel?
  if directed labels then return Text.join '.' labels else none

end IdentifierRegistrar.Host
