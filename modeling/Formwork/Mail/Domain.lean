import Formwork.Mail.Label
import Formwork.Mail.Punycode
import Formwork.Text.Printable
import Formwork.Text.Split
/-!
Names of hosts in mail addresses. A name is folded, split into labels at its points, and written in
ASCII, where labels beyond ASCII are marked with a prefix; what the ASCII form stands for must again
be a name. Names that are reserved or that cannot be reached from everywhere are refused.
-/
namespace Formwork.Mail

open Text

/-- Whether a text may stand by itself in other text: no blanks or unseen characters in it, and no
mark in front. -/
def isSafe (cs : List Char) : Bool :=
  cs.all (fun c => isPrintable c && c ≠ ' ') && !cs.head?.any isMark

def isHostChar (c : Char) : Bool := c.isAlphanum || c = '-' || c = '.' || 128 ≤ c.toNat

def isAscii (cs : List Char) : Bool := cs.all (·.toNat < 128)

/-- The beginning of labels that stand for others. -/
def codedMark : List Char := ['x', 'n', '-', '-']

/-- The label for which an ASCII one stands. -/
def shownLabel? (label : List Char) : Option (List Char) :=
  if codedMark.isPrefixOf label then
    let code := label.drop codedMark.length
    if code.isEmpty || code.getLast? = some '-' then none
    else (ofPunycode? code).filter isLabel
  else if isLabel label then some label
  else none

/-- The ASCII form of a label. -/
def wireLabel? (label : List Char) : Option (List Char) :=
  let wire := if isAscii label then (shownLabel? label).map fun _ => label
    else if isLabel label then some (codedMark ++ punycode label)
    else none
  wire.filter fun label => label.length ≤ 63

/-- Whether no label is empty and no hyphen stands at the end of one. -/
def hasSoundLabels (labels : List (List Char)) : Bool :=
  labels.all fun label => !label.isEmpty && label.head? ≠ some '-' && label.getLast? ≠ some '-'

/-- Whether the third and fourth character are hyphens although the label stands for no other. -/
def isMarkedOtherwise (label : List Char) : Bool :=
  (label.drop 2).take 2 = ['-', '-'] && label.take 2 ≠ ['x', 'n']

/-- Names that are reserved with all that is below them. -/
def reservedNames : List String := ["arpa", "invalid", "local", "localhost", "onion", "test"]

/-- Whether the last label of a name is reserved. -/
def isReserved (labels : List (List Char)) : Bool :=
  labels.getLast?.any fun label => reservedNames.any fun name => name.toList == label

/-- Labels with points between them. -/
def joinLabels (labels : List (List Char)) : List Char := List.intercalate ['.'] labels

/-- A name of a host in both of its forms. -/
structure Domain where
  wire : List Char
  shown : List Char

/-- Whether labels name a host that can be reached from everywhere. -/
def isReachable (labels : List (List Char)) : Bool :=
  (joinLabels labels).length ≤ 253 && labels.all (fun label => label.length ≤ 63) &&
    2 ≤ labels.length && (joinLabels labels).getLast?.any (·.isAlpha) && !isReserved labels

/-- Read the name of a host. -/
def Domain.read? (cs : List Char) : Option Domain := do
  if !cs.all isHostChar || !isSafe cs then none
  let folded ← foldName? cs
  let labels := splitChars '.' folded
  if !folded.all isHostChar || !hasSoundLabels labels || labels.any isMarkedOtherwise then none
  let wire ← if isAscii folded then some labels else labels.mapM wireLabel?
  if !isReachable wire then none
  let shown ← wire.mapM shownLabel?
  let name := joinLabels shown
  if !name.all isHostChar || !isSafe name then none
  let _ ← shown.mapM wireLabel?
  pure ⟨joinLabels wire, name⟩

end Formwork.Mail
