import Formwork.Text.Case
import Formwork.Text.Normal
import Formwork.Text.Ranges
/-!
The form in which internationalised names of hosts are compared: without case, with compatible
characters made equal, and without characters that are not seen. The sharp s and the final sigma
are told apart from the letters that they fold to.
-/
namespace Formwork.Mail

open Text

/-- Characters that are not seen and are dropped. -/
def unseen : Ranges := Ranges.ofString
  "AD 34F 61C 115F-1160 17B4-17B5 180B-180F 200B-200F 202A-202E 2060-206F 3164 FE00-FE0F FEFF FFA0
  FFF0-FFF8 1BCA0-1BCA3 1D173-1D17A E0000-E0FFF"

/-- Characters that fold to more than one part of a name, or to none at all. -/
def unfoldable : Ranges := Ranges.ofString
  "2024-2026 2488-249B 33C2 33C7 33D8 FE19 FE30 FE52 1F100"

/-- Fold a character without regard to hosts. -/
def foldCompatible (c : Char) : List Char :=
  (composedCompatible (fold (composedCompatible [c]))).filter fun d => !unseen.contains d

/-- The characters that stand for one in a name, if any do. -/
def foldChar? (c : Char) : Option (List Char) :=
  let n := c.toNat
  if n < 128 then some [c.toLower]
  else if n = 0x3002 ∨ n = 0xFF61 then some ['.']
  else if n = 0x1E9E then some [charAt 0xDF]
  else if n = 0xDF ∨ n = 0x3C2 then some [c]
  else if unfoldable.contains c then none
  else some (foldCompatible c)

/-- A name in the form in which it is compared. -/
def foldName? (cs : List Char) : Option (List Char) := do
  pure (composed (← cs.mapM foldChar?).flatten)

end Formwork.Mail
