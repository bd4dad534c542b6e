import Formwork.Calendar.FreeForm
/-!
What the machine lends to a computation and neither a document nor a context says: its clock, the
names of characters, and the room for things inside one another. The room is that of patterns and of
JSON texts; values and conditions inside one another are gone through without a limit.
-/
namespace Formwork

structure Host where
  clock : Calendar.Clock := ⟨⟨2025, 1, 15⟩, 2025⟩
  /-- The character that has a name. -/
  charNamed? : String → Option Char := fun _ => none
  /-- The calls inside one another that the reader of a pattern may make. -/
  patternRoom : Nat := 980
  /-- The lists and objects inside one another that the reader of a JSON text may enter. -/
  jsonRoom : Nat := 990

end Formwork
