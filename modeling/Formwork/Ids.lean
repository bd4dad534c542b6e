import Formwork.Failure
import Formwork.Calendar.Format
/-!
Fresh names. A name is a mark and a number of twelve digits, counted from one for each mark; the
counters are the only state that requests leave behind, and they keep counting when one fails. What
is named without a mark takes a number all the same, from the mark that was used last.
-/
namespace Formwork

/-- What gets a fresh name. -/
inductive Mark where
  | approval
  | event
  | instruction
  deriving DecidableEq

def Mark.text : Mark → String
  | approval => "APR"
  | event => "EVT"
  | instruction => "INS"

/-- How many names of each mark have been given out. -/
structure Ids where
  approvals : Nat := 0
  events : Nat := 0
  instructions : Nat := 0
  /-- The mark that was used last. -/
  last : Option Mark := none
  deriving DecidableEq

namespace Ids

def count (ids : Ids) : Mark → Nat
  | .approval => ids.approvals
  | .event => ids.events
  | .instruction => ids.instructions

def bump (ids : Ids) : Mark → Ids
  | .approval => { ids with approvals := ids.approvals + 1 }
  | .event => { ids with events := ids.events + 1 }
  | .instruction => { ids with instructions := ids.instructions + 1 }

def name (mark : Mark) (n : Nat) : String := mark.text ++ "-" ++ Calendar.padded 12 n

/-- The next name of a mark. -/
def next (mark : Mark) (ids : Ids) : String × Ids :=
  (name mark (ids.count mark + 1), { ids.bump mark with last := some mark })

/-- Take a number without a mark. -/
def skip (ids : Ids) : Ids :=
  match ids.last with
  | none => ids
  | some mark => ids.bump mark

@[simp] theorem count_bump_self (ids : Ids) (mark : Mark) :
    (ids.bump mark).count mark = ids.count mark + 1 := by
  cases mark <;> rfl

end Ids

/-- Work that names what it makes and may fail. -/
abbrev Work := ExceptT Failure (StateM Ids)

namespace Work

def fresh (mark : Mark) : Work String := fun ids =>
  let (name, ids) := ids.next mark
  (.ok name, ids)

/-- Begin a pass over submissions, which is named without a mark. -/
def beginPass : Work Unit := fun ids => (.ok (), ids.skip)

def refuse {α : Type} (kind : Refusal.Kind) (message : String) (details : Entries Value) : Work α :=
  throw (.refuse kind message details)

/-- Work that names nothing. -/
def lift {α : Type} (result : Except Failure α) : Work α := fun ids => (result, ids)

end Work
end Formwork
