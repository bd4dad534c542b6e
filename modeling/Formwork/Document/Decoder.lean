import Formwork.Ids
/-!
Decoders: from the value of a document to what it describes. A decoder reports every fault, in the
order of the fields it reads and then of the fields it does not know; rules that tie fields together
are checked only where all fields are well formed. What the document leaves unnamed gets a fresh
name as it is read.
-/
namespace Formwork.Document

/-- The outcome of reading a part of a document: what it describes, everything that is wrong with
it, or a failure that ends the reading. -/
inductive Checked (α : Type) where
  | ok (a : α)
  | faulty (faults : List Fault)
  | failed (failure : Failure)

namespace Checked
variable {α β : Type}

def fault (cause : Cause) : Checked α := faulty [⟨[], cause⟩]

/-- A rule of the document is broken. -/
def broken (rule : String) : Checked α := fault (.broken rule)

def map (f : α → β) : Checked α → Checked β
  | ok a => ok (f a)
  | faulty faults => faulty faults
  | failed failure => failed failure

/-- Both outcomes together, with the faults of both. -/
def seq : Checked (α → β) → Checked α → Checked β
  | failed failure, _ => failed failure
  | _, failed failure => failed failure
  | ok f, ok a => ok (f a)
  | faulty faults, ok _ => faulty faults
  | ok _, faulty faults => faulty faults
  | faulty first, faulty second => faulty (first ++ second)

/-- Go on only where nothing is wrong. -/
def andThen (c : Checked α) (f : α → Checked β) : Checked β :=
  match c with
  | ok a => f a
  | faulty faults => faulty faults
  | failed failure => failed failure

/-- Add faults found elsewhere behind those of the outcome. -/
def withFaults (extra : List Fault) : Checked α → Checked α
  | ok a => if extra.isEmpty then ok a else faulty extra
  | faulty faults => faulty (faults ++ extra)
  | failed failure => failed failure

/-- The outcome seen from one step further out. -/
def under (key : Key) : Checked α → Checked α
  | ok a => ok a
  | faulty faults => faulty (faults.map (·.under key))
  | failed failure => failed failure

end Checked

abbrev Decoder (α : Type) := Value → StateM Ids (Checked α)

namespace Decoder
variable {α β : Type}

/-- A decoder that gives out no names. -/
def pure (f : Value → Checked α) : Decoder α := fun v => Pure.pure (f v)

def map (f : α → β) (d : Decoder α) : Decoder β := fun v => do
  return (← d v).map f

/-- Let the decoded thing pass a check. -/
def check (d : Decoder α) (f : α → Checked α) : Decoder α := fun v => do
  return (← d v).andThen f

/-- The null value, or what the decoder reads. -/
def orNull (d : Decoder α) : Decoder (Option α)
  | .null => Pure.pure (.ok none)
  | v => d.map some v

/-- Decode items from an index on. -/
def itemsFrom (d : Decoder α) : Nat → List Value → StateM Ids (Checked (List α))
  | _, [] => Pure.pure (.ok [])
  | i, v :: rest => do
    let a ← d v
    let tail ← itemsFrom d (i + 1) rest
    return ((a.under (.index i)).map List.cons).seq tail

def list (d : Decoder α) : Decoder (List α)
  | .list items => d.itemsFrom 0 items
  | _ => Pure.pure (.fault .notList)

def nonEmpty (d : Decoder (List α)) : Decoder (List α) :=
  d.check fun items => if items.isEmpty then .fault .emptyList else .ok items

def entriesOf (d : Decoder α) : Entries Value → StateM Ids (Checked (Entries α))
  | [] => Pure.pure (.ok [])
  | (name, v) :: rest => do
    let a ← d v
    let tail ← entriesOf d rest
    return ((a.under (.name name)).map fun a es => (name, a) :: es).seq tail

def entries (d : Decoder α) : Decoder (Entries α)
  | .map es => d.entriesOf es
  | _ => Pure.pure (.fault .notMap)

end Decoder

/-- What is read from the fields of a document, with the names of the fields. -/
structure Fields (α : Type) where
  names : List String
  read : Entries Value → StateM Ids (Checked α)

namespace Fields
variable {α β : Type}

instance : Applicative Fields where
  pure a := ⟨[], fun _ => Pure.pure (.ok a)⟩
  seq f x :=
    let x := x ()
    ⟨f.names ++ x.names, fun es => do
      let g ← f.read es
      let a ← x.read es
      return g.seq a⟩

/-- Read a field, or say what stands in for a missing one. -/
def orElse (name : String) (d : Decoder α) (missing : StateM Ids (Checked α)) : Fields α :=
  ⟨[name], fun es => do
    let a ← match es.get? name with
      | some v => d v
      | none => missing
    return a.under (.name name)⟩

def required (name : String) (d : Decoder α) : Fields α :=
  orElse name d (Pure.pure (.fault .missing))

def given (name : String) (default : α) (d : Decoder α) : Fields α :=
  orElse name d (Pure.pure (.ok default))

def optional (name : String) (d : Decoder α) : Fields (Option α) := given name none d.orNull

/-- A field that gets a fresh name where it is missing. -/
def named (name : String) (mark : Mark) (d : Decoder String) : Fields String :=
  orElse name d fun ids =>
    let (fresh, ids) := ids.next mark
    (.ok fresh, ids)

/-- The faults of the fields that nobody reads. -/
def unknown (fields : Fields α) (es : Entries Value) : List Fault :=
  (es.filter fun e => !fields.names.contains e.1).map fun e => ⟨[.name e.1], .unknownField⟩

/-- A document that may have fields beyond those that are read. -/
def openRecord (fields : Fields α) (model : String) : Decoder α
  | .map es => fields.read es
  | _ => Pure.pure (.fault (.notModel model))

/-- A document that has no other fields. -/
def record (fields : Fields α) (model : String) : Decoder α
  | .map es => do
    return (← fields.read es).withFaults (fields.unknown es)
  | _ => Pure.pure (.fault (.notModel model))

end Fields

/-- Read a whole document of a model, as work that fails with its faults. -/
def Decoder.decode {α : Type} (d : Decoder α) (model : String) (v : Value) : Work α := fun ids =>
  match d v ids with
  | (.ok a, ids) => (.ok a, ids)
  | (.faulty faults, ids) => (.error (.malformed model faults), ids)
  | (.failed failure, ids) => (.error failure, ids)

end Formwork.Document
