import Formwork.Condition.Basic
/-!
Documents of conditions and groups. A member of a group is a group if it has an entry for members,
and otherwise a condition.
-/
namespace Formwork

open Document

namespace Condition

def fields : Fields Condition :=
  Condition.mk <$> Fields.required "field_id" Decoder.text
    <*> Fields.required "operator" (Decoder.oneOf Operator)
    <*> Fields.given "value" .null Decoder.any
    <*> Fields.given "value_type" .auto (Decoder.oneOf ValueType)
    <*> Fields.given "source" .field (Decoder.oneOf Source)

def decoder (host : Host) : Decoder Condition :=
  (fields.record "Condition").check (checked host)

/-- The outcome of a decoder that gives out no names. -/
def ofValue (host : Host) (v : Value) : Checked Condition := (decoder host v {}).1

def document (c : Condition) : Value :=
  .map [("field_id", .text c.field), ("operator", ofNamed c.operator), ("value", c.value),
    ("value_type", ofNamed c.valueType), ("source", ofNamed c.source)]

end Condition

/-- The name of the entry that makes a document a group. -/
def Node.membersName : String := "conditions"

namespace Group

/-- A group whose members have already been read. -/
def fields (nodes : Checked (List Node)) : Fields Group :=
  Group.mk <$> Fields.given "operator" .all (Decoder.oneOf Logic)
    <*> Fields.given Node.membersName [] (Decoder.pure fun _ => nodes)

def ofEntries (es : Entries Value) (nodes : Checked (List Node)) : Checked Group :=
  ((fields nodes).record "ConditionGroup" (.map es) {}).1

end Group

mutual

/-- Read a member of a group. -/
def Node.ofValue (host : Host) : Value → Checked Node
  | .map es =>
    match Node.membersOf host es with
    | some nodes => ((Group.ofEntries es nodes).map Group.node).under (.name "group")
    | none => ((Condition.ofValue host (.map es)).map Node.leaf).under (.name "condition")
  | v => ((Condition.ofValue host v).map Node.leaf).under (.name "condition")
termination_by structural v => v

/-- The members that a document names, if it names any. -/
def Node.membersOf (host : Host) : List (String × Value) → Option (Checked (List Node))
  | [] => none
  | (name, v) :: rest =>
    if name = Node.membersName then some (Node.listOfValue host v)
    else Node.membersOf host rest
termination_by structural es => es

def Node.listOfValue (host : Host) : Value → Checked (List Node)
  | .list items => Node.listFrom host 0 items
  | _ => .fault .notList
termination_by structural v => v

def Node.listFrom (host : Host) (i : Nat) : List Value → Checked (List Node)
  | [] => .ok []
  | v :: rest =>
    (((Node.ofValue host v).under (.index i)).map List.cons).seq (Node.listFrom host (i + 1) rest)
termination_by structural vs => vs

end

namespace Group

def ofValue (host : Host) : Value → Checked Group
  | .map es => Group.ofEntries es ((Node.membersOf host es).getD (.ok []))
  | _ => .fault (.notModel "ConditionGroup")

def decoder (host : Host) : Decoder Group := Decoder.pure (ofValue host)

end Group

mutual

def Node.document : Node → Value
  | .leaf c => c.document
  | .group logic nodes =>
    .map [("operator", ofNamed logic), (Node.membersName, .list (Node.documents nodes))]
termination_by structural n => n

def Node.documents : List Node → List Value
  | [] => []
  | n :: rest => n.document :: Node.documents rest
termination_by structural ns => ns

end

def Group.document (g : Group) : Value := g.node.document

end Formwork
