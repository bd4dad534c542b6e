import Formwork.Document.Scalar
/-!
Updates of fields. An update sets one property of one field; updates that are carried out together
are merged into a map in which, for each property, the latest one counts.
-/
namespace Formwork

open Document

inductive Property where
  | visible
  | required
  | value
  | options
  | disabled
  | readonly
  deriving DecidableEq

namespace Property

def name : Property → String
  | visible => "visible"
  | required => "required"
  | value => "value"
  | options => "options"
  | disabled => "disabled"
  | readonly => "readonly"

instance : Named Property where
  all := [visible, required, value, options, disabled, readonly]
  name := name

end Property

structure Update where
  field : String
  property : Property
  value : Value := .null
  /-- The rule that asked for the update. -/
  rule : Option String := none

namespace Update

def decoder : Decoder Update := Fields.openRecord
  (Update.mk <$> Fields.required "field_id" Decoder.text
    <*> Fields.required "property" (Decoder.oneOf Property)
    <*> Fields.given "value" .null Decoder.any
    <*> Fields.optional "rule_id" Decoder.text)
  "FieldUpdate"

def document (u : Update) : Value :=
  .map [("field_id", .text u.field), ("property", ofNamed u.property), ("value", u.value),
    ("rule_id", Value.ofText? u.rule)]

end Update

/-- For each field, the properties that are set. -/
abbrev Updates := Entries (Entries Value)

namespace Updates

def decoder : Decoder Updates := Decoder.entries Decoder.anyMap

def document (m : Updates) : Value := ofEntries Value.map m

/-- The value set for a property of a field. -/
def get? (m : Updates) (field property : String) : Option Value :=
  (Entries.get? field m).bind (Entries.get? property)

/-- Lay properties over those of a field. -/
def add (m : Updates) (field : String) (properties : Entries Value) : Updates :=
  m.insert field (((Entries.get? field m).getD []).overlay properties)

def set (m : Updates) (u : Update) : Updates := m.add u.field [(u.property.name, u.value)]

/-- The updates of one map and then of another. -/
def merge (m upper : Updates) : Updates := upper.foldl (fun m (field, ps) => m.add field ps) m

/-- The updates of several maps in their order. -/
def mergeAll (maps : List Updates) : Updates := maps.foldl merge []

/-- Updates carried out one after another. -/
def ofList (us : List Update) : Updates := us.foldl set []

end Updates
end Formwork
