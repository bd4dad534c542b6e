import Formwork.Condition.Document
/-!
The fields of a form: what kind of answer each takes and what is asked of it.
-/
namespace Formwork

open Document

inductive FieldKind where
  | text
  | textarea
  | number
  | decimal
  | email
  | phone
  | url
  | date
  | datetime
  | select
  | multiSelect
  | radio
  | checkbox
  | toggle
  | file
  | multiFile
  | image
  | userLookup
  | sectionHeader
  | divider
  | infoBox
  deriving DecidableEq

namespace FieldKind

def name : FieldKind → String
  | text => "text"
  | textarea => "textarea"
  | number => "number"
  | decimal => "decimal"
  | email => "email"
  | phone => "phone"
  | url => "url"
  | date => "date"
  | datetime => "datetime"
  | select => "select"
  | multiSelect => "multi_select"
  | radio => "radio"
  | checkbox => "checkbox"
  | toggle => "toggle"
  | file => "file"
  | multiFile => "multi_file"
  | image => "image"
  | userLookup => "user_lookup"
  | sectionHeader => "section_header"
  | divider => "divider"
  | infoBox => "info_box"

instance : Named FieldKind where
  all := [text, textarea, number, decimal, email, phone, url, date, datetime, select, multiSelect,
    radio, checkbox, toggle, file, multiFile, image, userLookup, sectionHeader, divider, infoBox]
  name := name

/-- Kinds that hold uploaded files. -/
def isUpload : FieldKind → Bool
  | file | multiFile | image => true
  | _ => false

/-- Kinds that only arrange a form and hold no answer. -/
def isLayout : FieldKind → Bool
  | sectionHeader | divider | infoBox => true
  | _ => false

def isNumeric : FieldKind → Bool
  | number | decimal => true
  | _ => false

/-- Kinds whose answer is chosen from the options. -/
def isChoice : FieldKind → Bool
  | select | radio | multiSelect => true
  | _ => false

def isTemporal : FieldKind → Bool
  | date | datetime => true
  | _ => false

end FieldKind

structure Choice where
  value : Value
  label : Option String

namespace Choice

def decoder : Decoder Choice := Fields.openRecord
  (Choice.mk <$> Fields.required "value" Decoder.any
    <*> Fields.optional "label" Decoder.text)
  "FieldOption"

def document (c : Choice) : Value :=
  .map [("value", c.value), ("label", Value.ofText? c.label)]

end Choice

/-- What is asked of the answer in a field. -/
structure Demands where
  required : Bool := false
  /-- Where given, the answer is required only if this holds. -/
  requiredWhen : Option Group := none
  least : Option Float := none
  most : Option Float := none
  minLength : Option Int := none
  maxLength : Option Int := none
  pattern : Option String := none
  patternMessage : Option String := none
  customValidator : Option String := none
  fileTypes : List String := []
  maxFileSize : Option Float := none

namespace Demands

def decoder (host : Host) : Decoder Demands := Fields.record
  (Demands.mk <$> Fields.given "required" false Decoder.truth
    <*> Fields.optional "required_when" (Group.decoder host)
    <*> Fields.optional "min" Decoder.number
    <*> Fields.optional "max" Decoder.number
    <*> Fields.optional "min_length" Decoder.whole
    <*> Fields.optional "max_length" Decoder.whole
    <*> Fields.optional "pattern" Decoder.text
    <*> Fields.optional "pattern_message" Decoder.text
    <*> Fields.optional "custom_validator" Decoder.text
    <*> Fields.given "allowed_file_types" [] (Decoder.list Decoder.text)
    <*> Fields.optional "max_file_size_mb" Decoder.number)
  "FieldValidation"

def document (d : Demands) : Value :=
  .map [("required", .bool d.required), ("required_when", ofOption Group.document d.requiredWhen),
    ("min", ofOption Value.float d.least), ("max", ofOption Value.float d.most),
    ("min_length", Value.ofInt? d.minLength), ("max_length", Value.ofInt? d.maxLength),
    ("pattern", Value.ofText? d.pattern), ("pattern_message", Value.ofText? d.patternMessage),
    ("custom_validator", Value.ofText? d.customValidator),
    ("allowed_file_types", Value.ofTexts d.fileTypes),
    ("max_file_size_mb", ofOption Value.float d.maxFileSize)]

end Demands

structure Field where
  id : String
  label : String := ""
  kind : FieldKind := .text
  demands : Demands := {}
  defaultValue : Value := .null
  choices : List Choice := []
  /-- Where the choices are loaded from, if they are not listed. -/
  choiceSource : Option String := none
  hidden : Bool := false

namespace Field

def decoder (host : Host) : Decoder Field := Fields.record
  (Field.mk <$> Fields.required "field_id" Decoder.text
    <*> Fields.given "label" "" Decoder.text
    <*> Fields.given "field_type" .text (Decoder.oneOf FieldKind)
    <*> Fields.given "validation" {} (Demands.decoder host)
    <*> Fields.given "default_value" .null Decoder.any
    <*> Fields.given "options" [] (Decoder.list Choice.decoder)
    <*> Fields.optional "options_source" Decoder.text
    <*> Fields.given "hidden" false Decoder.truth)
  "SmartField"

def document (f : Field) : Value :=
  .map [("field_id", .text f.id), ("label", .text f.label), ("field_type", ofNamed f.kind),
    ("validation", f.demands.document), ("default_value", f.defaultValue),
    ("options", ofList Choice.document f.choices),
    ("options_source", Value.ofText? f.choiceSource), ("hidden", .bool f.hidden)]

/-- The name under which a field is shown: its label, or its id where it has none. -/
def shownName (f : Field) : String := if f.label.isEmpty then f.id else f.label

end Field
end Formwork
