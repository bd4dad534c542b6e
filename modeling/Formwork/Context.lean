import Formwork.Status
/-!
What conditions, rules and templates are read against: the data of a form, the user who acts, the
submission with its status, and the instant that counts as now. With it goes the machine on which
they are read.
-/
namespace Formwork

open Document Calendar

structure User where
  id : String
  name : Option String
  roles : List String
  attributes : Entries Value

namespace User

def decoder : Decoder User := Fields.record
  (User.mk <$> Fields.required "id" Decoder.text
    <*> Fields.optional "name" Decoder.text
    <*> Fields.given "roles" [] (Decoder.list Decoder.text)
    <*> Fields.given "attributes" [] Decoder.anyMap)
  "UserContext"

def entries (u : User) : Entries Value :=
  [("id", .text u.id), ("name", Value.ofText? u.name), ("roles", Value.ofTexts u.roles),
    ("attributes", .map u.attributes)]

def document (u : User) : Value := .map u.entries

end User

/-- A submission as conditions see it. -/
structure Reference where
  id : Option String := none
  status : Option Status := none

namespace Reference

def decoder : Decoder Reference := Fields.openRecord
  (Reference.mk <$> Fields.optional "id" Decoder.text
    <*> Fields.optional "status" (Decoder.oneOf Status))
  "SubmissionRef"

def entries (r : Reference) : Entries Value :=
  [("id", Value.ofText? r.id), ("status", ofOption ofNamed r.status)]

def document (r : Reference) : Value := .map r.entries

end Reference

structure Context where
  data : Entries Value := []
  user : Option User := none
  submission : Reference := {}
  locale : Option String := none
  /-- The fields that are declared, where that is known; others cannot be read. -/
  knownFields : Option (List String) := none
  now : Instant
  host : Host := {}

namespace Context

/-- A context without anything but an instant. -/
def ofNow (now : Instant) : Context := { now := now }

def decoder (host : Host) (now : Instant) : Decoder Context := Fields.record
  (Context.mk <$> Fields.given "data" [] Decoder.anyMap
    <*> Fields.optional "user" User.decoder
    <*> Fields.given "submission" {} Reference.decoder
    <*> Fields.optional "locale" Decoder.text
    <*> Fields.optional "known_fields" (Decoder.list Decoder.text)
    <*> Fields.given "now" now Decoder.instant
    <*> pure host)
  "EvaluationContext"

def document (c : Context) : Value :=
  .map [("data", .map c.data), ("user", ofOption User.document c.user),
    ("submission", c.submission.document), ("locale", Value.ofText? c.locale),
    ("known_fields", ofOption Value.ofTexts c.knownFields), ("now", .text c.now.isoText)]

/-- The same context with field values laid over its data. -/
def withData (c : Context) (upper : Entries Value) : Context :=
  { c with data := c.data.overlay upper }

def withUser (c : Context) (user : User) : Context := { c with user := some user }

def withStatus (c : Context) (status : Status) : Context :=
  { c with submission := { c.submission with status := some status } }

/-- Whether a field may be read. -/
def knows (c : Context) (field : String) : Bool :=
  match c.knownFields with
  | none => true
  | some names => names.contains field

end Context
end Formwork
