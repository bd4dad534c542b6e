import Formwork.Validation.Rule
import Formwork.Field.Basic
import Formwork.Settings
/-!
Complaints about answers, and their wording. A message is made of words and of places for the name
of the field, for a limit, and for the name of another field; what takes a place is never read
again.
-/
namespace Formwork

open Document

/-- What can be wrong with an answer. -/
inductive Complaint where
  | required
  | min
  | max
  | minLength
  | maxLength
  | number
  | pattern
  | email
  | url
  | date
  | option
  | fileType
  | fileSize
  | crossField
  | custom
  | futureDate
  | pastDate
  | adult
  | phone
  deriving DecidableEq

namespace Complaint

def name : Complaint → String
  | required => "required"
  | min => "min"
  | max => "max"
  | minLength => "min_length"
  | maxLength => "max_length"
  | number => "number"
  | pattern => "pattern"
  | email => "email"
  | url => "url"
  | date => "date"
  | option => "option"
  | fileType => "file_type"
  | fileSize => "file_size"
  | crossField => "cross_field"
  | custom => "custom"
  | futureDate => "future_date"
  | pastDate => "past_date"
  | adult => "min_age_18"
  | phone => "phone"

instance : Named Complaint where
  all := [required, min, max, minLength, maxLength, number, pattern, email, url, date, option,
    fileType, fileSize, crossField, custom, futureDate, pastDate, adult, phone]
  name := name

end Complaint

/-- A part of a message. -/
inductive Piece where
  | words (s : String)
  | label
  | limit
  | other
  deriving DecidableEq

instance : Coe String Piece := ⟨Piece.words⟩

/-- What takes the places of a message. -/
structure Filling where
  label : String
  limit : Option Value := none
  other : Option String := none

/-- What takes the place of a piece; a place that nothing takes is a failure. -/
def Piece.fill (f : Filling) : Piece → Except Failure String
  | words s => .ok s
  | label => .ok f.label
  | limit => match f.limit with | some v => v.display | none => .error (.noParameter "limit")
  | other => match f.other with | some s => .ok s | none => .error (.noParameter "other")

inductive Language where
  | english
  | arabic
  deriving DecidableEq

/-- The language of a locale; other locales are answered in English. -/
def Language.ofLocale (locale : String) : Language := if locale = "ar" then .arabic else .english

namespace Complaint

open Piece

def english : Complaint → List Piece
  | required => [label, " is required"]
  | min => [label, " must be at least ", limit]
  | max => [label, " must be at most ", limit]
  | minLength => [label, " must be at least ", limit, " characters"]
  | maxLength => [label, " must be at most ", limit, " characters"]
  | number => [label, " must be a number"]
  | pattern => [label, " has an invalid format"]
  | email => [label, " must be a valid email address"]
  | url => [label, " must be a valid URL"]
  | date => [label, " must be a valid date"]
  | option => [label, " has a value that is not one of the allowed options"]
  | fileType => [label, " only accepts ", limit, " files"]
  | fileSize => [label, " must be smaller than ", limit, " MB"]
  | crossField => [label, " does not satisfy the comparison with ", other]
  | custom => [label, " is invalid"]
  | futureDate => [label, " must be a future date"]
  | pastDate => [label, " must be a past date"]
  | adult => [label, " indicates an age under 18"]
  | phone => [label, " must be a valid phone number"]

def arabic : Complaint → List Piece
  | required => [label, " مطلوب"]
  | min => ["يجب أن تكون قيمة ", label, " ", limit, " على الأقل"]
  | max => ["يجب ألا تتجاوز قيمة ", label, " ", limit]
  | minLength => ["يجب أن يحتوي ", label, " على ", limit, " أحرف على الأقل"]
  | maxLength => ["يجب ألا يتجاوز ", label, " ", limit, " حرفًا"]
  | number => ["يجب أن يكون ", label, " رقمًا"]
  | pattern => ["صيغة ", label, " غير صحيحة"]
  | email => ["يجب أن يكون ", label, " بريدًا إلكترونيًا صحيحًا"]
  | url => ["يجب أن يكون ", label, " رابطًا صحيحًا"]
  | date => ["يجب أن يكون ", label, " تاريخًا صحيحًا"]
  | option => ["قيمة ", label, " ليست من الخيارات المسموح بها"]
  | fileType => [label, " يقبل الملفات من نوع ", limit, " فقط"]
  | fileSize => ["يجب أن يكون حجم ", label, " أقل من ", limit, " ميجابايت"]
  | crossField => [label, " لا يحقق شرط المقارنة مع ", other]
  | custom => [label, " غير صالح"]
  | futureDate => ["يجب أن يكون ", label, " تاريخًا مستقبليًا"]
  | pastDate => ["يجب أن يكون ", label, " تاريخًا سابقًا"]
  | adult => ["يجب ألا يقل العمر في ", label, " عن 18 سنة"]
  | phone => ["يجب أن يكون ", label, " رقم هاتف صحيحًا"]

def pieces (language : Language) (c : Complaint) : List Piece :=
  match language with
  | .english => c.english
  | .arabic => c.arabic

/-- The message of a complaint. -/
def message (c : Complaint) (language : Language) (f : Filling) : Except Failure String := do
  pure (String.join (← (c.pieces language).mapM (Piece.fill f)))

end Complaint

/-- The locale in which a context asks for messages. -/
def Context.messageLocale (c : Context) (settings : Settings) : String :=
  match c.locale with
  | some locale => if locale.isEmpty then settings.locale else locale
  | none => settings.locale

/-- What is known of a complaint besides what it is. -/
structure Ground where
  limit : Option Value := none
  other : Option String := none
  rule : Option String := none
  /-- A message of its own. -/
  message : Option String := none

/-- The error that a complaint about a field makes. -/
def Field.complain (f : Field) (c : Complaint) (context : Context) (settings : Settings)
    (ground : Ground) : Except Failure FieldError := do
  let filling : Filling := ⟨f.shownName, ground.limit, ground.other⟩
  let message ← match ground.message.filter (!·.isEmpty) with
    | some message => pure message
    | none => c.message (.ofLocale (context.messageLocale settings)) filling
  pure ⟨f.id, c.name, message, ground.rule⟩

end Formwork
