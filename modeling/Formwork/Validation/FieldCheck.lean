import Formwork.Validation.Message
import Formwork.Validation.Validator
import Formwork.Mail.Address
import Formwork.Web.Location
/-!
Checking the answer in one field. An empty answer is only asked for; any other has to suit the kind
of the field, its pattern and its validator, and every complaint is reported.
-/
namespace Formwork

open Document

/-- What validation needs besides the form. -/
structure Validation where
  settings : Settings := {}
  validators : Entries Validator := Validator.builtIn

namespace Validation

/-- The error of a complaint that has no further ground, if there is reason to complain. -/
def complainIf (v : Validation) (reason : Bool) (f : Field) (c : Complaint) (context : Context)
    (ground : Ground) : Except Failure (List FieldError) :=
  if reason then do pure [← f.complain c context v.settings ground] else .ok []

/-! ## Kinds -/

/-- Complaints about a number and its bounds. -/
def numberErrors (v : Validation) (f : Field) (x : Float) (context : Context) :
    Except Failure (List FieldError) := do
  let low ← match f.demands.least with
    | some least => v.complainIf (x < least) f .min context { limit := Value.float least }
    | none => pure []
  let high ← match f.demands.most with
    | some most => v.complainIf (most < x) f .max context { limit := Value.float most }
    | none => pure []
  pure (low ++ high)

/-- Complaints about the length of a text; other answers have none. -/
def lengthErrors (v : Validation) (f : Field) (value : Value) (context : Context) :
    Except Failure (List FieldError) :=
  match value with
  | .text s => do
    let count : Int := s.length
    let short ← match f.demands.minLength with
      | some least => v.complainIf (count < least) f .minLength context { limit := Value.int least }
      | none => pure []
    let long ← match f.demands.maxLength with
      | some most => v.complainIf (most < count) f .maxLength context { limit := Value.int most }
      | none => pure []
    pure (short ++ long)
  | _ => .ok []

/-- Whether a field with listed choices is answered with something else. -/
def isOutsideChoices (f : Field) (value : Value) : Bool :=
  (f.choiceSource.getD "").isEmpty && !f.choices.isEmpty &&
    value.options.any fun item => !item.isIn (f.choices.map (·.value))

/-! ## Files -/

/-- File types in lower case, without points in front. -/
def plainTypes (f : Field) : List String :=
  f.demands.fileTypes.map fun t => String.ofList ((Text.lower t).toList.dropWhile (· = '.'))

/-- The first of some entries that counts as true. -/
def firstTrue (es : Entries Value) : List String → Value
  | [] => .text ""
  | name :: rest =>
    match es.get? name with
    | some v => if v.truthy then v else firstTrue es rest
    | none => firstTrue es rest

/-- What follows the last point of a file's name, in lower case; without a point nothing. -/
def extension (name : String) : String :=
  let parts := Text.split '.' name
  if parts.length ≤ 1 then "" else Text.lower (parts.getLastD "")

/-- The name of a file, under either of the entries for it. -/
def fileName (es : Entries Value) : Except Failure String :=
  (firstTrue es ["name", "filename"]).display

/-- The largest size of a file, in megabytes. -/
inductive FileLimit where
  | declared (megabytes : Float)
  | default (megabytes : Int)

def fileLimit (v : Validation) (f : Field) : FileLimit :=
  match f.demands.maxFileSize with
  | some size => if size == 0.0 then .default v.settings.maxFileSize else .declared size
  | none => .default v.settings.maxFileSize

namespace FileLimit

def value : FileLimit → Value
  | declared size => .float size
  | default size => .int size

/-- The limit in bytes. -/
def bytes : FileLimit → Value.Numeric
  | declared size => .float (size * 1024.0 * 1024.0)
  | default size => .whole (size * 1024 * 1024)

/-- Whether a size is above the limit; what is no number is not. -/
def isExceededBy (l : FileLimit) (size : Value) : Bool :=
  match size.numeric?, l.bytes with
  | some (.whole n), .whole most => most < n
  | some (.whole n), .float most => Value.compareFloat? n most == some .gt
  | some (.float x), .whole most => Value.compareFloat? most x == some .lt
  | some (.float x), .float most => most < x
  | none, _ => false

end FileLimit

/-- Complaints about one uploaded file. -/
def fileErrors (v : Validation) (f : Field) (es : Entries Value) (context : Context) :
    Except Failure (List FieldError) := do
  let types := plainTypes f
  let limit := v.fileLimit f
  let name ← fileName es
  let wrongType ← v.complainIf (!types.isEmpty && !types.contains (extension name)) f .fileType
    context { limit := Value.text (", ".intercalate types) }
  let tooLarge ← v.complainIf (limit.isExceededBy ((es.get? "size").getD .null)) f .fileSize
    context { limit := limit.value }
  pure (wrongType ++ tooLarge)

/-- Complaints about uploaded files, in their order; what is no file is passed over. -/
def uploadErrors (v : Validation) (f : Field) (context : Context) :
    List Value → Except Failure (List FieldError)
  | [] => .ok []
  | .map es :: rest => do
    let first ← v.fileErrors f es context
    pure (first ++ (← v.uploadErrors f context rest))
  | _ :: rest => v.uploadErrors f context rest

/-! ## Answers -/

/-- Whether an answer is a location that can be fetched. -/
def isWebLocation (value : Value) : Except Failure Bool := do
  match Web.Location.parse (← value.display) with
  | .ok l => pure l.isFetchable
  | .error fault => throw (.location fault)

def isMailAddress (value : Value) : Except Failure Bool := do
  pure (Mail.isAddress (← value.display))

/-- Complaints about what does not suit the kind of the field. -/
def kindErrors (v : Validation) (f : Field) (value : Value) (context : Context) :
    Except Failure (List FieldError) :=
  if f.kind.isNumeric then do
    match ← value.number? with
    | none => v.complainIf true f .number context {}
    | some x => v.numberErrors f x context
  else if f.kind.isUpload then v.uploadErrors f context value.options
  else if f.kind.isChoice then v.complainIf (isOutsideChoices f value) f .option context {}
  else if f.kind.isTemporal then do
    v.complainIf (← value.instant? context.host.clock).isNone f .date context {}
  else do
    let length ← v.lengthErrors f value context
    let form ← match f.kind with
      | .email => v.complainIf (!(← isMailAddress value)) f .email context {}
      | .url => v.complainIf (!(← isWebLocation value)) f .url context {}
      | _ => pure []
    pure (length ++ form)

/-- Whether the text of an answer shows a pattern; one that cannot be read is shown by any. -/
def showsPattern (host : Host) (value : Value) (pattern : String) : Except Failure Bool := do
  let subject ← value.display
  match Pattern.read host pattern with
  | .ok node => pure (node.isIn subject)
  | .error (.breach breach) => throw (.pattern breach)
  | .error _ => pure true

/-- Complaints of a validator; one that nobody knows has none. -/
def customErrors (v : Validation) (f : Field) (name : String) (value : Value) (context : Context)
    (ground : Ground) : Except Failure (List FieldError) :=
  match v.validators.get? name with
  | none => .ok []
  | some validator => do
    let passes ← validator value context
    v.complainIf (!passes) f ((Named.ofName? Complaint name).getD .custom) context ground

def patternErrors (v : Validation) (f : Field) (value : Value) (context : Context) :
    Except Failure (List FieldError) :=
  match f.demands.pattern.filter (!·.isEmpty) with
  | none => .ok []
  | some pattern => do
    v.complainIf (!(← showsPattern context.host value pattern)) f .pattern context
      { message := f.demands.patternMessage }

/-- Whether an answer is asked for; what rules said counts before the field's own demand. -/
def isRequired (f : Field) (context : Context) (override : Option Bool) : Except Failure Bool :=
  match override with
  | some b => .ok b
  | none => if f.demands.required then Group.holds? f.demands.requiredWhen context else .ok false

/-- All complaints about the answer in a field. -/
def fieldErrors (v : Validation) (f : Field) (value : Value) (context : Context)
    (override : Option Bool) : Except Failure (List FieldError) :=
  if f.kind.isLayout then .ok []
  else if value.isEmpty then do
    v.complainIf (← isRequired f context override) f .required context {}
  else do
    let kind ← v.kindErrors f value context
    let pattern ← v.patternErrors f value context
    let custom ← match f.demands.customValidator.filter (!·.isEmpty) with
      | none => pure []
      | some name => v.customErrors f name value context {}
    pure (kind ++ pattern ++ custom)

/-- Check the answer in a field. -/
def checkField (v : Validation) (f : Field) (value : Value) (context : Context)
    (override : Option Bool) : Except Failure Findings := do
  pure (.ofErrors (← v.fieldErrors f value context override))

end Validation
end Formwork
