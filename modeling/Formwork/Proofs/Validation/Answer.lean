import Formwork.Proofs.Condition.Asking
import Formwork.Proofs.Validation.Wording
import Formwork.Validation.FieldCheck
/-!
# When the check of an answer fails

An answer is meant to be complained about, never to stop the check. Nothing stops it but a handful of
answers, patterns, limits and conditions: a number or an instant that cannot be held, an answer or a
limit that has to be written and has no text, a text that looks like a location and is none, a
pattern that its reader breaks off, and a condition on which the answer is required.
-/
namespace Formwork

open Document

/-! ## Reasons -/

/-- An answer cannot be searched for a pattern: it has no text, or the reading of the pattern breaks
off. -/
inductive Value.PatternTrips (host : Host) (pattern : String) (value : Value) : Failure → Prop where
  | digits (long : value.isWritable = false) : PatternTrips host pattern value .tooManyDigits
  | broken {breach : Pattern.Breach} (written : value.isWritable = true)
    (broken : Pattern.read host pattern = .error (.breach breach)) :
    PatternTrips host pattern value (.pattern breach)

/-- An answer cannot be read as a location: it has no text, or one that looks like a location and is
none. -/
inductive Value.LocationTrips (value : Value) : Failure → Prop where
  | digits (long : value.isWritable = false) : LocationTrips value .tooManyDigits
  | broken {s : String} {fault : Web.LocationFault} (written : value.display = .ok s)
    (broken : Web.Location.parse s = .error fault) : LocationTrips value (.location fault)

/-- A validator is asked for that reads an instant off the calendar, or a number without a text. -/
inductive Validator.Trips (name : String) (value : Value) : Failure → Prop where
  | dated {e : Failure} (dated : name ∈ ["future_date", "past_date", "min_age_18"])
    (off : (Operand.value value).Exceeds .date e) : Trips name value e
  | phone (named : name = "phone") (long : value.isWritable = false) :
    Trips name value .tooManyDigits

/-- A text is too short or too long for a limit that has no text of its own. -/
inductive Field.LengthTrips (f : Field) : Value → Failure → Prop where
  | short {s : String} {least : Int} (declared : f.demands.minLength = some least)
    (short : (s.length : Int) < least) (long : (Value.int least).isWritable = false) :
    LengthTrips f (.text s) .tooManyDigits
  | long {s : String} {most : Int} (declared : f.demands.maxLength = some most)
    (exceeded : most < (s.length : Int)) (long : (Value.int most).isWritable = false) :
    LengthTrips f (.text s) .tooManyDigits

/-- The name of a file has no text, or the file is larger than a limit that has none. -/
def Validation.FileTrips (v : Validation) (f : Field) (es : Entries Value) : Prop :=
  (firstTrue es ["name", "filename"]).isWritable = false ∨
    (v.fileLimit f).isExceededBy ((es.get? "size").getD .null) = true ∧
      (v.fileLimit f).value.isWritable = false

/-- The answer stops the check of the field's kind. Numbers and instants are held, files are named
and measured, and what is neither held nor chosen is measured as a text. -/
def Field.KindTrips (f : Field) (v : Validation) (value : Value) (e : Failure) : Prop :=
  match f.kind with
  | .number | .decimal => (Operand.value value).Exceeds .number e
  | .date | .datetime => (Operand.value value).Exceeds .date e
  | .file | .multiFile | .image =>
    (∃ es, .map es ∈ value.options ∧ v.FileTrips f es) ∧ e = .tooManyDigits
  | .select | .multiSelect | .radio => False
  | .email => f.LengthTrips value e ∨ value.isWritable = false ∧ e = .tooManyDigits
  | .url => f.LengthTrips value e ∨ value.LocationTrips e
  | .text | .textarea | .phone | .checkbox | .toggle | .userLookup | .sectionHeader | .divider
  | .infoBox => f.LengthTrips value e

/-- The answer stops the check of the field. Only an empty answer can be required, and only another
one is looked at. -/
inductive Field.Trips (f : Field) (v : Validation) (value : Value) (context : Context)
    (override : Option Bool) : Failure → Prop where
  | required {e : Failure} {g : Group} (asks : f.kind.isLayout = false)
    (empty : value.isEmpty = true) (undecided : override = none)
    (demanded : f.demands.required = true) (group : f.demands.requiredWhen = some g)
    (strains : g.Strains context e) : Trips f v value context override e
  | kind {e : Failure} (asks : f.kind.isLayout = false) (filled : value.isEmpty = false)
    (trips : f.KindTrips v value e) : Trips f v value context override e
  | pattern {e : Failure} {p : String} (asks : f.kind.isLayout = false)
    (filled : value.isEmpty = false) (given : f.demands.pattern = some p) (asked : p ≠ "")
    (trips : value.PatternTrips context.host p e) : Trips f v value context override e
  | validator {e : Failure} {name : String} (asks : f.kind.isLayout = false)
    (filled : value.isEmpty = false) (given : f.demands.customValidator = some name)
    (trips : Validator.Trips name value e) : Trips f v value context override e

namespace Validation

/-! ## Complaints -/

section Complaints

variable (v : Validation) (f : Field) (context : Context)

variable {c : Complaint} {ground : Ground}

theorem complainIf_failsBy (reason : Bool) (hfills : ground.Fills c) :
    FailsBy (v.complainIf reason f c context ground) fun e =>
      reason = true ∧ ground.Unwritten c ∧ e = .tooManyDigits := by
  unfold complainIf
  refine (FailsBy.ite (fun _ => (f.complain_failsBy context v.settings hfills).bind_ok
    fun made _ => ⟨[made], rfl⟩) fun _ => .ok []).congr fun e => by simp

theorem complainIf_limit_failsBy (reason : Bool) (hc : c ∈ Complaint.limited) (limit : Value) :
    FailsBy (v.complainIf reason f c context { limit := limit }) fun e =>
      reason = true ∧ limit.isWritable = false ∧ e = .tooManyDigits := by
  have hother : c ≠ .crossField := by
    rintro rfl
    exact absurd hc (by decide)
  refine (v.complainIf_failsBy f context reason
    ⟨fun _ => ⟨limit, rfl⟩, fun h => absurd h hother⟩).congr fun e => ?_
  refine and_congr_right fun _ => and_congr_left fun _ => ⟨?_, fun hlong => ⟨rfl, hc, _, rfl, hlong⟩⟩
  rintro ⟨-, -, w, hw, hlong⟩
  obtain rfl := Option.some.inj hw
  exact hlong

theorem complainIf_limit_ok (reason : Bool) {limit : Value} (hlimit : ground.limit = some limit)
    (hwritable : limit.isWritable = true) (hc : c ≠ .crossField) :
    ∃ es, v.complainIf reason f c context ground = .ok es := by
  refine (v.complainIf_failsBy f context reason
    ⟨fun _ => ⟨limit, hlimit⟩, fun h => absurd h hc⟩).exists_ok_iff.mpr ?_
  rintro e ⟨-, ⟨-, -, w, hw, hlong⟩, -⟩
  rw [hlimit, Option.some.injEq] at hw
  rw [hw, hlong] at hwritable
  cases hwritable

/-- The complaint about a limit that a field may declare, and may miss. -/
def limitErrors {α : Type} (declared : Option α) (missed : α → Bool) (c : Complaint)
    (write : α → Value) : Except Failure (List FieldError) :=
  match declared with
  | some limit => v.complainIf (missed limit) f c context { limit := write limit }
  | none => .ok []

theorem numberErrors_eq (x : Float) : v.numberErrors f x context = (do
    let low ← v.limitErrors f context f.demands.least (fun least => x < least) .min .float
    let high ← v.limitErrors f context f.demands.most (fun most => most < x) .max .float
    pure (low ++ high)) := by
  unfold numberErrors
  cases f.demands.least <;> cases f.demands.most <;> rfl

theorem lengthErrors_text (s : String) : v.lengthErrors f (.text s) context = (do
    let short ← v.limitErrors f context f.demands.minLength
      (fun least => (s.length : Int) < least) .minLength .int
    let long ← v.limitErrors f context f.demands.maxLength
      (fun most => most < (s.length : Int)) .maxLength .int
    pure (short ++ long)) := by
  unfold lengthErrors
  cases f.demands.minLength <;> cases f.demands.maxLength <;> rfl

theorem fileErrors_failsBy (es : Entries Value) :
    FailsBy (v.fileErrors f es context) fun e => v.FileTrips f es ∧ e = .tooManyDigits := by
  have hname : FailsBy (fileName es) _ := (firstTrue es ["name", "filename"]).display_failsBy
  have htype (name : String) : ∃ errors,
      v.complainIf (!(plainTypes f).isEmpty && !(plainTypes f).contains (extension name)) f .fileType
        context { limit := Value.text (", ".intercalate (plainTypes f)) } = .ok errors :=
    v.complainIf_limit_ok f context _ rfl rfl (by decide)
  have hsize := v.complainIf_limit_failsBy f context
    ((v.fileLimit f).isExceededBy ((es.get? "size").getD .null)) (c := .fileSize) (by decide)
    (v.fileLimit f).value
  refine (hname.bind fun name _ => FailsBy.ok_bind (htype name) fun wrongType =>
    hsize.bind_ok fun tooLarge _ => ⟨wrongType ++ tooLarge, rfl⟩).congr fun e => ?_
  simp only [FileTrips, or_and_right, and_assoc]

theorem uploadErrors_failsBy (items : List Value) :
    FailsBy (v.uploadErrors f context items) fun e =>
      (∃ es, .map es ∈ items ∧ v.FileTrips f es) ∧ e = .tooManyDigits := by
  induction items with
  | nil => exact .never [] fun e => by simp
  | cons item rest ih =>
    cases item with
    | map es =>
      refine ((v.fileErrors_failsBy f context es).bind fun first _ =>
        ih.bind_ok fun later _ => ⟨first ++ later, rfl⟩).congr fun e => ?_
      simp only [List.mem_cons, Value.map.injEq, or_and_right, exists_or, exists_eq_left]
    | null | bool _ | int _ | float _ | text _ | list _ => exact ih.congr fun e => by simp

/-! ## Kinds, patterns and validators -/

variable (value : Value)

end Complaints

end Validation
end Formwork
