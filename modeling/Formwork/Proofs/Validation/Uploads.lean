import Mathlib
import Formwork.Proofs.Decimal.Multiply
import Formwork.Proofs.Validation.Answer
/-!
# Uploaded files

A file is complained of if it is of none of the types that a field accepts, and then if it is larger
than the limit. The type of a file is what follows the last point of its name. Its size is compared
with the limit as exact numbers, and what has no size as a number is never too large. The limit that
a field declares is in force unless it is zero: a zero is passed over for the limit of the settings,
which tells by every file whose size lies between the two. The check of a file that is named by a
number too long to be written, or that is larger than a limit of that kind, fails.
-/
namespace Formwork

open Document

/-! ## Words -/

/-- What stands in the place of a piece of a message about a limit. -/
def Piece.put (name limit : String) : Piece → String
  | .words s => s
  | .label => name
  | .limit => limit
  | .other => ""

theorem mapM_eq_ok {α β : Type} {act : α → Except Failure β} {g : α → β} {l : List α}
    (h : ∀ a ∈ l, act a = .ok (g a)) : l.mapM act = .ok (l.map g) := by
  induction l with
  | nil => rfl
  | cons a rest ih =>
    rw [List.mapM_cons, h a (by simp), ih fun b hb => h b (by simp [hb])]
    rfl

/-- The error of a complaint whose message has a place for a limit and for no other field. -/
def Field.errorAt (f : Field) (context : Context) (settings : Settings) (limit : String)
    (c : Complaint) : FieldError :=
  ⟨f.id, c.name, String.join ((c.pieces (.ofLocale (context.messageLocale settings))).map
    (Piece.put f.shownName limit)), none⟩

theorem Field.complain_limit (f : Field) {c : Complaint} (hc : c ≠ .crossField) (context : Context)
    (settings : Settings) {limit : Value} {text : String} (hwritten : limit.display = .ok text) :
    f.complain c context settings { limit := limit } = .ok (f.errorAt context settings text c) := by
  have hpieces (language : Language) : ∀ p ∈ c.pieces language,
      p.fill ⟨f.shownName, some limit, none⟩ = .ok (p.put f.shownName text) := by
    intro p hp
    cases p with
    | words s => rfl
    | label => rfl
    | limit => exact hwritten
    | other => exact absurd ((c.other_mem_pieces_iff language).mp hp) hc
  have hmessage (language : Language) : c.message language ⟨f.shownName, some limit, none⟩ =
      .ok (String.join ((c.pieces language).map (Piece.put f.shownName text))) := by
    unfold Complaint.message
    rw [mapM_eq_ok (hpieces language)]
    rfl
  unfold complain
  dsimp only [Option.filter_none]
  rw [hmessage]
  rfl

theorem Complaint.name_injective : Function.Injective Complaint.name := by
  have hread (c : Complaint) : Named.ofName? Complaint c.name = some c := by cases c <;> rfl
  intro c d h
  exact Option.some.inj (by rw [← hread c, h, hread d])

namespace Validation

/-! ## The type of a file -/

/-- What a file is named: what is under `name`, or else under `filename`, where it counts as
true. -/
inductive IsNamed (es : Entries Value) : Value → Prop where
  | name {v : Value} (given : es.get? "name" = some v) (counts : v.truthy = true) : IsNamed es v
  | filename {v : Value} (unnamed : ∀ w, es.get? "name" = some w → w.truthy = false)
    (given : es.get? "filename" = some v) (counts : v.truthy = true) : IsNamed es v
  | nameless (unnamed : ∀ w, es.get? "name" = some w → w.truthy = false)
    (nor : ∀ w, es.get? "filename" = some w → w.truthy = false) : IsNamed es (.text "")

/-- The name of a file, as it is written. -/
def IsCalled (es : Entries Value) (name : String) : Prop :=
  ∃ v, IsNamed es v ∧ v.display = .ok name

section Called

variable {es : Entries Value} {v : Value} {name : String} {rest : List String}

theorem firstTrue_of_true (given : es.get? name = some v) (counts : v.truthy = true) :
    firstTrue es (name :: rest) = v := by
  simp [firstTrue, given, counts]

theorem firstTrue_of_untrue (h : ∀ w, es.get? name = some w → w.truthy = false) :
    firstTrue es (name :: rest) = firstTrue es rest := by
  cases hget : es.get? name with
  | none => simp [firstTrue, hget]
  | some v => simp [firstTrue, hget, h v hget]

theorem IsNamed.firstTrue_eq (h : IsNamed es v) : firstTrue es ["name", "filename"] = v := by
  cases h with
  | name given counts => rw [firstTrue_of_true given counts]
  | filename unnamed given counts =>
    rw [firstTrue_of_untrue unnamed, firstTrue_of_true given counts]
  | nameless unnamed nor =>
    rw [firstTrue_of_untrue unnamed, firstTrue_of_untrue nor]
    rfl

theorem exists_isNamed (es : Entries Value) : ∃ v, IsNamed es v := by
  have huntrue (key : String) (hnone : ¬ ∃ v, es.get? key = some v ∧ v.truthy = true) :
      ∀ w, es.get? key = some w → w.truthy = false := by
    simpa using hnone
  by_cases hname : ∃ v, es.get? "name" = some v ∧ v.truthy = true
  · obtain ⟨v, given, counts⟩ := hname
    exact ⟨v, .name given counts⟩
  by_cases hfilename : ∃ v, es.get? "filename" = some v ∧ v.truthy = true
  · obtain ⟨v, given, counts⟩ := hfilename
    exact ⟨v, .filename (huntrue _ hname) given counts⟩
  · exact ⟨.text "", .nameless (huntrue _ hname) (huntrue _ hfilename)⟩

theorem isNamed_iff : IsNamed es v ↔ firstTrue es ["name", "filename"] = v := by
  refine ⟨IsNamed.firstTrue_eq, ?_⟩
  rintro rfl
  obtain ⟨v, hnamed⟩ := exists_isNamed es
  exact hnamed.firstTrue_eq ▸ hnamed

theorem isCalled_iff : IsCalled es name ↔ fileName es = .ok name := by
  simp [IsCalled, isNamed_iff, fileName]

end Called

/-- The ending of a name: what follows its last point, and nothing where there is none. -/
inductive EndsIn : String → String → Prop where
  | pointless {name : String} (none : '.' ∉ name.toList) : EndsIn name ""
  | after (stem : String) {ending : String} (last : '.' ∉ ending.toList) :
    EndsIn (stem ++ "." ++ ending) ending

/-- The last part of a text that is split has no separator before it but the last one. -/
theorem splitChars_append (separator : Char) (stem : List Char) {last : List Char}
    (h : separator ∉ last) : ∃ front, front ≠ [] ∧
      Text.splitChars separator (stem ++ separator :: last) = front ++ [last] := by
  induction stem with
  | nil =>
    refine ⟨[[]], by simp, ?_⟩
    simp [Text.splitChars, Text.splitChars_eq_singleton h]
  | cons c rest ih =>
    obtain ⟨front, hfront, hsplit⟩ := ih
    obtain ⟨word, words, rfl⟩ := List.exists_cons_of_ne_nil hfront
    by_cases hc : c = separator
    · exact ⟨[] :: word :: words, by simp, by simp [Text.splitChars, hc, hsplit]⟩
    · exact ⟨(c :: word) :: words, by simp, by simp [Text.splitChars, hc, hsplit]⟩

theorem exists_endsIn (name : String) : ∃ ending, EndsIn name ending := by
  by_cases hpoint : '.' ∈ name.toList
  · obtain ⟨last, stem, hname, hlast⟩ :=
      List.eq_append_cons_of_mem (List.mem_reverse.mpr hpoint)
    have hsplit : name = String.ofList stem.reverse ++ "." ++ String.ofList last.reverse := by
      rw [← String.toList_inj, ← List.reverse_inj, hname]
      simp
    exact ⟨String.ofList last.reverse, hsplit ▸ .after _ (by simpa using hlast)⟩
  · exact ⟨"", .pointless hpoint⟩

/-- The last part of a name, if there is another part before it. -/
def lastPart (name : String) : String :=
  if (Text.split '.' name).length ≤ 1 then "" else (Text.split '.' name).getLastD ""

theorem EndsIn.lastPart {name ending : String} (h : EndsIn name ending) :
    lastPart name = ending := by
  cases h with
  | pointless none => simp [Validation.lastPart, Text.split_eq_singleton none]
  | after stem last =>
    obtain ⟨front, hfront, hsplit⟩ := splitChars_append '.' stem.toList last
    have hparts : Text.split '.' (stem ++ "." ++ ending) =
        front.map String.ofList ++ [ending] := by
      have htext : (stem ++ "." ++ ending).toList = stem.toList ++ '.' :: ending.toList := by simp
      rw [Text.split, htext, hsplit]
      simp
    have hlength : 0 < front.length := List.length_pos_iff.mpr hfront
    rw [Validation.lastPart, hparts, if_neg (by simp; omega)]
    simp

theorem endsIn_iff {name ending : String} : EndsIn name ending ↔ lastPart name = ending := by
  refine ⟨EndsIn.lastPart, ?_⟩
  rintro rfl
  obtain ⟨ending, hends⟩ := exists_endsIn name
  exact hends.lastPart ▸ hends

theorem extension_eq (name : String) : extension name = Text.lower (lastPart name) := by
  have hempty : Text.lower "" = "" := rfl
  unfold extension lastPart
  dsimp only
  split
  · exact hempty.symm
  · rfl

/-- What is left of a file type in lower case without the points in front. -/
def IsPlain (type plain : String) : Prop :=
  ∃ n, (Text.lower type).toList = List.replicate n '.' ++ plain.toList ∧
    plain.toList.head? ≠ some '.'

/-- The field accepts some types only, and the file is of none of them. -/
def RefusesType (f : Field) (es : Entries Value) : Prop :=
  f.demands.fileTypes ≠ [] ∧ ∃ name ending, IsCalled es name ∧ EndsIn name ending ∧
    ∀ type ∈ f.demands.fileTypes, ¬ IsPlain type (Text.lower ending)

theorem isPlain_iff {type plain : String} :
    IsPlain type plain ↔
      String.ofList ((Text.lower type).toList.dropWhile (· = '.')) = plain := by
  constructor
  · rintro ⟨n, htype, hplain⟩
    have hleft : plain.toList.dropWhile (· = '.') = plain.toList := by
      cases hchars : plain.toList with
      | nil => rfl
      | cons c rest =>
        have hc : c ≠ '.' := by simpa [hchars] using hplain
        simp [hc]
    rw [htype, List.dropWhile_append_of_pos (by simp), hleft, String.ofList_toList]
  · rintro rfl
    have hpoints : (Text.lower type).toList.takeWhile (· = '.') =
        List.replicate ((Text.lower type).toList.takeWhile (· = '.')).length '.' :=
      List.eq_replicate_of_mem fun c hc => by simpa using List.mem_takeWhile_imp hc
    refine ⟨((Text.lower type).toList.takeWhile (· = '.')).length, ?_, ?_⟩
    · rw [← hpoints, String.toList_ofList, List.takeWhile_append_dropWhile]
    · rw [String.toList_ofList]
      intro hhead
      have := List.head?_dropWhile_not (fun c => decide (c = '.')) (Text.lower type).toList
      simp [hhead] at this

theorem refusesType_iff (f : Field) {es : Entries Value} {name : String}
    (hname : fileName es = .ok name) :
    (!(plainTypes f).isEmpty && !(plainTypes f).contains (extension name)) = true ↔
      RefusesType f es := by
  have htypes (s : String) :
      s ∈ plainTypes f ↔ ∃ type ∈ f.demands.fileTypes, IsPlain type s := by
    simp only [plainTypes, List.mem_map, isPlain_iff]
  have hempty : (plainTypes f).isEmpty = true ↔ f.demands.fileTypes = [] := by
    simp [plainTypes]
  simp only [RefusesType, isCalled_iff, hname, Except.ok.injEq, endsIn_iff, extension_eq,
    Bool.and_eq_true, Bool.not_eq_true', ← Bool.not_eq_true, hempty, List.contains_iff_mem, htypes,
    not_exists, not_and]
  constructor
  · rintro ⟨hsome, hnone⟩
    exact ⟨hsome, _, _, rfl, rfl, hnone⟩
  · rintro ⟨hsome, _, _, rfl, rfl, hnone⟩
    exact ⟨hsome, hnone⟩

/-! ## The size of a file -/

end Validation

/-- The exact number that a value is; truth values count as one and zero. -/
def Value.amount? : Value → Option (WithBotTop ℚ)
  | .bool b => some ↑(if b then 1 else 0 : ℚ)
  | .int n => some ↑(n : ℚ)
  | .float x => Decimal.value? x
  | .null | .text _ | .list _ | .map _ => none

def Value.Numeric.amount? : Value.Numeric → Option (WithBotTop ℚ)
  | .whole n => some ↑(n : ℚ)
  | .float x => Decimal.value? x

theorem Value.amount?_eq (v : Value) : v.amount? = v.numeric?.bind Numeric.amount? := by
  cases v with
  | bool b => cases b <;> simp [amount?, numeric?, Numeric.amount?]
  | null | int _ | float _ | text _ | list _ | map _ => rfl

namespace Validation

/-- A file has a size, and that is a number. -/
def HasSize (es : Entries Value) (size : WithBotTop ℚ) : Prop :=
  ∃ value, es.get? "size" = some value ∧ value.amount? = some size

theorem hasSize_iff {es : Entries Value} {size : WithBotTop ℚ} :
    HasSize es size ↔ ((es.get? "size").getD .null).amount? = some size := by
  unfold HasSize
  cases es.get? "size" with
  | none => simp [Value.amount?]
  | some value => simp

theorem HasSize.unique {es : Entries Value} {size other : WithBotTop ℚ} (h : HasSize es size)
    (h' : HasSize es other) : size = other :=
  Option.some.inj ((hasSize_iff.mp h).symm.trans (hasSize_iff.mp h'))

namespace FileLimit

/-- The exact limit in bytes; a declared one is a float, which may be no number, and which is
infinite from `2 ^ 1024` bytes on. -/
def exactBytes? : FileLimit → Option (WithBotTop ℚ)
  | declared size => (Decimal.value? size).map (Decimal.times (2 ^ 20))
  | default size => some ↑(size * 2 ^ 20 : ℚ)

/-- The size of a file is above the limit. -/
def IsPassed (l : FileLimit) (es : Entries Value) : Prop :=
  ∃ size limit, HasSize es size ∧ l.exactBytes? = some limit ∧ limit < size

/-- The limit as it is written, and nothing where its digits are too many. -/
def text (l : FileLimit) : String := l.value.display?.getD ""

/-- A number with too many digits to be written names the file, or limits it and is passed. -/
def Unwritten (l : FileLimit) (es : Entries Value) : Prop :=
  (∃ v, IsNamed es v ∧ v.isWritable = false) ∨ l.IsPassed es ∧ l.value.isWritable = false

theorem exactBytes?_eq (l : FileLimit) : l.exactBytes? = l.bytes.amount? := by
  cases l with
  | declared x =>
    have htwice : Decimal.times 1024 ∘ Decimal.times 1024 = Decimal.times (2 ^ 20) := by
      funext a
      rw [Function.comp_apply, Decimal.times_times 1024 (by norm_num)]
      norm_num
    change (Decimal.value? x).map _ = Decimal.value? (x * 1024.0 * 1024.0)
    rw [Decimal.value?_mul_1024, Decimal.value?_mul_1024, Option.map_map, htwice]
  | default n =>
    have hbytes : (n * 2 ^ 20 : ℚ) = (n * 1024 * 1024 : Int) := by
      push_cast
      ring
    change some _ = some _
    rw [hbytes]

theorem isExceededBy_iff (l : FileLimit) (es : Entries Value) :
    l.isExceededBy ((es.get? "size").getD .null) = true ↔ l.IsPassed es := by
  have hpassed : l.IsPassed es ↔ ∃ n size limit,
      ((es.get? "size").getD .null).numeric? = some n ∧ n.amount? = some size ∧
        l.bytes.amount? = some limit ∧ limit < size := by
    simp only [IsPassed, hasSize_iff, Value.amount?_eq, Option.bind_eq_some_iff, exactBytes?_eq]
    grind
  rw [hpassed]
  unfold isExceededBy
  cases ((es.get? "size").getD .null).numeric? with
  | none => simp
  | some size =>
    cases size with
    | whole n =>
      cases l.bytes with
      | whole most => simp [Value.Numeric.amount?]
      | float most => simp [Value.Numeric.amount?, Decimal.compareFloat?_eq, compare_gt_iff_gt]
    | float x =>
      cases l.bytes with
      | whole most => simp [Value.Numeric.amount?, Decimal.compareFloat?_eq, compare_lt_iff_lt]
      | float most =>
        simp only [Value.Numeric.amount?, decide_eq_true_iff, Decimal.lt_iff_value?,
          Option.some.injEq, exists_and_left, exists_eq_left']
        constructor
        · rintro ⟨most, hmost, size, hsize, hless⟩
          exact ⟨size, hsize, most, hmost, hless⟩
        · rintro ⟨size, hsize, most, hmost, hless⟩
          exact ⟨most, hmost, size, hsize, hless⟩

end FileLimit

/-! ## The limit that is in force -/

section Checks

variable (v : Validation) (f : Field) (context : Context)

/-- The limit that the field declares, or that of the settings where it declares none. -/
def declaredLimit : FileLimit :=
  match f.demands.maxFileSize with
  | some size => .declared size
  | none => .default v.settings.maxFileSize

/-- The field declares a limit of zero. -/
def DeclaresZero : Prop :=
  ∃ size, f.demands.maxFileSize = some size ∧ Decimal.value? size = some ↑(0 : ℚ)

open Classical in
/-- The declared limit, but that of the settings where a zero is declared. -/
noncomputable def limitInForce : FileLimit :=
  if DeclaresZero f then .default v.settings.maxFileSize else v.declaredLimit f

theorem fileLimit_eq : v.fileLimit f = v.limitInForce f := by
  unfold fileLimit limitInForce declaredLimit DeclaresZero
  cases f.demands.maxFileSize with
  | none => simp
  | some size =>
    simp only [Option.some.injEq, exists_eq_left', ← Decimal.beq_zero_iff_value?]

/-! ## Complaints -/

open Classical in
/-- What is to be complained of in a file: its type, and then its size. -/
noncomputable def fileComplaints (l : FileLimit) (es : Entries Value) : List Complaint :=
  (if RefusesType f es then [.fileType] else []) ++ if l.IsPassed es then [.fileSize] else []

/-- What is to be complained of in uploaded items, in their order; what is no file is passed
over. -/
noncomputable def uploadComplaints (l : FileLimit) (items : List Value) : List Complaint :=
  items.flatMap fun
    | .map es => fileComplaints f l es
    | _ => []

/-- The error of a complaint about a file. -/
def uploadError (l : FileLimit) (c : Complaint) : FieldError :=
  f.errorAt context v.settings (if c = .fileType then ", ".intercalate (plainTypes f) else l.text) c

theorem complainIf_upload {reason : Bool} {p : Prop} [Decidable p] (hreason : reason = true ↔ p)
    (l : FileLimit) {c : Complaint} (hc : c ≠ .crossField) {limit : Value}
    (hwritten : p → limit.display =
      .ok (if c = .fileType then ", ".intercalate (plainTypes f) else l.text)) :
    v.complainIf reason f c context { limit := limit } =
      .ok ((if p then [c] else []).map (v.uploadError f context l)) := by
  unfold complainIf
  by_cases h : p
  · rw [if_pos h, if_pos (hreason.mpr h), f.complain_limit hc context v.settings (hwritten h)]
    rfl
  · rw [if_neg h, if_neg (mt hreason.mp h)]
    rfl

theorem fileTrips_iff (es : Entries Value) : v.FileTrips f es ↔ (v.fileLimit f).Unwritten es := by
  simp [FileTrips, FileLimit.Unwritten, isNamed_iff, FileLimit.isExceededBy_iff]

theorem fileErrors_eq {es : Entries Value} (hwritten : ¬ (v.fileLimit f).Unwritten es) :
    v.fileErrors f es context =
      .ok ((fileComplaints f (v.fileLimit f) es).map (v.uploadError f context (v.fileLimit f))) := by
  classical
  rw [FileLimit.Unwritten, not_or] at hwritten
  obtain ⟨hnamed, hlimited⟩ := hwritten
  obtain ⟨name, hname⟩ : ∃ name, fileName es = .ok name := by
    rw [fileName, Value.exists_display]
    simpa [isNamed_iff] using hnamed
  have hlimit (hpassed : (v.fileLimit f).IsPassed es) :
      (v.fileLimit f).value.display = .ok (v.fileLimit f).text :=
    Value.display_of_isWritable (by simpa [hpassed] using hlimited)
  unfold fileErrors
  dsimp only
  rw [hname, Work.except_ok_bind,
    v.complainIf_upload f context (refusesType_iff f hname) (v.fileLimit f) (by decide)
      fun _ => by rw [if_pos rfl, Value.display_text],
    v.complainIf_upload f context ((v.fileLimit f).isExceededBy_iff es) (v.fileLimit f) (by decide)
      fun hpassed => by rw [if_neg (by decide), hlimit hpassed],
    fileComplaints, List.map_append]
  rfl

theorem uploadErrors_eq {items : List Value}
    (hwritten : ∀ es, .map es ∈ items → ¬ (v.fileLimit f).Unwritten es) :
    v.uploadErrors f context items = .ok ((uploadComplaints f (v.fileLimit f) items).map
      (v.uploadError f context (v.fileLimit f))) := by
  induction items with
  | nil => rfl
  | cons item rest ih =>
    have hrest := ih fun es hes => hwritten es (List.mem_cons_of_mem _ hes)
    cases item with
    | map es =>
      have hcomplaints : uploadComplaints f (v.fileLimit f) (.map es :: rest) =
          fileComplaints f (v.fileLimit f) es ++ uploadComplaints f (v.fileLimit f) rest := rfl
      rw [uploadErrors, v.fileErrors_eq f context (hwritten es List.mem_cons_self),
        Work.except_ok_bind, hrest, hcomplaints, List.map_append]
      rfl
    | null | bool _ | int _ | float _ | text _ | list _ => exact hrest

theorem kindErrors_of_upload (hupload : f.kind.isUpload = true) (value : Value) :
    v.kindErrors f value context = v.uploadErrors f context value.options := by
  have hnumeric : f.kind.isNumeric = false := by
    revert hupload
    cases f.kind <;> decide
  unfold kindErrors
  rw [hnumeric, hupload]
  rfl

end Checks

/-! ## A declared zero -/

/-- Lists put together of parts are one only if the parts are, where each part of the first is a
part of the other's. -/
theorem flatMap_eq_iff {α β : Type} {part other : α → List β} {l : List α}
    (h : ∀ a ∈ l, (part a).Sublist (other a)) :
    l.flatMap part = l.flatMap other ↔ ∀ a ∈ l, part a = other a := by
  induction l with
  | nil => simp
  | cons a rest ih =>
    have hrest : ∀ b ∈ rest, (part b).Sublist (other b) := fun b hb => h b (.tail a hb)
    have hfirst := h a (.head rest)
    rw [List.forall_mem_cons, ← ih hrest, List.flatMap_cons, List.flatMap_cons]
    constructor
    · intro heq
      have hlengths := congrArg List.length heq
      have hshorter := (List.Sublist.flatMap_right rest hrest).length_le
      have hshort := hfirst.length_le
      simp only [List.length_append] at hlengths
      have hpart : part a = other a := hfirst.eq_of_length (by omega)
      rw [hpart] at heq
      exact ⟨hpart, List.append_cancel_left heq⟩
    · rintro ⟨hpart, hparts⟩
      rw [hpart, hparts]

section Limits

variable (f : Field) {l l' : FileLimit}

theorem fileComplaints_sublist {es : Entries Value} (h : l.IsPassed es → l'.IsPassed es) :
    (fileComplaints f l es).Sublist (fileComplaints f l' es) := by
  unfold fileComplaints
  refine .append (.refl _) ?_
  by_cases hpassed : l.IsPassed es
  · rw [if_pos hpassed, if_pos (h hpassed)]
  · rw [if_neg hpassed]
    exact List.nil_sublist _

theorem fileComplaints_eq_iff {es : Entries Value} :
    fileComplaints f l es = fileComplaints f l' es ↔ (l.IsPassed es ↔ l'.IsPassed es) := by
  unfold fileComplaints
  rw [List.append_cancel_left_eq]
  by_cases h : l.IsPassed es <;> by_cases h' : l'.IsPassed es <;> simp [h, h']

/-- Where all that is above one limit is above another, any file that is above the other alone makes
a difference. -/
theorem uploadComplaints_eq_iff_of_imp (h : ∀ es, l.IsPassed es → l'.IsPassed es)
    (items : List Value) : uploadComplaints f l items = uploadComplaints f l' items ↔
      ∀ es, .map es ∈ items → (l.IsPassed es ↔ l'.IsPassed es) := by
  unfold uploadComplaints
  rw [flatMap_eq_iff]
  · constructor
    · intro hparts es hes
      exact (fileComplaints_eq_iff f).mp (hparts _ hes)
    · intro hagree item hitem
      cases item with
      | map es => exact (fileComplaints_eq_iff f).mpr (hagree es hitem)
      | null | bool _ | int _ | float _ | text _ | list _ => rfl
  · intro item _
    cases item with
    | map es => exact fileComplaints_sublist f (h es)
    | null | bool _ | int _ | float _ | text _ | list _ => exact .refl _

variable {a b : WithBotTop ℚ}

theorem FileLimit.isPassed_iff (ha : l.exactBytes? = some a) (es : Entries Value) :
    l.IsPassed es ↔ ∃ size, HasSize es size ∧ a < size := by
  simp [IsPassed, ha]

theorem FileLimit.isPassed_iff_isPassed (ha : l.exactBytes? = some a)
    (hb : l'.exactBytes? = some b) (es : Entries Value) :
    (l.IsPassed es ↔ l'.IsPassed es) ↔ ∀ size, HasSize es size → (a < size ↔ b < size) := by
  rw [isPassed_iff ha, isPassed_iff hb]
  constructor
  · intro hiff size hsize
    constructor
    · intro hless
      obtain ⟨size', hsize', hless'⟩ := hiff.mp ⟨size, hsize, hless⟩
      rwa [hsize.unique hsize']
    · intro hless
      obtain ⟨size', hsize', hless'⟩ := hiff.mpr ⟨size, hsize, hless⟩
      rwa [hsize.unique hsize']
  · intro hsizes
    exact exists_congr fun size => and_congr_right fun hsize => hsizes size hsize

/-- Two limits that are numbers are told apart by the files whose size lies above one of them and
not above the other. -/
theorem uploadComplaints_eq_iff (ha : l.exactBytes? = some a) (hb : l'.exactBytes? = some b)
    (items : List Value) : uploadComplaints f l items = uploadComplaints f l' items ↔
      ∀ es, .map es ∈ items → ∀ size, HasSize es size → (a < size ↔ b < size) := by
  have hfiles (es : Entries Value) := FileLimit.isPassed_iff_isPassed ha hb es
  rcases le_total a b with hle | hle
  · have himp (es : Entries Value) (hpassed : l'.IsPassed es) : l.IsPassed es := by
      obtain ⟨size, hsize, hless⟩ := (FileLimit.isPassed_iff hb es).mp hpassed
      exact (FileLimit.isPassed_iff ha es).mpr ⟨size, hsize, hle.trans_lt hless⟩
    rw [eq_comm, uploadComplaints_eq_iff_of_imp f himp]
    exact forall₂_congr fun es _ => iff_comm.trans (hfiles es)
  · have himp (es : Entries Value) (hpassed : l.IsPassed es) : l'.IsPassed es := by
      obtain ⟨size, hsize, hless⟩ := (FileLimit.isPassed_iff ha es).mp hpassed
      exact (FileLimit.isPassed_iff hb es).mpr ⟨size, hsize, hle.trans_lt hless⟩
    rw [uploadComplaints_eq_iff_of_imp f himp]
    exact forall₂_congr fun es _ => hfiles es

variable (v : Validation)

/-- The limit that is in force tells from the declared one where a zero is passed over. -/
theorem uploadComplaints_inForce_iff (items : List Value) :
    uploadComplaints f (v.limitInForce f) items = uploadComplaints f (v.declaredLimit f) items ↔
      (DeclaresZero f → ∀ es, .map es ∈ items → ∀ size, HasSize es size →
        (↑(0 : ℚ) < size ↔ ↑(v.settings.maxFileSize * 2 ^ 20 : ℚ) < size)) := by
  by_cases hzero : DeclaresZero f
  · obtain ⟨size, hdeclared, hexact⟩ := id hzero
    have hinForce : v.limitInForce f = .default v.settings.maxFileSize := if_pos hzero
    have hdeclares : v.declaredLimit f = .declared size := by
      rw [declaredLimit, hdeclared]
    have hbytes : (v.declaredLimit f).exactBytes? = some ↑(0 : ℚ) := by
      rw [hdeclares, FileLimit.exactBytes?, hexact, Option.map_some, Decimal.times_zero]
    simp only [hzero, forall_const]
    rw [hinForce, eq_comm]
    exact uploadComplaints_eq_iff f hbytes rfl items
  · have hinForce : v.limitInForce f = v.declaredLimit f := if_neg hzero
    simp [hinForce, hzero]

variable {f} (hupload : f.kind.isUpload = true) (context : Context) (value : Value)

include hupload in
theorem exists_kindErrors_iff : (∃ errors, v.kindErrors f value context = .ok errors) ↔
    ∀ es, .map es ∈ value.options → ¬ (v.limitInForce f).Unwritten es := by
  rw [v.kindErrors_of_upload f context hupload, (v.uploadErrors_failsBy f context _).exists_ok_iff,
    ← v.fileLimit_eq]
  simp only [fileTrips_iff, not_and, forall_exists_index]
  constructor
  · intro hnever es hes hlong
    exact hnever _ es ⟨hes, hlong⟩ rfl
  · rintro hwritten _ es ⟨hes, hlong⟩
    exact absurd hlong (hwritten es hes)

include hupload in
theorem kindErrors_eq {errors : List FieldError}
    (h : v.kindErrors f value context = .ok errors) :
    errors = (uploadComplaints f (v.limitInForce f) value.options).map
      (v.uploadError f context (v.limitInForce f)) := by
  have hwritten := (v.exists_kindErrors_iff hupload context value).mp ⟨errors, h⟩
  rw [← v.fileLimit_eq] at hwritten
  rw [v.kindErrors_of_upload f context hupload, v.uploadErrors_eq f context hwritten,
    v.fileLimit_eq] at h
  exact (Except.ok.inj h).symm

theorem map_code_uploadError (l : FileLimit) (cs : List Complaint) :
    (cs.map (v.uploadError f context l)).map (·.code) = cs.map Complaint.name := by
  rw [List.map_map]
  rfl

end Limits

/-- The check of uploaded files complains of each one, in their order, first of its type and then of
its size, and of nothing else; it fails only for numbers that it has to write and cannot. It keeps to
the limit that is declared, unless that is zero and the size of a file lies between zero and the
limit of the settings. -/
theorem limits_enforced_iff (v : Validation) {f : Field} (hupload : f.kind.isUpload = true)
    (value : Value) (context : Context) :
    ((∃ errors, v.kindErrors f value context = .ok errors) ↔
      ∀ es, .map es ∈ value.options → ¬ (v.limitInForce f).Unwritten es) ∧
    ∀ errors, v.kindErrors f value context = .ok errors →
      errors = (uploadComplaints f (v.limitInForce f) value.options).map
        (v.uploadError f context (v.limitInForce f)) ∧
      (errors.map (·.code) =
          (uploadComplaints f (v.declaredLimit f) value.options).map Complaint.name ↔
        (DeclaresZero f → ∀ es, .map es ∈ value.options → ∀ size, HasSize es size →
          (↑(0 : ℚ) < size ↔ ↑(v.settings.maxFileSize * 2 ^ 20 : ℚ) < size))) := by
  refine ⟨v.exists_kindErrors_iff hupload context value, fun errors hfound => ?_⟩
  have hexact := v.kindErrors_eq hupload context value hfound
  refine ⟨hexact, ?_⟩
  rw [hexact, v.map_code_uploadError, (List.map_injective_iff.mpr Complaint.name_injective).eq_iff]
  exact uploadComplaints_inForce_iff f v value.options

/-! Four items in a field for documents of half a megabyte at most: one is too large, one is no file,
one is of another type and has a truth value for its size, and one has no name and half a byte too
much. -/

namespace Receipts

def field : Field :=
  { id := "receipts", kind := .multiFile
    demands := { fileTypes := ["PDF", "..png"], maxFileSize := some 0.5 } }

def answer : Value :=
  .list [.map [("name", .text "Scan.PDF"), ("size", .int 524289)], .null,
    .map [("name", .text ""), ("filename", .text "all.png.gz"), ("size", .bool true)],
    .map [("size", .float 524288.5)]]

def context : Context := .ofNow ⟨0, Calendar.zero_lt_microCount⟩

def codes : List String := ["file_size", "file_type", "file_type", "file_size"]

theorem codes_found :
    (kindErrors {} field answer context).map (·.map (·.code)) = .ok codes := rfl

theorem not_declaresZero : ¬ DeclaresZero field := by
  rintro ⟨size, hdeclared, hexact⟩
  cases hdeclared
  have hzero := (Decimal.beq_zero_iff_value? _).mpr hexact
  revert hzero
  decide

end Receipts

open Receipts in
/-- The declared limit is kept to. -/
theorem limits_enforced_iff_receipts :
    field.kind.isUpload = true ∧ ∃ errors, kindErrors {} field answer context = .ok errors ∧
      errors = (uploadComplaints field (limitInForce {} field) answer.options).map
        (uploadError {} field context (limitInForce {} field)) ∧
      errors.map (·.code) = codes ∧
      (uploadComplaints field (declaredLimit {} field) answer.options).map Complaint.name =
        codes := by
  have hread := codes_found
  cases hfound : kindErrors {} field answer context with
  | error e =>
    rw [hfound] at hread
    cases hread
  | ok errors =>
    have hcodes : errors.map (·.code) = codes := by
      rw [hfound] at hread
      exact Except.ok.inj hread
    obtain ⟨hinForce, hdeclared⟩ :=
      (limits_enforced_iff {} (f := field) rfl answer context).2 errors hfound
    have hkept := hdeclared.mpr fun hzero => absurd hzero not_declaresZero
    exact ⟨rfl, errors, rfl, hinForce, hcodes, hkept ▸ hcodes⟩

/-! A field declares that its files are empty, and a file of one byte passes. -/

namespace Receipt

def field : Field := { id := "receipt", kind := .file, demands := { maxFileSize := some 0.0 } }

def file : Entries Value := [("name", .text "scan.pdf"), ("size", .int 1)]

def context : Context := .ofNow ⟨0, Calendar.zero_lt_microCount⟩

theorem kindErrors_file : kindErrors {} field (.list [.map file]) context = .ok [] := rfl

theorem file_passes : (declaredLimit {} field).IsPassed file := by
  refine ⟨(1 : ℚ), (0 : ℚ), ⟨.int 1, rfl, by simp [Value.amount?]⟩, ?_, ?_⟩
  · change (Decimal.value? 0.0).map _ = _
    rw [Decimal.value?_zero, Option.map_some, Decimal.times_zero]
  · norm_num

end Receipt

open Receipt in
/-- The limit that a field declares is not always kept to. -/
theorem Receipt.not_always_enforced :
    ¬ ∀ (v : Validation) (f : Field) (value : Value) (context : Context) (errors : List FieldError),
      f.kind.isUpload = true → v.kindErrors f value context = .ok errors →
        errors.map (·.code) =
          (uploadComplaints f (v.declaredLimit f) value.options).map Complaint.name := by
  intro always
  have hcodes := always {} field (.list [.map file]) context [] rfl kindErrors_file
  have hcomplaint : Complaint.fileSize ∈
      uploadComplaints field (declaredLimit {} field) [.map file] := by
    simp [uploadComplaints, fileComplaints, file_passes]
  have hnone := List.map_eq_nil_iff.mp hcodes.symm
  exact absurd (hnone ▸ hcomplaint) List.not_mem_nil

end Validation
end Formwork
