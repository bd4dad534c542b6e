import Formwork.Condition.Operand
import Formwork.Condition.Document
import Formwork.Data.Distinct
/-!
Whether conditions hold in a context. A condition on an unknown field does not hold, nor does one
with a side that cannot be read as the declared type, whichever way it asks. Numbers and instants
beyond what can be held are failures, and so are values that a message or a comparison asks to write
and that have no text.
-/
namespace Formwork

open Calendar

/-! ## The left side -/

/-- What a path names about a user: an own part, or an attribute. -/
def User.atPath (u : User) (path : String) : Value :=
  if path = "id" then .text u.id
  else if path = "name" then Value.ofText? u.name
  else if path = "roles" then Value.ofTexts u.roles
  else if Value.headOfPath path = "attributes" then
    Value.atPath u.attributes (String.ofList (path.toList.drop "attributes.".length))
  else Value.atPath u.attributes path

namespace Context

def userAtPath (c : Context) (path : String) : Value :=
  match c.user with
  | none => .null
  | some u => u.atPath path

def operand (c : Context) (source : Source) (path : String) : Operand :=
  match source with
  | .field => .value (Value.atPath c.data path)
  | .userRole => .value (Value.ofTexts ((c.user.map User.roles).getD []))
  | .userAttribute => .value (c.userAtPath path)
  | .submissionStatus => .value (Document.ofOption Document.ofNamed c.submission.status)
  | .time => .moment c.now

end Context

/-! ## Comparisons -/

namespace Operand

/-- Two sides are equal if both are empty, or both say the same as the declared type; where that is
open, as values or as numbers. -/
def equals (host : Host) (type : ValueType) (left : Operand) (right : Value) : Reading Bool :=
  if left.isEmpty || right.isEmpty then pure (left.isEmpty && right.isEmpty)
  else
    match type with
    | .auto =>
      if left.same right then pure true
      else OptionT.mk do
        match ← left.number?, ← right.number? with
        | some x, some y => pure (some (x == y))
        | _, _ => pure (some false)
    | type => do
      let a ← left.readAs host type
      let b ← readAs host type (value right)
      pure (a.order? b == some .eq)

/-- Both sides as things of one kind that has an order: numbers if both are, instants if both are,
and texts otherwise. -/
def alike (host : Host) (left : Operand) (right : Value) : Reading (Comparable × Comparable) :=
  OptionT.mk do
    match ← left.number?, ← right.number? with
    | some x, some y => pure (some (.number x, .number y))
    | _, _ =>
      match ← left.instant? host.clock, ← right.instant? host.clock with
      | some i, some j => pure (some (.instant i, .instant j))
      | _, _ => pure (some (.text (← left.display), .text (← right.display)))

/-- Whether the order of the two sides satisfies a test; empty sides have no order. -/
def ordered (host : Host) (type : ValueType) (test : Ordering → Bool) (left : Operand)
    (right : Value) : Reading Bool :=
  if left.isEmpty || right.isEmpty then pure false
  else do
    let (a, b) ←
      match type with
      | .auto => left.alike host right
      | type => do pure (← left.readAs host type, ← readAs host type (value right))
    pure ((a.order? b).any test)

/-- Whether a text stands somewhere in another. -/
def hasPart (part : List Char) : List Char → Bool
  | [] => part.isEmpty
  | c :: rest => part.isPrefixOf (c :: rest) || hasPart part rest

/-- A list contains its members, anything else the parts of its text in whatever case. -/
def contains (left : Operand) (item : Value) : Except Failure Bool :=
  if left.isEmpty then pure false
  else
    match left with
    | value (.list items) => pure (item.isIn items)
    | _ => do
      let part ← item.display
      let whole ← left.display
      pure (hasPart (Text.lower part).toList (Text.lower whole).toList)

/-- Whether the text of a side and that of a value pass a test in whatever case. -/
def comparesTexts (test : List Char → List Char → Bool) (left : Operand) (right : Value) :
    Except Failure Bool :=
  if left.isEmpty then pure false
  else do
    let whole ← left.display
    let part ← right.display
    pure (test (Text.lower part).toList (Text.lower whole).toList)

def startsWith : Operand → Value → Except Failure Bool := comparesTexts List.isPrefixOf

def endsWith : Operand → Value → Except Failure Bool := comparesTexts List.isSuffixOf

/-- Whether a side equals one of the options; the first that it equals settles it. -/
def equalsAny (host : Host) (type : ValueType) (left : Operand) : List Value → Reading Bool
  | [] => pure false
  | option :: rest => do
    if ← left.equals host type option then pure true else equalsAny host type left rest

end Operand

namespace Value

mutual

/-- Whether a value is among the options; of a list, whether one of its items is. -/
def isAmong (host : Host) (type : ValueType) (options : List Value) : Value → Reading Bool
  | list items => anyAmong host type options items
  | v => Operand.equalsAny host type (.value v) options
termination_by structural v => v

def anyAmong (host : Host) (type : ValueType) (options : List Value) : List Value → Reading Bool
  | [] => pure false
  | v :: rest => do
    if ← isAmong host type options v then pure true else anyAmong host type options rest
termination_by structural vs => vs

end

/-- The options that a value lists; a value that is no list is the only option. -/
def options : Value → List Value
  | list items => items
  | v => [v]

end Value

namespace Operand

def isAmong (host : Host) (type : ValueType) (left : Operand) (options : List Value) :
    Reading Bool :=
  match left with
  | value v => v.isAmong host type options
  | moment _ => left.equalsAny host type options

/-- Whether a pattern is found in the text of a side; one with a fault has no answer. -/
def matchesPattern (host : Host) (left : Operand) (pattern : Value) : Reading Bool :=
  if left.isEmpty then pure false
  else do
    let pattern ← pattern.display
    let subject ← left.display
    match Pattern.read host pattern with
    | .ok node => pure (node.isIn subject)
    | .error (.breach breach) => OptionT.mk (.error (.pattern breach))
    | .error _ => OptionT.mk (.ok none)

/-- The comparison that an operator makes. -/
def compareBy (host : Host) (operator : Operator) (type : ValueType) (left : Operand)
    (right : Value) : Reading Bool :=
  match operator with
  | .isEmpty => pure left.isEmpty
  | .isNotEmpty => pure !left.isEmpty
  | .equals => left.equals host type right
  | .notEquals => do pure !(← left.equals host type right)
  | .contains => left.contains right
  | .notContains => do pure !(← left.contains right)
  | .startsWith => left.startsWith right
  | .endsWith => left.endsWith right
  | .greaterThan => left.ordered host type (· == .gt) right
  | .lessThan => left.ordered host type (· == .lt) right
  | .greaterOrEqual => left.ordered host type (· != .lt) right
  | .lessOrEqual => left.ordered host type (· != .gt) right
  | .between =>
    match right with
    | .list [low, high] => do
      if ← left.ordered host type (· != .lt) low then left.ordered host type (· != .gt) high
      else pure false
    | _ => pure false
  | .isIn => left.isAmong host type right.options
  | .isNotIn => do pure !(← left.isAmong host type right.options)
  | .matchesPattern => left.matchesPattern host right

end Operand

/-! ## Conditions and groups -/

namespace Condition

def isKnown (c : Condition) (context : Context) : Bool :=
  c.source != .field || context.knows (Value.headOfPath c.field)

/-- The type as which both sides are read; the time is compared with dates unless said otherwise. -/
def effectiveType (c : Condition) : ValueType :=
  if c.source = .time ∧ c.valueType = .auto then .date else c.valueType

/-- The comparison that the condition asks for. -/
def compared (c : Condition) (context : Context) : Reading Bool :=
  (context.operand c.source c.field).compareBy context.host c.operator c.effectiveType c.value

/-- Whether the condition holds. What cannot be read makes it false; where the comparison has a
result, it is noted with the value of the condition. -/
def holds (c : Condition) (context : Context) : Except Failure Bool :=
  if c.isKnown context then do
    match ← (c.compared context).run with
    | some result => do
      let _ ← c.value.literal
      pure result
    | none => pure false
  else .ok false

end Condition

mutual

def Node.holds (context : Context) : Node → Except Failure Bool
  | .leaf c => c.holds context
  | .group logic nodes => if nodes.isEmpty then .ok true else Node.combined logic context nodes
termination_by structural n => n

/-- The members one after another, up to the first that settles the answer. -/
def Node.combined (logic : Logic) (context : Context) : List Node → Except Failure Bool
  | [] => .ok (logic = .all)
  | n :: rest => do
    let b ← n.holds context
    if b = (logic = .any) then pure b else Node.combined logic context rest
termination_by structural ns => ns

end

/-- Whether a group holds; one without members does. -/
def Group.holds (g : Group) (context : Context) : Except Failure Bool := g.node.holds context

/-- A group that is left out holds. -/
def Group.holds? (g : Option Group) (context : Context) : Except Failure Bool :=
  match g with
  | none => .ok true
  | some g => g.holds context

/-! ## Fields that are read -/

mutual

def Node.fields : Node → List String
  | .leaf c => if c.source = .field then [Value.headOfPath c.field] else []
  | .group _ nodes => Node.allFields nodes
termination_by structural n => n

def Node.allFields : List Node → List String
  | [] => []
  | n :: rest => n.fields ++ Node.allFields rest
termination_by structural ns => ns

end

/-- The data fields that a group reads, in ascending order. -/
def Group.fieldNames (g : Group) : List String := ascending (distinct g.node.fields)

/-! ## References in values -/

def isPathChar (c : Char) : Bool := c.isAlphanum || c = '_' || c = '.' || c = '-'

/-- The path in braces that makes up a text, up to a line end behind them. -/
def reference? (s : String) : Option String :=
  match s.toList with
  | '\x7b' :: rest =>
    let path := rest.takeWhile isPathChar
    let after := rest.drop path.length
    if !path.isEmpty ∧ (after = ['\x7d'] ∨ after = ['\x7d', '\n']) then some (String.ofList path)
    else none
  | _ => none

/-- A value with a reference to a field or to the user replaced by what it refers to. -/
def Context.resolve (c : Context) (v : Value) : Value :=
  match v with
  | .text s =>
    let mark := "$user.".toList
    if mark.isPrefixOf s.toList then c.userAtPath (String.ofList (s.toList.drop mark.length))
    else
      match reference? s with
      | some path => Value.atPath c.data path
      | none => v
  | _ => v

end Formwork
