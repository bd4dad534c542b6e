import Formwork.Pattern.Escape
import Formwork.Text.Letter
import Formwork.Text.Mark
/-!
Reading patterns. The reader goes through a pattern once, with one token ahead; flags at its very
start hold for the whole of it. A pattern that cannot be read has a fault at one place, and what is
read later is not looked at. Groups may be inside one another as long as the machine has room.
-/
namespace Formwork.Pattern

open Formwork.Decimal (isAsciiDigit digitsValue takeSign asciiDigits joinDigits?)

structure ReaderState where
  cursor : Cursor
  flags : Flags
  /-- The groups opened so far; the first one is the whole pattern. -/
  groups : Groups
  names : List (String × Nat)
  /-- While looking behind, the number of groups in front of it. -/
  lookBehind : Option Nat
  /-- Groups that conditions ask for, with their places. -/
  asked : List (Nat × Nat)

/-- Reading moves the state and may meet a fault. -/
abbrev Read (α : Type) := ReaderState → Except Fault (α × ReaderState)

namespace Read
variable {α β : Type}

instance : Monad Read where
  pure a := fun s => .ok (a, s)
  bind r f := fun s =>
    match r s with
    | .ok (a, s) => f a s
    | .error e => .error e

def get : Read ReaderState := fun s => .ok (s, s)

def modify (f : ReaderState → ReaderState) : Read Unit := fun s => .ok ((), f s)

def cursor : Read Cursor := fun s => .ok (s.cursor, s)

def setCursor (c : Cursor) : Read Unit := modify fun s => { s with cursor := c }

/-- Let the cursor take a step of its own. -/
def step (f : Cursor → Except Fault (α × Cursor)) : Read α := fun s =>
  match f s.cursor with
  | .ok (a, c) => .ok (a, { s with cursor := c })
  | .error e => .error e

/-- Take the token ahead. -/
def take : Read (List Char) := step fun c => do
  pure (c.next, ← c.advance)

/-- Pass a character if it is ahead. -/
def pass (x : Char) : Read Bool := step fun c =>
  if c.sees x then do pure (true, ← c.advance) else .ok (false, c)

/-- A complaint about the place `back` characters in front of the token ahead. -/
def complain (complaint : Complaint) (back : Nat := 0) : Read α := fun s =>
  s.cursor.complain complaint back

/-- A complaint about a place. -/
def complainAt (complaint : Complaint) (place : Nat) : Read α := fun _ =>
  .error (.bad complaint place)

def fail (fault : Fault) : Read α := fun _ => .error fault

end Read

open Read

def isNameStart (c : Char) : Bool := c = '_' || Text.isLetter c

def isName (name : String) : Bool :=
  match name.toList with
  | [] => false
  | c :: rest => isNameStart c && rest.all fun x => Text.isWord x || Text.isMark x

/-- A group name up to its terminator. -/
def groupName (terminator : Char) : Read String := do
  let name ← step fun c => c.takeUntil terminator "group name" (c.left + 1) []
  if isName name then pure name
  else complain (.badGroupName name) (name.length + 1)

/-! ## Sets -/

/-- One end of a range, or a member by itself. -/
def setMember (host : Host) (flags : Flags) (token : List Char) : Read Member :=
  match token with
  | ['\\', x] => step (setEscape host flags x)
  | c :: _ => pure (.char c.toNat)
  | [] => pure (.char 0)

/-- The members of a set up to its bracket; `start` is the place behind the opening one. -/
def setMembers (host : Host) (flags : Flags) (start : Nat) : Nat → List Member → Read (List Member)
  | 0, _ => complainAt .unterminatedSet start
  | fuel + 1, members => do
    let token ← take
    if token.isEmpty then complainAt .unterminatedSet start
    else if token = [']'] ∧ !members.isEmpty then pure members.reverse
    else
      let first ← setMember host flags token
      if ← pass '-' then
        let other ← take
        if other.isEmpty then complainAt .unterminatedSet start
        else if other = [']'] then pure (.char '-'.toNat :: first :: members).reverse
        else
          let last ← setMember host flags other
          let bad : Read (List Member) :=
            complain (.badRange (String.ofList token) (String.ofList other))
              (token.length + 1 + other.length)
          match first, last with
          | .char a, .char b =>
            if b < a then bad else setMembers host flags start fuel (.range a b :: members)
          | _, _ => bad
      else setMembers host flags start fuel (first :: members)

/-- A set behind its opening bracket. -/
def charSet (host : Host) (flags : Flags) : Read Node := do
  let start := (← cursor).place - 1
  let negated ← pass '^'
  let members ← setMembers host flags start ((← cursor).left + 1) []
  match members with
  | [.char c] => pure (.char (charTest c flags.fold negated))
  | _ => pure (.char (setTest members flags.fold negated))

/-! ## Repetition -/

/-- The greatest number of repetitions. -/
def repetitionLimit : Nat := Nat.pow 2 32 - 1

def bound (digits : List Char) : Read (Option Nat) :=
  if digits.isEmpty then pure none
  else if Text.digitLimit < digits.length then fail (.breach (.tooManyDigits digits.length))
  else
    let n := digitsValue 0 digits
    if repetitionLimit ≤ n then fail (.breach .tooManyRepetitions) else pure (some n)

/-- The bounds in braces, or nothing where the brace stands for itself. -/
def braces : Read (Option (Nat × Option Nat)) := do
  let before ← cursor
  if before.sees '\x7d' then pure none
  else
    let low ← step fun c => c.takeUpTo isAsciiDigit (c.left + 1)
    let high ←
      if ← pass ',' then step fun c => c.takeUpTo isAsciiDigit (c.left + 1) else pure low
    if ← pass '\x7d' then
      let least := (← bound low).getD 0
      let most ← bound high
      match most with
      | some n =>
        if n < least then complainAt .repeatBounds before.place else pure (some (least, most))
      | none => pure (some (least, none))
    else
      setCursor before
      pure none

/-- The bounds that a quantifier asks for. -/
def bounds (quantifier : Char) : Read (Option (Nat × Option Nat)) :=
  if quantifier = '?' then pure (some (0, some 1))
  else if quantifier = '*' then pure (some (0, none))
  else if quantifier = '+' then pure (some (1, none))
  else braces

/-- How eagerly a quantifier takes, which a character behind it may say. -/
def greed : Read Greed := do
  if ← pass '?' then pure .lazy
  else if ← pass '+' then pure .possessive
  else pure .greedy

/-- Put a quantifier, which stands at a place, on the part in front of it. -/
def quantify (place : Nat) (least : Nat) (most : Option Nat) (part : Option Node) : Read Node :=
  match part with
  | none => complainAt .nothingToRepeat place
  | some (.anchor _) => complainAt .nothingToRepeat place
  | some (.repeated ..) => complainAt .multipleRepeat place
  | some node => do
    let greed ← greed
    pure (.repeated least most greed node)

/-! ## Flags -/

inductive Flag where
  | ignoreCase
  | locale
  | manyLines
  | dotAll
  | spaced
  | ascii
  | template
  | full
  deriving DecidableEq

def flag? : List Char → Option Flag
  | ['i'] => some .ignoreCase
  | ['L'] => some .locale
  | ['m'] => some .manyLines
  | ['s'] => some .dotAll
  | ['x'] => some .spaced
  | ['a'] => some .ascii
  | ['t'] => some .template
  | ['u'] => some .full
  | _ => none

def Flags.set (f : Flags) (value : Bool) : Flag → Flags
  | .ignoreCase => { f with ignoreCase := value }
  | .manyLines => { f with manyLines := value }
  | .dotAll => { f with dotAll := value }
  | .spaced => { f with spaced := value }
  | .ascii => { f with ascii := value }
  | .template => { f with template := value }
  | .full => { f with full := value }
  | .locale => f

/-- The flags of the whole pattern with further ones. -/
def Flags.join (f g : Flags) : Flags where
  ignoreCase := f.ignoreCase || g.ignoreCase
  manyLines := f.manyLines || g.manyLines
  dotAll := f.dotAll || g.dotAll
  spaced := f.spaced || g.spaced
  ascii := f.ascii || g.ascii
  template := f.template || g.template
  full := f.full || g.full

/-- The flags with those of a part turned on and off. -/
def Flags.with (f on off : Flags) : Flags where
  ignoreCase := (f.ignoreCase || on.ignoreCase) && !off.ignoreCase
  manyLines := (f.manyLines || on.manyLines) && !off.manyLines
  dotAll := (f.dotAll || on.dotAll) && !off.dotAll
  spaced := (f.spaced || on.spaced) && !off.spaced
  ascii := (f.ascii && !on.full) || on.ascii
  template := f.template || on.template
  full := (f.full && !on.ascii) || on.full

def Flags.meets (f g : Flags) : Bool :=
  (f.ignoreCase && g.ignoreCase) || (f.manyLines && g.manyLines) || (f.dotAll && g.dotAll) ||
    (f.spaced && g.spaced)

def startsWithLetter (token : List Char) : Bool := (token.head?.map Text.isLetter).getD false

/-- Flags to turn on, from the one given; the token that ends them is returned too. -/
def flagsOn : Nat → Flags → Flag → Read (Flags × List Char)
  | 0, f, _ => pure (f, [])
  | fuel + 1, f, flag => do
    if flag = .locale then complain .localeFlag
    else
      let f := f.set true flag
      if f.ascii ∧ f.full then complain .mixedFlags
      else
        let token ← take
        if token.isEmpty then complain .flagsEnd
        else if token = [')'] ∨ token = ['-'] ∨ token = [':'] then pure (f, token)
        else
          match flag? token with
          | some flag => flagsOn fuel f flag
          | none =>
            complain (if startsWithLetter token then .unknownFlag else .flagsEnd) token.length

/-- Flags to turn off, from the one given, up to a colon. -/
def flagsOff : Nat → Flags → Flag → Read Flags
  | 0, f, _ => pure f
  | fuel + 1, f, flag => do
    if flag = .locale ∨ flag = .ascii ∨ flag = .full then complain .charsetFlagOff
    else
      let f := f.set true flag
      let token ← take
      if token.isEmpty then complain .missingColon
      else if token = [':'] then pure f
      else
        match flag? token with
        | some flag => flagsOff fuel f flag
        | none =>
          complain (if startsWithLetter token then .unknownFlag else .missingColon) token.length

/-- Flags behind a question mark: those of the whole pattern, or those of a part with what it turns
on and off. -/
def flagGroup (token : List Char) : Read (Option (Flags × Flags)) := do
  let fuel := (← cursor).left + 1
  let (on, ending) ←
    match flag? token with
    | some flag => flagsOn fuel {} flag
    | none => pure ({}, token)
  if ending = [')'] then
    modify fun s => { s with flags := s.flags.join on }
    pure none
  else if on.template then complain .globalFlagOn 1
  else
    let off ←
      if ending = ['-'] then do
        let token ← take
        if token.isEmpty then complain .missingFlag
        else
          match flag? token with
          | some flag => flagsOff fuel {} flag
          | none =>
            complain (if startsWithLetter token then .unknownFlag else .missingFlag) token.length
      else pure {}
    if off.template then complain .globalFlagOff 1
    else if on.meets off then complain .flagOnAndOff 1
    else pure (some (on, off))

/-! ## Groups -/

/-- Open a group, under a name if it has one. -/
def openGroup (name : Option String) : Read Nat := do
  let s ← get
  let number := s.groups.length
  match name with
  | none => modify fun s => { s with groups := s.groups ++ [none] }
  | some n =>
    match s.names.lookup n with
    | some earlier => complain (.repeatedGroupName n number earlier) (n.length + 1)
    | none =>
      modify fun s => { s with groups := s.groups ++ [none], names := s.names ++ [(n, number)] }
  pure number

def groupWidths (groups : Groups) (number : Nat) : Nat × Nat :=
  match groups[number]? with
  | some (some w) => w
  | _ => (0, 0)

def closeGroup (number : Nat) (body : Node) : Read Unit :=
  modify fun s => { s with groups := s.groups.set number (some (body.width (groupWidths s.groups))) }

def checkReference (number back : Nat) : Read Unit := fun s =>
  match checkGroup s.groups s.lookBehind number s.cursor back with
  | .ok () => .ok ((), s)
  | .error e => .error e

/-- The whole number that a word spells, with blanks around it, a sign in front, and low lines
between its digits. -/
def wholeNumber? (word : String) : Option Int := do
  let (negative, digits) := takeSign (asciiDigits (Text.trimBy Text.isWhiteSpace word.toList))
  let digits ← joinDigits? none digits
  if digits.isEmpty ∨ !digits.all isAsciiDigit ∨ Text.digitLimit < digits.length then none
  else
    let n : Int := digitsValue 0 digits
    pure (if negative then -n else n)

/-- The numbers of groups lie below this. -/
def groupLimit : Nat := 1073741823

/-- A group given by its number or name in a condition, behind which the cursor stands. -/
def conditionGroup : Read Nat := do
  let name ← step fun c => c.takeUntil ')' "group name" (c.left + 1) []
  let back := name.length + 1
  let s ← get
  let number ←
    if isName name then
      match s.names.lookup name with
      | some n => pure n
      | none => complain (.unknownGroupName name) back
    else
      match wholeNumber? name with
      | none | some (.negSucc _) => complain (.badGroupName name) back
      | some (.ofNat n) =>
        if n = 0 then complain .badGroupNumber back
        else if groupLimit ≤ n then complain (.unknownGroup n) back
        else do
          let place := s.cursor.place - back
          modify fun s =>
            if (s.asked.lookup n).isSome then s else { s with asked := s.asked ++ [(n, place)] }
          pure n
  match s.lookBehind with
  | none => pure ()
  | some _ => checkReference number 0
  pure number

/-- Skip a comment up to its bracket. -/
def skipComment (start : Nat) : Nat → Read Unit
  | 0 => complainAt .unterminatedComment start
  | fuel + 1 => do
    if (← cursor).isEnd then complainAt .unterminatedComment start
    else if (← take) = [')'] then pure ()
    else skipComment start fuel

/-- Skip to the end of the line. -/
def skipLine : Nat → Read Unit
  | 0 => pure ()
  | fuel + 1 => do
    let token ← take
    if token.isEmpty ∨ token = ['\n'] then pure () else skipLine fuel

/-- What the characters behind an opening bracket say about a group. -/
inductive Opening where
  /-- A part that is read up to the bracket that closes it. -/
  | part (number : Option Nat) (atomic : Bool) (flags : Flags)
  | look (behind negated : Bool)
  | conditional (number : Nat)
  | reference (number : Nat)
  | nothing
  /-- Flags that hold for the whole pattern. -/
  | wholeFlags

/-- A group that belongs to the extension with a capital letter: named, or a named reference. -/
def namedOpening (flags : Flags) : Read Opening := do
  if ← pass '<' then
    let name ← groupName '>'
    let number ← openGroup (some name)
    pure (.part (some number) false flags)
  else if ← pass '=' then
    let name ← groupName ')'
    match (← get).names.lookup name with
    | none => complain (.unknownGroupName name) (name.length + 1)
    | some number => do
      checkReference number (name.length + 1)
      pure (.reference number)
  else
    let token ← take
    if token.isEmpty then complain .unexpectedEnd
    else complain (.unknownExtension ("?P" ++ String.ofList token)) (token.length + 2)

/-- Read what stands behind an opening bracket at a place. -/
def opening (flags : Flags) (start : Nat) : Read Opening := do
  if ← pass '?' then
    let token ← take
    if token.isEmpty then complain .unexpectedEnd
    else if token = ['P'] then namedOpening flags
    else if token = [':'] then pure (.part none false flags)
    else if token = ['#'] then do
      skipComment start ((← cursor).left + 1)
      pure .nothing
    else if token = ['='] then pure (.look false false)
    else if token = ['!'] then pure (.look false true)
    else if token = ['<'] then
      let token ← take
      if token.isEmpty then complain .unexpectedEnd
      else if token = ['='] then pure (.look true false)
      else if token = ['!'] then pure (.look true true)
      else complain (.unknownExtension ("?<" ++ String.ofList token)) (token.length + 2)
    else if token = ['('] then do
      let number ← conditionGroup
      pure (.conditional number)
    else if token = ['>'] then pure (.part none true flags)
    else if (flag? token).isSome ∨ token = ['-'] then
      match ← flagGroup token with
      | none => pure .wholeFlags
      | some (on, off) => pure (.part none false (flags.with on off))
    else complain (.unknownExtension ("?" ++ String.ofList token)) (token.length + 1)
  else
    let number ← openGroup none
    pure (.part (some number) false flags)

def closing (start : Nat) : Read Unit := do
  if ← pass ')' then pure () else complainAt .unterminatedGroup start

/-- The parts in their order as one node. -/
def joined : List Node → Node
  | [] => .empty
  | [node] => node
  | node :: rest => .seq node (joined rest)

def isPatternSpace (c : Char) : Bool := c = ' ' || (9 ≤ c.toNat && c.toNat ≤ 13)

def quantifiers : List Char := ['*', '+', '?', '\x7b']

mutual

/-- Alternatives up to a closing bracket or the end. Each step takes a token, so that as much fuel
as there are tokens is enough. A group asks for two calls, its own and that of an alternative. -/
def alternatives (host : Host) (fuel room : Nat) (top : Bool) (flags : Flags) : Read Node :=
  match fuel with
  | 0 => pure .empty
  | fuel + 1 =>
    if room < 2 then fail (.breach .tooDeep)
    else do
      let first ← parts host fuel (room - 2) top top flags []
      if ← pass '|' then
        let s ← get
        let flags := if top then s.flags else flags
        let rest ← otherAlternatives host fuel (room - 2) top flags
        pure (.choice first rest)
      else pure first
termination_by structural fuel

def otherAlternatives (host : Host) (fuel room : Nat) (top : Bool) (flags : Flags) : Read Node :=
  match fuel with
  | 0 => pure .empty
  | fuel + 1 => do
    let first ← parts host fuel room top false flags []
    if ← pass '|' then
      let rest ← otherAlternatives host fuel room top flags
      pure (.choice first rest)
    else pure first
termination_by structural fuel

/-- One branch of a condition, which is read by a single call. -/
def branch (host : Host) (fuel room : Nat) (flags : Flags) : Read Node :=
  match fuel with
  | 0 => pure .empty
  | fuel + 1 =>
    if room < 1 then fail (.breach .tooDeep)
    else parts host fuel (room - 1) false false flags []
termination_by structural fuel

/-- The parts of one alternative, after those already read, latest first. -/
def parts (host : Host) (fuel room : Nat) (top first : Bool) (flags : Flags) (read : List Node) :
    Read Node :=
  match fuel with
  | 0 => pure (joined read.reverse)
  | fuel + 1 => do
    let c ← cursor
    if c.isEnd ∨ c.sees '|' ∨ c.sees ')' then pure (joined read.reverse)
    else
      let token ← take
      let add (node : Node) : Read Node :=
        parts host fuel room top first flags (node :: read)
      match token with
      | ['\\', x] => do
        let s ← get
        let node ← step (escape host flags s.groups s.lookBehind x)
        add node
      | [x] =>
        if flags.spaced ∧ isPatternSpace x then parts host fuel room top first flags read
        else if flags.spaced ∧ x = '#' then do
          skipLine ((← cursor).left + 1)
          parts host fuel room top first flags read
        else if x = '[' then do add (← charSet host flags)
        else if x ∈ quantifiers then do
          match ← bounds x with
          | none => add (.char (charTest x.toNat flags.fold false))
          | some (least, most) => do
            let node ← quantify c.place least most read.head?
            parts host fuel room top first flags (node :: read.drop 1)
        else if x = '.' then add (.char (.any flags.dotAll))
        else if x = '^' then add (.anchor (if flags.manyLines then .lineStart else .textStart))
        else if x = '$' then add (.anchor (if flags.manyLines then .lineEnd else .lastEnd))
        else if x = '(' then do
          match ← opening flags c.place with
          | .nothing => parts host fuel room top first flags read
          | .wholeFlags =>
            let s ← get
            if !first ∨ !read.isEmpty then complainAt .lateFlags c.place
            else parts host fuel room top first s.flags read
          | .reference number => add (.same number flags.fold)
          | .part number atomic inner => do
            let body ← alternatives host fuel room false inner
            closing c.place
            match number with
            | some n => closeGroup n body
            | none => pure ()
            add (if atomic then .atomic body else .group number body)
          | .look behind negated => do
            let outer := (← get).lookBehind
            if behind ∧ outer.isNone then
              modify fun s => { s with lookBehind := some s.groups.length }
            let body ← alternatives host fuel room false flags
            modify fun s => { s with lookBehind := outer }
            closing c.place
            let s ← get
            let width := if behind then some (body.width (groupWidths s.groups)) else none
            add (.look width negated body)
          | .conditional number => do
            let yes ← branch host fuel room flags
            let no ←
              if ← pass '|' then do
                let no ← branch host fuel room flags
                if (← cursor).sees '|' then complain .manyBranches else pure no
              else pure .empty
            closing c.place
            add (.conditional number yes no)
        else add (.char (charTest x.toNat flags.fold false))
      | _ => pure (joined read.reverse)
termination_by structural fuel

end

/-- The greatest width to look behind by. -/
def lookBehindLimit : Nat := Nat.pow 2 32 - 1

/-- The first part that looks behind too far or by no width of its own. -/
def Node.lookFault? : Node → Option Fault
  | seq a b | choice a b | conditional _ a b => a.lookFault?.or b.lookFault?
  | repeated _ _ _ body | group _ body | look none _ body | atomic body => body.lookFault?
  | look (some (low, high)) _ body =>
    if lookBehindLimit < low then some .farLookBehind
    else if low ≠ high then some .unevenLookBehind
    else body.lookFault?
  | empty | char _ | anchor _ | same .. => none

/-- Read a whole pattern. -/
def read (host : Host) (pattern : String) : Except Fault Node := do
  let c ← Cursor.start pattern.toList
  let fuel := 2 * pattern.length + 2
  let (node, s) ← alternatives host fuel host.patternRoom true {} ⟨c, {}, [none], [], none, []⟩
  if s.flags.ascii && s.flags.full then .error (.breach .incompatibleFlags)
  else if !s.cursor.isEnd then s.cursor.complain .unbalanced
  else
    match s.asked.find? fun (number, _) => s.groups.length ≤ number with
    | some (number, place) => .error (.bad (.unknownGroup number) place)
    | none =>
      match node.lookFault? with
      | some fault => .error fault
      | none => pure node

end Formwork.Pattern
