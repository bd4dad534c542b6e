import Formwork.Mail.Folding
import Formwork.Text.Letter
import Formwork.Text.Mark
import Formwork.Text.Digit
/-!
Labels: the parts of a host's name. A label is made of letters, marks and decimal digits that
folding leaves alone, and of hyphens that stand inside; it starts with no mark, keeps its composed
form, and mixes no writing directions.
-/
namespace Formwork.Mail

open Text

/-! ## Characters -/

/-- Letters, marks and numerals that are in use although folding changes them, or although they are
of another kind. -/
def admitted : Ranges := Ranges.ofString "DF 3C2 6FD-6FE F0B 3007"

/-- Letters, marks and digits that are not in use, or not everywhere. -/
def excluded : Ranges := Ranges.ofString
  "34F 488-489 640 660-669 6F0-6F9 7FA 1100-11FF 17B4-17B5 180B-180D 180F 1ABE 20D0-20F0 302E-302F 3031-3035 303B
  A670-A672 A960-A97C D7B0-D7FB FE00-FE0F 1D165-1D169 1D16D-1D172 1D17B-1D182 1D185-1D18B
  1D1AA-1D1AD 1D242-1D244 E0100-E01EF"

/-- Characters that are in use in any label. -/
def isRegistrable (c : Char) : Bool :=
  if c.toNat < 128 then c.isLower || c.isDigit || c = '-'
  else
    admitted.contains c ||
      (!excluded.contains c && (isLetter c || isMark c || isDecimal c) && foldCompatible c == [c])

def isGreek (c : Char) : Bool := (Ranges.ofString
  "370-373 375-377 37A-37D 37F 384 386 388-38A 38C 38E-3A1 3A3-3E1 3F0-3FF 1D26-1D2A 1D5D-1D61
  1D66-1D6A 1DBF 1F00-1F15 1F18-1F1D 1F20-1F45 1F48-1F4D 1F50-1F57 1F59 1F5B 1F5D 1F5F-1F7D
  1F80-1FB4 1FB6-1FC4 1FC6-1FD3 1FD6-1FDB 1FDD-1FEF 1FF2-1FF4 1FF6-1FFE 2126 AB65 10140-1018E 101A0
  1D200-1D245").contains c

def isHebrew (c : Char) : Bool := (Ranges.ofString
  "591-5C7 5D0-5EA 5EF-5F4 FB1D-FB36 FB38-FB3C FB3E FB40-FB41 FB43-FB44 FB46-FB4F").contains c

/-- Characters of the two Japanese syllabaries and Chinese characters. -/
def isKanaOrHan (c : Char) : Bool := (Ranges.ofString
  "2E80-2E99 2E9B-2EF3 2F00-2FD5 3005 3007 3021-3029 3038-303B 3041-3096 309D-309F 30A1-30FA
  30FD-30FF 31F0-31FF 32D0-32FE 3300-3357 3400-4DBF 4E00-9FFF F900-FA6D FA70-FAD9 FF66-FF6F
  FF71-FF9D 16FE2 16FE3 16FF0-16FF1 1AFF0-1AFF3 1AFF5-1AFFB 1AFFD-1AFFE 1B000-1B122 1B150-1B152
  1B164-1B167 1F200 20000-2A6DF 2A700-2B738 2B740-2B81D 2B820-2CEA1 2CEB0-2EBE0 2F800-2FA1D
  30000-3134A").contains c

def isArabicDigit (c : Char) : Bool := 0x660 ≤ c.toNat && c.toNat ≤ 0x669

def isPersianDigit (c : Char) : Bool := 0x6F0 ≤ c.toNat && c.toNat ≤ 0x6F9

/-- Whether a character that is in use only beside certain others may follow `before` and precede
`after` in the label `cs`. -/
def isFitting (cs : List Char) (before : Option Char) (c : Char) (after : Option Char) : Bool :=
  match c.toNat with
  | 0xB7 => before == some 'l' && after == some 'l'
  | 0x375 => after.any isGreek
  | 0x5F3 | 0x5F4 => before.any isHebrew
  | 0x30FB => cs.any isKanaOrHan
  | _ =>
    if isArabicDigit c then !cs.any isPersianDigit
    else isPersianDigit c && !cs.any isArabicDigit

/-- Whether each character may stand where it does in the label `cs`. -/
def areFitting (cs : List Char) (before : Option Char) : List Char → Bool
  | [] => true
  | c :: rest =>
    (isRegistrable c || isFitting cs before c rest.head?) && areFitting cs (some c) rest

/-! ## Writing directions -/

/-- How a character takes part in the direction of writing. -/
inductive Direction where
  | leftward
  | rightward
  | arabicNumber
  | number
  | mark
  | neutral
  deriving DecidableEq

def leftwardChars : Ranges := Ranges.ofString "590-8FF FB1D-FDFF FE70-FEFF 10800-10FFF 1E800-1EFFF"

def neutralChars : Ranges := Ranges.ofString
  "2D B7 2B9-2BA 2C6-2CF 2EC 375 2E2F 30FB A67F A717-A71F A788"

/-- Combining marks that take part as letters do. -/
def letterlikeMarks : Ranges := Ranges.ofString "CBF CC6 11A07-11A08 11C3F"

def direction (c : Char) : Direction :=
  let n := c.toNat
  if neutralChars.contains c then .neutral
  else if isArabicDigit c || (0x10D30 ≤ n && n ≤ 0x10D39) then .arabicNumber
  else if c.isDigit || isPersianDigit c then .number
  else if isNonspacing c && !letterlikeMarks.contains c then .mark
  else if leftwardChars.contains c then .leftward
  else .rightward

/-- Whether the last character, marks aside, is one of some directions. -/
def endsWith (allowed : List Direction) (ds : List Direction) : Bool :=
  match (ds.reverse.dropWhile (· = .mark)).head? with
  | some d => allowed.contains d
  | none => false

/-- A label with characters that are written leftwards starts with a letter, and all of it runs in
the direction of that letter. -/
def hasOneDirection (cs : List Char) : Bool :=
  let ds := cs.map direction
  if !ds.any fun d => d = .leftward || d = .arabicNumber then true
  else
    match ds.head? with
    | some .leftward =>
      ds.all (· ≠ .rightward) && endsWith [.leftward, .number, .arabicNumber] ds &&
        !(ds.contains .number && ds.contains .arabicNumber)
    | some .rightward =>
      ds.all (fun d => d ≠ .leftward && d ≠ .arabicNumber) && endsWith [.rightward, .number] ds
    | _ => false

/-! ## Labels -/

/-- Hyphens stand inside, and not as the third and fourth character. -/
def hasSoundHyphens (cs : List Char) : Bool :=
  (cs.drop 2).take 2 ≠ ['-', '-'] && cs.head? ≠ some '-' && cs.getLast? ≠ some '-'

/-- Whether a text is a label as it is shown. -/
def isLabel (cs : List Char) : Bool :=
  !cs.isEmpty && cs.length ≤ 254 && composed cs == cs && hasSoundHyphens cs &&
    !(cs.head?.any isMark) && areFitting cs none cs && hasOneDirection cs

end Formwork.Mail
