import Formwork.Mail.Domain
/-!
Mail addresses: a local part of words with single points between them, and the name of a host.
-/
namespace Formwork.Mail

open Text

/-- A character of a word; beyond ASCII any may be one. -/
def isWordChar (c : Char) : Bool :=
  c.isAlphanum || c ∈ "!#$%&'*+-/=?^_`\x7b|\x7d~".toList || 128 ≤ c.toNat

/-- The local part as it is written in an address, if it is one. -/
def localPart? (cs : List Char) : Option (List Char) :=
  if !(splitChars '.' cs).all fun word => !word.isEmpty && word.all isWordChar then none
  else if isAscii cs then some cs
  else (some (composed cs)).filter isSafe

/-- The bytes that characters take. -/
def byteCount (cs : List Char) : Nat := cs.foldr (fun c n => c.utf8Size + n) 0

/-- The longest address, in bytes. -/
def maxBytes : Nat := 254

/-- Whether a text is a mail address. -/
def isAddress (s : String) : Bool :=
  let cs := s.toList
  let before := cs.takeWhile (· ≠ '@')
  match cs.drop before.length with
  | [] => false
  | _ :: rest =>
    match localPart? before, Domain.read? rest with
    | some name, some host =>
      [cs, name ++ '@' :: host.shown, name ++ '@' :: host.wire].all fun form =>
        byteCount form ≤ maxBytes
    | _, _ => false

end Formwork.Mail
