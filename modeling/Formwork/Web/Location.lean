import Formwork.Web.Address
import Formwork.Text.Normal
import Formwork.Data.Display
/-!
Locations on the web: the scheme in front of a colon and the authority behind two slashes. Control
characters and blanks in front are dropped, and tabs and line ends wherever they stand. An authority
must not hide a delimiter behind a compatible character, and an address in brackets must be one.
-/
namespace Formwork.Web

open Formwork.Text (isHexDigit)

/-- Why a text cannot be read as a location. -/
inductive LocationFault where
  | strayBrackets
  | futureAddress
  | quadInBrackets
  | noAddress (host : String)
  | hiddenDelimiter (authority : String)
  deriving DecidableEq

def LocationFault.message : LocationFault → String
  | strayBrackets => "Invalid IPv6 URL"
  | futureAddress => "IPvFuture address is invalid"
  | quadInBrackets => "An IPv4 address cannot be in brackets"
  | noAddress host => Text.quoted host ++ " does not appear to be an IPv4 or IPv6 address"
  | hiddenDelimiter authority =>
    "netloc '" ++ authority ++ "' contains invalid characters under NFKC normalization"

structure Location where
  scheme : String
  authority : String
  deriving DecidableEq

namespace Location

def isSchemeChar (c : Char) : Bool := c.isAlphanum || c = '+' || c = '-' || c = '.'

/-- The scheme in lower case and what follows its colon, or nothing and the whole text. -/
def splitScheme (cs : List Char) : List Char × List Char :=
  let scheme := cs.takeWhile (· ≠ ':')
  match cs.drop scheme.length, scheme with
  | _ :: rest, first :: _ =>
    if first.isAlpha ∧ scheme.all isSchemeChar then (scheme.map Char.toLower, rest) else ([], cs)
  | _, _ => ([], cs)

def authorityOf : List Char → List Char
  | '/' :: '/' :: rest => rest.takeWhile fun c => c ≠ '/' && c ≠ '?' && c ≠ '#'
  | _ => []

/-- A host in brackets is an address of eight groups, or of a form yet to come. -/
def checkBracketed (host : List Char) : Except LocationFault Unit :=
  match host with
  | 'v' :: rest =>
    let version := rest.takeWhile isHexDigit
    match rest.drop version.length with
    | '.' :: _ :: _ => if version.isEmpty then .error .futureAddress else .ok ()
    | _ => .error .futureAddress
  | _ =>
    if isQuad host then .error .quadInBrackets
    else if isGrouped host then .ok ()
    else .error (.noAddress (String.ofList host))

/-- The part of an authority that names the host: what follows the name of a user, if there is
one. -/
def hostPart (authority : List Char) : List Char :=
  (authority.reverse.takeWhile (· ≠ '@')).reverse

/-- Brackets stand around the whole of a host, and nothing follows them but a colon with a
number. -/
def checkHost (host : List Char) : Except LocationFault Unit :=
  match host.takeWhile (· ≠ '['), host.dropWhile (· ≠ '[') with
  | plain, [] => checkBracketed (plain.takeWhile (· ≠ ':'))
  | _ :: _, _ => .error .strayBrackets
  | [], _ :: rest =>
    let inner := rest.takeWhile (· ≠ ']')
    match rest.drop (inner.length + 1) with
    | [] | ':' :: _ => checkBracketed inner
    | _ => .error .strayBrackets

def checkBrackets (authority : List Char) : Except LocationFault Unit :=
  if '[' ∈ authority ∧ ']' ∈ authority then checkHost (hostPart authority)
  else if '[' ∈ authority ∨ ']' ∈ authority then .error .strayBrackets
  else .ok ()

def isDelimiter (c : Char) : Bool := c = '/' || c = '?' || c = '#' || c = '@' || c = ':'

/-- No character beyond ASCII may stand for a delimiter. -/
def checkHidden (authority : List Char) : Except LocationFault Unit :=
  if authority.all (·.toNat < 128) then .ok ()
  else
    let shown := authority.filter fun c => c ≠ '@' && c ≠ ':' && c ≠ '#' && c ≠ '?'
    let normal := Text.composedCompatible shown
    if normal ≠ shown ∧ normal.any isDelimiter then
      .error (.hiddenDelimiter (String.ofList authority))
    else .ok ()

def parse (s : String) : Except LocationFault Location := do
  let cs := (s.toList.dropWhile (·.toNat ≤ 0x20)).filter fun c => c ≠ '\t' && c ≠ '\r' && c ≠ '\n'
  let (scheme, rest) := splitScheme cs
  let authority := authorityOf rest
  checkBrackets authority
  checkHidden authority
  pure ⟨String.ofList scheme, String.ofList authority⟩

/-- A location that a browser fetches over the network. -/
def isFetchable (l : Location) : Bool :=
  (l.scheme == "http" || l.scheme == "https") && !l.authority.isEmpty

end Location
end Formwork.Web
