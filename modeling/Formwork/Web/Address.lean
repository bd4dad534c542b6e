import Formwork.Decimal.Reader
import Formwork.Text.Hex
import Formwork.Text.Split
/-!
Numeric addresses of hosts in text form: four decimal octets with points, or eight groups of
hexadecimal digits with colons, of which one run of empty groups may be left out. The last two
groups may have the form of octets, and a zone may follow a percent sign.
-/
namespace Formwork.Web

open Formwork.Text (isHexDigit splitChars)

def isOctet (cs : List Char) : Bool :=
  !cs.isEmpty && cs.all (fun c => '0' ≤ c && c ≤ '9') && cs.length ≤ 3 &&
    (cs == ['0'] || cs.head? != some '0') && Decimal.digitsValue 0 cs ≤ 255

/-- An address of four octets. -/
def isQuad (cs : List Char) : Bool :=
  let octets := splitChars '.' cs
  octets.length == 4 && octets.all isOctet

def isGroup (cs : List Char) : Bool := !cs.isEmpty && cs.length ≤ 4 && cs.all isHexDigit

/-- The groups of an address, a last part in the form of octets counting as two groups. -/
def groups? (cs : List Char) : Option (List (List Char)) :=
  let parts := splitChars ':' cs
  if parts.length < 3 then none
  else
    match parts.getLast? with
    | some last =>
      if '.' ∈ last then
        if isQuad last then some (parts.dropLast ++ [['0'], ['0']]) else none
      else some parts
    | none => none

/-- Where groups are left out: the empty parts that are not at an end. -/
def gaps (parts : List (List Char)) : List Nat :=
  (List.range parts.length).filter fun i =>
    0 < i && i + 1 < parts.length && (parts[i]?.map List.isEmpty).getD false

/-- An empty part at an end is allowed only beside the gap; what is left are the groups written. -/
def isGroupList (parts : List (List Char)) : Bool :=
  if 9 < parts.length then false
  else
    match gaps parts with
    | [] => parts.length == 8 && parts.all isGroup
    | [gap] =>
      let high := parts.take gap
      let low := parts.drop (gap + 1)
      let high := if high.head? == some [] then high.drop 1 else high
      let low := if low.getLast? == some [] then low.dropLast else low
      let openStart := (parts.take gap).head? == some []
      let openEnd := (parts.drop (gap + 1)).getLast? == some []
      !(openStart && !high.isEmpty) && !(openEnd && !low.isEmpty) &&
        high.length + low.length < 8 && high.all isGroup && low.all isGroup
    | _ => false

/-- An address of eight groups, with or without a zone. -/
def isGrouped (cs : List Char) : Bool :=
  match splitChars '%' cs with
  | [address] => check address
  | [address, zone] => !zone.isEmpty && check address
  | _ => false
where
  check (address : List Char) : Bool :=
    match groups? address with
    | some parts => isGroupList parts
    | none => false

end Formwork.Web
