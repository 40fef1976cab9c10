import MangaRecommender.Text.Integer
import MangaRecommender.Text.Percent

/-!
# Addresses of clients

Two spellings of one address are one client, and an address of the newer protocol is never one of
the older, also when it embeds one.
-/

namespace MangaRecommender

inductive IpAddress
  | v4 (octets : List Nat)
  | v6 (groups : List Nat)
  deriving DecidableEq

namespace IpAddress

/-- The address of a client that is not known. -/
def unspecified : IpAddress := .v4 [0, 0, 0, 0]

/-- A decimal octet, without zeros in front. -/
def octet? (text : List Char) : Option Nat :=
  if text.isEmpty || !text.all Char.isDigit || 3 < text.length ||
      (1 < text.length && text.head? == some '0') then none
  else
    let value := Nat.ofDigitChars 10 text 0
    if value < 256 then some value else none

def octets? (text : List Char) : Option (List Nat) :=
  let pieces := Text.splitAt '.' text
  if pieces.length = 4 then pieces.mapM octet? else none

def group? (text : List Char) : Option Nat :=
  if text.isEmpty || 4 < text.length then none else Text.readHex 0 text

/-- The groups of pieces between colons; only the last piece may be a dotted address. -/
def groups? : List (List Char) → Option (List Nat)
  | [] => some []
  | [last] =>
    if last.contains '.' then
      match octets? last with
      | some [a, b, c, d] => some [256 * a + b, 256 * c + d]
      | _ => none
    else (group? last).map ([·])
  | piece :: more => do return (← group? piece) :: (← groups? more)

/-- The texts before and behind the first pair of colons. -/
def splitGap? : List Char → Option (List Char × List Char)
  | ':' :: ':' :: rest => some ([], rest)
  | character :: rest => (splitGap? rest).map fun (before, after) => (character :: before, after)
  | [] => none

def groupsOrNone? (text : List Char) : Option (List Nat) :=
  if text.isEmpty then some [] else groups? (Text.splitAt ':' text)

def v6? (text : List Char) : Option IpAddress :=
  match splitGap? text with
  | none => (groups? (Text.splitAt ':' text)).bind fun groups =>
      if groups.length = 8 then some (.v6 groups) else none
  | some (before, after) => do
      let front ← if before.contains '.' then none else groupsOrNone? before
      let back ← groupsOrNone? after
      let known := front.length + back.length
      if known < 8 then some (.v6 (front ++ List.replicate (8 - known) 0 ++ back)) else none

def ofText? (text : List Char) : Option IpAddress :=
  ((octets? text).map .v4).or (v6? text)

/-- Whether a text is a number below `bound` in digits, without a sign. -/
def isNumberBelow (bound : Nat) (text : List Char) : Bool :=
  !text.isEmpty && text.all Char.isDigit && Nat.ofDigitChars 10 text 0 < bound

/-- The address of an endpoint that is written with a port, the newer form in brackets. A zone may
be given behind a percent sign, and does not tell clients apart. -/
def ofEndpoint? (text : List Char) : Option IpAddress :=
  let port := (text.reverse.takeWhile (· != ':')).reverse
  if !isNumberBelow (2 ^ 16) port then none
  else match text.take (text.length - port.length - 1) with
    | '[' :: inner =>
      if inner.getLast? = some ']' then
        let (address, zone) := inner.dropLast.span (· != '%')
        if zone.isEmpty || isNumberBelow (2 ^ 32) (zone.drop 1) then v6? address else none
      else none
    | address => (octets? address).map .v4

end IpAddress

end MangaRecommender
