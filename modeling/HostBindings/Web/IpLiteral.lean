import HostBindings.Text.Lines

/-!
# Addresses in brackets

A host of a web address may be an IP address between brackets: one of version 6, or one of a
version to come. An address of version 6 has eight groups of up to four hexadecimal digits; two
colons stand for a run of at least one zero group, once, and the last two groups may be written as
an address of version 4. A zone may follow a percent sign.

## Main definitions

* `Web.isV4` — addresses of version 4
* `Web.isV6` — addresses of version 6
* `Web.isFuture` — addresses of a version to come
-/

namespace HostBindings.Web

/-- Whether a character is a hexadecimal digit. -/
def isHexDigit (c : Char) : Bool :=
  ('0' ≤ c && c ≤ '9') || ('a' ≤ c && c ≤ 'f') || ('A' ≤ c && c ≤ 'F')

/-- Whether a character is a digit of ASCII. -/
def isPlainDigit (c : Char) : Bool := '0' ≤ c && c ≤ '9'

/-- Whether a text is a number from 0 to 255 without leading zeros. -/
def isOctet (text : List Char) : Bool :=
  !text.isEmpty && text.all isPlainDigit && text.length ≤ 3 &&
    (text == ['0'] || text.head? != some '0') &&
    text.foldl (fun value c => 10 * value + (c.toNat - '0'.toNat)) 0 ≤ 255

/-- Whether a text is an address of version 4: four octets with points between. -/
def isV4 (text : List Char) : Bool :=
  let octets := Text.splitOn '.' text
  octets.length == 4 && octets.all isOctet

/-- Whether a text is a group of hexadecimal digits. -/
def isGroup (text : List Char) : Bool :=
  !text.isEmpty && text.length ≤ 4 && text.all isHexDigit

/-- The groups of an address, where a last group that is an address of version 4 counts as two;
nothing if it should be one and is not. -/
def expandLast (groups : List (List Char)) : Option (List (List Char)) :=
  match groups.getLast? with
  | some last =>
    if last.contains '.' then
      if isV4 last then some (groups.dropLast ++ [['0'], ['0']]) else none
    else some groups
  | none => some groups

/-- Whether the groups before a run of zero groups are complete: a run at the start of the address
follows one empty group. -/
def isLead (groups : List (List Char)) : Bool :=
  groups == [[]] || groups.all isGroup

/-- Whether groups make an address of version 6. -/
def areGroups (groups : List (List Char)) : Bool :=
  -- the empty groups between the first and the last one
  let inner := groups.drop 1 |>.dropLast
  match (inner.filter (·.isEmpty)).length with
  | 0 => groups.length == 8 && groups.all isGroup
  | 1 =>
    let before := (inner.takeWhile (!·.isEmpty))
    let lead := groups.take (before.length + 1)
    let tail := groups.drop (before.length + 2)
    isLead lead && isLead tail && (groups.filter (!·.isEmpty)).length ≤ 7
  | _ => false

/-- Whether a text is an address of version 6, perhaps with a zone. -/
def isV6 (text : List Char) : Bool :=
  let address := text.takeWhile (· != '%')
  let zone := text.drop address.length
  let zoneFits :=
    match zone with
    | [] => true
    | _ :: name => !name.isEmpty && !name.contains '%'
  let groups := Text.splitOn ':' address
  zoneFits && !address.contains '/' && 3 ≤ groups.length &&
    match expandLast groups with
    | some groups => areGroups groups
    | none => false

/-- Whether a text is an address of a version to come: a letter `v`, hexadecimal digits, a point,
and something behind it. -/
def isFuture (text : List Char) : Bool :=
  match text with
  | 'v' :: rest =>
    let version := rest.takeWhile isHexDigit
    match rest.drop version.length with
    | '.' :: c :: more => !version.isEmpty && !(c :: more).contains '\n'
    | _ => false
  | _ => false

end HostBindings.Web
