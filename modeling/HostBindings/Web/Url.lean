import HostBindings.Text.LowerCase
import HostBindings.Web.IpLiteral

/-!
# Web addresses

A web address has a scheme, an authority and a path, besides parameters, a query and a fragment
that do not count here. Control characters and blanks in front of an address are dropped, as are
tabulators and line ends anywhere in it.

## Main definitions

* `Url`, `Url.read` — addresses, and how a text is taken apart
* `UrlFault` — why a text is no address
-/

namespace HostBindings

/-- The parts of a web address. A part that is not there is empty. -/
structure Url where
  /-- The scheme, in lower case. -/
  scheme : String
  /-- The host, with user and port. -/
  authority : String
  /-- The path, without parameters of its last component. -/
  path : String
  deriving DecidableEq, Repr

/-- Why a text is no address. -/
inductive UrlFault where
  /-- One bracket without the other. -/
  | unbalancedBrackets
  /-- What stands between brackets is no address of a kind that needs them. -/
  | badBrackets
  /-- The authority has a character that is equivalent to a separator. -/
  | deceptiveAuthority (authority : String)
  deriving DecidableEq, Repr

/-- The wording of a fault. -/
def UrlFault.message : UrlFault → String
  | .unbalancedBrackets => "Invalid IPv6 URL"
  | .badBrackets => "Invalid address between brackets"
  | .deceptiveAuthority authority =>
    s!"netloc '{authority}' contains invalid characters under NFKC normalization"

namespace Url

/-- The schemes whose paths may end in parameters. -/
def parameterSchemes : List String :=
  ["", "ftp", "hdl", "prospero", "http", "imap", "https", "shttp", "rtsp", "rtspu", "sip", "sips",
    "mms", "sftp", "tel"]

/-- The code points of characters that are compatibility equivalent to a separator of addresses, or
to a text with one. -/
def deceptive : List Nat :=
  [8263, 8264, 8265, 8448, 8449, 8453, 8454, 10868, 65043, 65046, 65109, 65110, 65119, 65131, 65283,
    65295, 65306, 65311, 65312]

/-- Whether a character is a letter of ASCII. -/
def isPlainLetter (c : Char) : Bool := ('a' ≤ c && c ≤ 'z') || ('A' ≤ c && c ≤ 'Z')

/-- Whether a character may stand in a scheme. -/
def isSchemeChar (c : Char) : Bool :=
  isPlainLetter c || Web.isPlainDigit c || c == '+' || c == '-' || c == '.'

/-- A text without what does not count in it. -/
def clean (text : List Char) : List Char :=
  (text.dropWhile fun c => c.toNat ≤ 32).filter fun c => c != '\t' && c != '\r' && c != '\n'

/-- The scheme of an address, and what follows it. -/
def splitScheme (text : List Char) : List Char × List Char :=
  let lead := text.takeWhile (· != ':')
  match lead, text.drop lead.length with
  | first :: _, ':' :: rest =>
    if isPlainLetter first && lead.all isSchemeChar then (Text.toLower lead, rest) else ([], text)
  | _, _ => ([], text)

/-- The authority of an address without scheme, and what follows it. -/
def splitAuthority (text : List Char) : List Char × List Char :=
  match text with
  | '/' :: '/' :: rest =>
    let authority := rest.takeWhile fun c => c != '/' && c != '?' && c != '#'
    (authority, rest.drop authority.length)
  | _ => ([], text)

/-- The host and the port of an authority: what stands behind the last at sign. -/
def hostAndPort (authority : List Char) : List Char :=
  (authority.reverse.takeWhile (· != '@')).reverse

/-- Whether a text is an address of a kind that stands between brackets. -/
def isBracketed (host : List Char) : Bool :=
  if host.head? == some 'v' then Web.isFuture host else Web.isV6 host

/-- Whether the brackets of an authority stand around an address, with nothing before it and nothing
but a port behind it. Where the host has no brackets, it is checked like an address between them. -/
def fitsBrackets (authority : List Char) : Bool :=
  match hostAndPort authority with
  | '[' :: rest =>
    let host := rest.takeWhile (· != ']')
    match rest.drop (host.length + 1) with
    | [] => isBracketed host
    | c :: _ => c == ':' && isBracketed host
  | text => !text.contains '[' && isBracketed (text.takeWhile (· != ':'))

/-- Checks the brackets and the characters of an authority. -/
def checkAuthority (authority : List Char) : Except UrlFault Unit :=
  let opening := authority.contains '['
  let closing := authority.contains ']'
  if opening != closing then .error .unbalancedBrackets
  else
    if opening && !fitsBrackets authority then .error .badBrackets
    else if authority.any fun c => deceptive.contains c.toNat then
      .error (.deceptiveAuthority (String.ofList authority))
    else .ok ()

/-- A path without the parameters of its last component. -/
def withoutParameters (path : List Char) : List Char :=
  let last := (path.reverse.takeWhile (· != '/')).reverse
  let lead := path.take (path.length - last.length)
  lead ++ last.takeWhile (· != ';')

/-- The parts of an address. -/
def read (text : String) : Except UrlFault Url := do
  let (scheme, rest) := splitScheme (clean text.toList)
  let (authority, rest) := splitAuthority rest
  checkAuthority authority
  let path := (rest.takeWhile (· != '#')).takeWhile (· != '?')
  let path :=
    if parameterSchemes.contains (String.ofList scheme) then withoutParameters path else path
  return ⟨String.ofList scheme, String.ofList authority, String.ofList path⟩

end Url

end HostBindings
