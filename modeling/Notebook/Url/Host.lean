import Notebook.Text.Visible
import Notebook.Url.Ip
import Notebook.Url.Punycode

/-!
# Hosts of URLs

The host of a URL is a version 6 address in brackets or a name. A name under a
scheme of the web is a domain: it is percent-decoded and folded first, and if it
ends in a number it has to be a version 4 address. A name under any other scheme
is kept as it is written and only may not contain delimiters.
-/

namespace Notebook.Url

/-- Why a text is no URL. -/
inductive Fault where
  | noScheme
  | emptyHost
  | domain
  | ipv4
  | ipv6
  | domainCharacter
  | port
deriving DecidableEq

/-- The wording of a fault. -/
def Fault.message : Fault → String
  | .noScheme => "relative URL without a base"
  | .emptyHost => "empty host"
  | .domain => "invalid international domain name"
  | .ipv4 => "invalid IPv4 address"
  | .ipv6 => "invalid IPv6 address"
  | .domainCharacter => "invalid domain character"
  | .port => "invalid port number"

namespace Host

/-- Delimiters, which are not part of a name. -/
def isDelimiter (c : Char) : Bool :=
  c.toNat == 0 || "\t\n\r #/:<>?@[\\]^|".toList.contains c

/-- Refuses what is no version 6 address in brackets. -/
def checkBracketed (cs : List Char) : Except Fault Unit :=
  if cs.getLast? = some ']' && Ip.isV6 (cs.drop 1).dropLast then .ok () else .error .ipv6

/-- Refuses a name with delimiters. -/
def checkName (cs : List Char) : Except Fault Unit :=
  if cs.any isDelimiter then .error .domainCharacter else .ok ()

/-- The value of a part of a version 4 address in loose notation: hexadecimal
behind `0x`, octal behind another zero, else decimal. -/
def looseNumber? : List Char → Option Nat
  | [] => none
  | ['0'] => some 0
  | '0' :: c :: rest =>
      if c = 'x' ∨ c = 'X' then Hexadecimal.valueInBase? 16 rest
      else Hexadecimal.valueInBase? 8 (c :: rest)
  | cs => Decimal.natural? cs

/-- The parts of a domain between dots, without an empty one at its end. -/
def parts (domain : List Char) : List (List Char) :=
  let parts := splitAtEach '.' domain
  if parts.getLast? = some [] then parts.dropLast else parts

/-- Holds of domains that have to be version 4 addresses. -/
def endsInNumber (domain : List Char) : Bool :=
  match (parts domain).getLast? with
  | some last => (Decimal.natural? last).isSome || (looseNumber? last).isSome
  | none => false

/-- Accepts up to four numbers; the last fills the octets that are left. -/
def isLooseV4 (domain : List Char) : Bool :=
  match (parts domain).mapM looseNumber? with
  | some numbers =>
      numbers.length ≤ 4 && numbers.dropLast.all (· ≤ 255) &&
        (numbers.getLast?.getD 0) < Nat.pow 256 (5 - numbers.length)
  | none => false

/-- ASCII characters that no domain contains. -/
def isRefused (c : Char) : Bool :=
  c.toNat ≤ 0x20 || c.toNat == 0x7F || "%#/:<>?@[\\]^|".toList.contains c

/-- Characters that are dropped from domains. -/
def ignoredRanges : List (Nat × Nat) :=
  [(0x00AD, 0x00AD), (0x034F, 0x034F), (0x180B, 0x180D), (0x180F, 0x180F), (0x200B, 0x200B),
    (0x2060, 0x2060), (0x2064, 0x2064), (0xFE00, 0xFE0F), (0xFEFF, 0xFEFF), (0xE0100, 0xE01EF)]

/-- A character as it counts in a domain: letters in lower case, full-width
forms as what they are forms of, and ideographic full stops as dots. -/
def folded (c : Char) : List Char :=
  if Text.isWithin ignoredRanges c then []
  else if 0xFF01 ≤ c.toNat ∧ c.toNat ≤ 0xFF5E then [(Char.ofNat (c.toNat - 0xFEE0)).toLower]
  else if c = '\u3002' ∨ c = '\uFF61' then ['.']
  else [c.toLower]

/-- Accepts labels of visible characters that do not start with a mark. -/
def isLegible (label : List Char) : Bool :=
  (label.all fun c => !isRefused c && !Text.isInvisible c) &&
    ((label.head?.map Text.isCombining).getD false) == false

/-- Accepts the labels of a domain. Behind `xn--` stands the punycode of a label
that is not all ASCII. -/
def isLabel (label : List Char) : Bool :=
  match label with
  | 'x' :: 'n' :: '-' :: '-' :: code =>
      code.all (fun c => c.toNat < 0x80) && !code.isEmpty && code.getLast? != some '-' &&
        ((Punycode.decode? code).map isLegible).getD false
  | label => isLegible label

/-- Refuses what is no domain. -/
def checkDomain (cs : List Char) : Except Fault Unit :=
  match Utf8.decode? (Percent.decode cs) with
  | none => .error .domain
  | some text =>
      let domain := text.toList.flatMap folded
      if !(splitAtEach '.' domain).all isLabel then .error .domain
      else if domain.isEmpty then .error .emptyHost
      else if endsInNumber domain && !isLooseV4 domain then .error .ipv4
      else .ok ()

/-- Refuses what is no host. -/
def check (isDomain : Bool) (cs : List Char) : Except Fault Unit :=
  if cs.head? = some '[' then checkBracketed cs
  else if isDomain then checkDomain cs
  else checkName cs

end Host

end Notebook.Url
