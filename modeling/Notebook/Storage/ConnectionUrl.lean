import Notebook.Text.Quoted
import Notebook.Url.Basic

/-!
# Connection texts

The text that says where the store is: a URL whose host, credentials, path and
query tell how to connect. A host that starts with an encoded slash is the path
of a socket. Whatever is decoded has to be UTF-8, and some parameters of the
query are read, in order.
-/

namespace Notebook

/-- Why a text does not say where the store is. -/
inductive ConnectionFault where
  | url (fault : Url.Fault)
  | encoding (fault : Utf8.Fault)
  | sslMode (text : String)
  | number (fault : Decimal.Fault)
  | address
deriving DecidableEq

/-- The wording of a fault. -/
def ConnectionFault.message : ConnectionFault → String
  | .url fault => fault.message
  | .encoding fault => fault.message
  | .sslMode text =>
      "error with configuration: unknown value " ++ Text.quoted text ++ " for `ssl_mode`"
  | .number fault => fault.message
  | .address => "invalid IP address syntax"

namespace ConnectionUrl

/-- The names of the ways to secure a connection. -/
def sslModes : List String :=
  ["disable", "allow", "prefer", "require", "verify-ca", "verify-full"]

/-- Refuses a text whose decoded bytes are not UTF-8. -/
def checkEncoding (text : List Char) : Except ConnectionFault Unit :=
  match Utf8.fault? (Percent.decode text) with
  | some fault => .error (.encoding fault)
  | none => .ok ()

/-- Refuses the host of a socket whose path cannot be decoded. -/
def checkHost (host : List Char) : Except ConnectionFault Unit :=
  if (Percent.decode host).head? = some 0x2F then checkEncoding host else .ok ()

/-- Refuses a parameter whose value cannot be read. -/
def checkParameter (name value : String) : Except ConnectionFault Unit :=
  if name = "sslmode" ∨ name = "ssl-mode" then
    if sslModes.contains (String.ofList (value.toList.map Char.toLower)) then .ok ()
    else .error (.sslMode value)
  else if name = "statement-cache-capacity" then
    ((Decimal.readBelow UInt64.size value).mapError .number).map fun _ => ()
  else if name = "hostaddr" then
    if Ip.isV4 value.toList || Ip.isV6 value.toList then .ok () else .error .address
  else if name = "port" then
    ((Decimal.readBelow UInt16.size value).mapError .number).map fun _ => ()
  else .ok ()

/-- Refuses a text that does not say where the store is. -/
def check (text : String) : Except ConnectionFault Unit := do
  let url ← (Url.ofText text).mapError .url
  checkHost url.host
  checkEncoding url.username
  checkEncoding url.password
  checkEncoding (url.path.dropWhile (· = '/'))
  for (name, value) in Form.pairs (String.ofList url.query) do
    checkParameter name value

end ConnectionUrl

end Notebook
