import Hamlet.Lib.RustStr
import Hamlet.GatewayMqtt.ConnectionTask

/-!
# The login call of the cloud gateway client

`Url::parse`, which splits the configured base URL, and the `login` that posts the credentials
to it. What the network, the TLS stack and the gateway answer is a parameter.
-/

namespace Hamlet

open RustStr UnixPath

/-- A split URL: `scheme://host[:port][/path]`. -/
structure Url where
  tls : Bool
  host : String
  port : UInt16
  path : String
  deriving DecidableEq, Repr

namespace Url

/-- The two schemes of a gateway. -/
def tlsOf (scheme : String) : Option Bool :=
  if scheme = "https" then some true else if scheme = "http" then some false else none

/-- Cut `rest` before its first slash; without one the path is `/`. -/
def splitPath (rest : String) : String × String :=
  if '/' ∈ rest.toList then
    (String.ofList (rest.toList.takeWhile (· ≠ '/')), String.ofList (rest.toList.dropWhile (· ≠ '/')))
  else (rest, "/")

def defaultPort (tls : Bool) : UInt16 := if tls then 443 else 80

/-- Cut the authority at its last colon; `none` for a port that is not a `u16`. -/
def hostPort (tls : Bool) (authority : String) : Option (String × UInt16) :=
  match rsplitOnce authority ':' with
  | none => some (authority, defaultPort tls)
  | some (h, p) =>
    -- with nothing before the colon, all of the authority is taken as the host
    if h ≠ "" then (parseU16 p).map fun port => (h, port) else some (authority, defaultPort tls)

/-- `Url::parse`. -/
def parse (input : String) : Except String Url :=
  match splitOnce input "://" with
  | none => .error ("invalid gateway url '" ++ input ++ "'")
  | some (scheme, rest) =>
    match tlsOf scheme with
    | none => .error ("unsupported gateway scheme '" ++ scheme ++ "'")
    | some tls =>
      match hostPort tls (splitPath rest).1 with
      | none => .error ("invalid port in '" ++ input ++ "'")
      | some (host, port) => .ok { tls, host, port, path := (splitPath rest).2 }

example : parse "https://[fe80::1]:8443/a:b" = .ok ⟨true, "[fe80::1]", 8443, "/a:b"⟩ ∧
    parse "http://gw:x" = .error "invalid port in 'http://gw:x'" := by
  decide

end Url

/-! ### The call -/

/-- Where the credentials are posted. The host is also sent as the `Host` header. -/
structure LoginPost where
  tls : Bool
  host : String
  port : UInt16
  path : String
  deriving DecidableEq, Repr

def Url.loginPost (url : Url) : LoginPost where
  tls := url.tls
  host := url.host
  port := url.port
  path := trimEndMatches url.path '/' ++ "/api/login"

/-- The answer of the gateway, with the body read to its end. -/
structure LoginReply where
  status : Nat
  /-- The status line as text, for the error. -/
  statusText : String
  body : List UInt8

/-- The stages of a login outside this program. -/
structure LoginNetwork where
  serialise : Except String (List UInt8)
  connect : String → UInt16 → Except String Unit
  /-- With the roots of the pinned file, or the built-in ones; its errors are whole texts. -/
  tlsConnector : Option AbsPath → Except String Unit
  serverName : String → Except String Unit
  tlsHandshake : String → Except String Unit
  httpHandshake : Except String Unit
  buildRequest : String → String → Except String Unit
  sendRequest : LoginPost → Except String Unit
  readBody : Except String LoginReply
  fromSlice : List UInt8 → Except String LoginResponse

/-- `.map_err(|e| LoginError::Transient(format!("{context}{e}")))`. -/
def transient {α : Type} (context : String) : Except String α → Except LoginError α
  | .ok value => .ok value
  | .error e => .error (.transient (context ++ e))

/-- `send_request`. -/
def sendRequest (net : LoginNetwork) (post : LoginPost) : Except LoginError LoginResponse := do
  transient "http handshake: " net.httpHandshake
  transient "build request: " (net.buildRequest post.host post.path)
  transient "send request: " (net.sendRequest post)
  let reply ← transient "read body: " net.readBody
  if reply.status = 401 then throw .unauthorized
  if ¬(200 ≤ reply.status ∧ reply.status < 300) then
    throw (.transient ("login returned " ++ reply.statusText ++ ": " ++ fromUtf8Lossy reply.body))
  transient "parse login response: " (net.fromSlice reply.body)

/-- `login`. -/
def login (net : LoginNetwork) (baseUrl : String) (cafile : Option AbsPath) :
    Except LoginError LoginResponse := do
  let url ← transient "" (Url.parse baseUrl)
  let post := url.loginPost
  let _ ← transient "serialise login: " net.serialise
  transient ("connect " ++ post.host ++ ":" ++ toString post.port ++ ": ")
    (net.connect post.host post.port)
  if post.tls then
    transient "" (net.tlsConnector cafile)
    transient "invalid server name: " (net.serverName post.host)
    transient "tls handshake: " (net.tlsHandshake post.host)
  sendRequest net post

end Hamlet
