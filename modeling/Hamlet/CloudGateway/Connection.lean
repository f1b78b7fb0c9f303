import Hamlet.Lib.RustStr

/-!
# Connections to cloud gateways

The frames sent to a gateway, and the connection that `connect_to_gateway` opens for one
advertised URL.
-/

namespace Hamlet

/-- `serde_json::Value`. Numbers keep their text; the keys of an object are distinct. -/
inductive Json where
  | null
  | bool (value : Bool)
  | number (text : String)
  | string (text : String)
  | array (items : List Json)
  | object (fields : List (String × Json))
  deriving Repr

namespace Json

def asObject : Json → Option (List (String × Json))
  | .object fields => some fields
  | _ => none

def asStr : Json → Option String
  | .string text => some text
  | _ => none

end Json

inductive GatewayMessage where
  | register (serverUrl : String)
  | connect (target : String)
  | connectRequest (sender : String)
  | beaconRegistration (serverUrl : String) (payload : Json)
  | relay (sender receiver : String) (payload : Json)
  | ack (ok : Bool) (message : Option String)
  deriving Repr

/-- `compute_ws_url`: the address dialled for a gateway URL. -/
def computeWsUrl (gatewayUrl : String) : String :=
  let base := gatewayUrl.toList.rdropWhile (· = '/')
  let base :=
    if "https://".toList.isPrefixOf base then "wss://".toList ++ base.drop "https://".length
    else if "http://".toList.isPrefixOf base then "ws://".toList ++ base.drop "http://".length
    else base
  if "/ws".toList.isSuffixOf base then String.ofList base else String.ofList (base ++ "/ws".toList)

/-- A connection task as its opener sees it. It runs until the sender of its shutdown
channel is dropped. -/
structure Connection where
  serverUrl : String
  gatewayUrl : String
  wsUrl : String
  /-- Queued through the handle, oldest first. -/
  outbound : List GatewayMessage
  deriving Repr

def connectToGateway (serverUrl gatewayUrl : String) : Connection where
  serverUrl := serverUrl
  gatewayUrl := gatewayUrl
  wsUrl := computeWsUrl gatewayUrl
  outbound := []

def Connection.send (conn : Connection) (msg : GatewayMessage) : Connection :=
  { conn with outbound := conn.outbound ++ [msg] }

end Hamlet
