import Rstream.IoRstrm.Types

/-!
# Messages of the engine protocol

`protobuf::Message` is a oneof over the requests and responses of the control
channel and of the stream handshake. A value of `Message` is a parsed message:
a wrapper field is an `Option`, a oneof inside a response is a sum with a case
for the unset oneof. Error codes are integers because the proto3 enumeration is
open: a peer may send any of them, known or not, and zero.
-/

namespace Rstream.IoRstrm

/-- `protobuf::Error`. -/
structure WireError where
  code : Int
  message : Option String := none
  deriving DecidableEq, Repr

/-- `protobuf::IpAddress`. -/
inductive WireIpAddress where
  | notSet
  | v4 (value : Nat)
  | v6 (bytes : List UInt8)
  deriving DecidableEq, Repr

/-- `convert(boost::asio::ip::address&, const protobuf::IpAddress&)`; `none` is
the exception the conversion throws. -/
def WireIpAddress.convert : WireIpAddress → Option IpAddress
  | .notSet => none
  | .v4 value => some (.v4 value)
  | .v6 bytes => if bytes.length = 16 then some (.v6 bytes) else none

/-- The oneof of `protobuf::OpenControlChannelRsp`. The status holds the fields
of `server_details` that the client reads. -/
inductive OpenControlChannelRsp where
  | notSet
  | ok (clientId : String) (serverDetails : Option Status)
  | error (error : WireError)
  deriving DecidableEq, Repr

/-- The oneof of `protobuf::OpenTunnelRsp`. -/
inductive OpenTunnelRsp where
  | notSet
  | tunnelProperties (properties : TunnelProperties)
  | error (error : WireError)
  deriving DecidableEq, Repr

structure ProxyConnReq where
  tunnelId : String
  streamId : String
  secret : Option String := none
  sourceIp : Option WireIpAddress := none
  proxyEndpoint : Option String := none
  deriving DecidableEq, Repr

/-- The oneof of `protobuf::StreamRsp`. -/
inductive StreamRsp where
  | notSet
  | streamId (streamId : String)
  | error (error : WireError)
  deriving DecidableEq, Repr

inductive Message where
  | notSet
  | openControlChannelReq (details : ClientDetails)
  | openControlChannelRsp (payload : OpenControlChannelRsp)
  | closeControlChannelReq
  | closeControlChannelRsp
  | openTunnelReq (requestId : String) (properties : TunnelProperties)
  | openTunnelRsp (requestId : String) (payload : OpenTunnelRsp)
  | closeTunnelReq (tunnelId : String)
  | closeTunnelRsp (tunnelId : String)
  | proxyConnReq (request : ProxyConnReq)
  | proxyConnRsp (streamId : String) (error : Option WireError)
  | proxyReq (details : ClientDetails) (streamId : String) (zeroRtt : Bool)
  | proxyRsp (error : Option WireError)
  | streamReq (details : ClientDetails) (tunnelIdName : String) (zeroRtt : Bool)
  | streamRsp (payload : StreamRsp)
  | heartbeat
  | serverMessage (text : String)
  | datagramChannelClose (streamId : String) (error : Option WireError)
  deriving DecidableEq, Repr

/-- The client token a message carries. -/
def Message.token : Message → Option String
  | .openControlChannelReq details => details.token
  | .proxyReq details _ _ => details.token
  | .streamReq details _ _ => details.token
  | _ => none

/-- `boost::algorithm::trim_copy(text).empty()`: every character is white space
of the classic locale. -/
def isBlank (text : String) : Bool :=
  text.toList.all fun c => c == ' ' || (9 ≤ c.toNat && c.toNat ≤ 13)

end Rstream.IoRstrm
