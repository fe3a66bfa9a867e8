import Rstream.Library.Runs
import Rstream.IoRstrm.Client.State
import Rstream.IoRstrm.Credentials

/-!
# The stream handshake

`handshake::async_run_operation` writes one request and, unless the configuration
asks for zero round trips, reads one response. Each definition is its member
function with the same name, as a function on the operation; `stage` says which of
its handlers is waiting, and `sent` keeps the messages handed to the payloader with
what `is_secure` said of the transport.
-/

namespace Rstream.IoRstrm

inductive HandshakeType where
  | streamReq | proxyReq
  deriving DecidableEq, Repr

/-- What a handshake waits for. -/
inductive HandshakeStage where
  | idle
  | writing
  | reading
  | completed (errorCode : ErrorCode)
  deriving DecidableEq, Repr

/-- `handshake::async_run_operation`. -/
structure Handshake where
  type : HandshakeType
  serverAddress : Address
  config : Config
  idName : String
  token : Option String
  stage : HandshakeStage := .idle
  sent : List (Bool × Message) := []
  deriving DecidableEq, Repr

/-- What happens to a handshake: it is run over a transport, its request has been
written, a response has been read. A response of `none` does not parse. -/
inductive HandshakeEvent where
  | run (isSecure : Bool)
  | written (errorCode : ErrorCode)
  | read (errorCode : ErrorCode) (response : Option Message)
  deriving DecidableEq, Repr

namespace Handshake

@[simps]
def onError (h : Handshake) (errorCode : ErrorCode) : Handshake :=
  { h with stage := .completed errorCode }

@[simps]
def onComplete (h : Handshake) : Handshake := { h with stage := .completed .none }

/-- The details of the request: those of the given token, or those the configuration
yields. -/
def clientDetails (surroundings : Surroundings) (host : Host) (h : Handshake) :
    Except ErrorCode ClientDetails :=
  match h.token with
  | some token => .ok (IoRstrm.getClientDetails host (some token))
  | none => surroundings.getClientDetails host.identity h.config h.serverAddress

def request (h : Handshake) (details : ClientDetails) : Message :=
  match h.type with
  | .streamReq => .streamReq details h.idName h.config.zeroRtt
  | .proxyReq => .proxyReq details h.idName h.config.zeroRtt

def doWriteRequest (surroundings : Surroundings) (host : Host) (h : Handshake)
    (isSecure : Bool) : Handshake :=
  match h.clientDetails surroundings host with
  | .error errorCode => h.onError errorCode
  | .ok details =>
    if details.token.isSome ∧ ¬isSecure then h.onError Error.Code.protocolError
    else if host.serializes (h.request details) then
      { h with stage := .writing, sent := h.sent ++ [(isSecure, h.request details)] }
    else h.onError Error.Code.protocolError

def onWriteRequest (h : Handshake) (errorCode : ErrorCode) : Handshake :=
  if errorCode.failed then h.onError errorCode
  else if h.config.zeroRtt then h.onComplete
  else { h with stage := .reading }

/-- The error code that `on_read_incoming_protobuf_message` makes of a response. -/
def responseError (type : HandshakeType) (message : Message) : ErrorCode :=
  match type, message with
  | .streamReq, .streamRsp payload =>
    match payload with
    | .error error => Error.makeErrorCode error.code
    | .streamId _ => .none
    | .notSet => Error.Code.protocolError
  | .proxyReq, .proxyRsp error => error.elim .none fun error => Error.makeErrorCode error.code
  | _, _ => Error.Code.protocolError

def onReadIncomingProtobufMessage (h : Handshake) (message : Message) : Handshake :=
  if (responseError h.type message).failed then h.onError (responseError h.type message)
  else h.onComplete

theorem stage_onReadIncomingProtobufMessage (h : Handshake) (message : Message) :
    (h.onReadIncomingProtobufMessage message).stage =
      .completed (if (responseError h.type message).failed then responseError h.type message
        else .none) := by
  unfold onReadIncomingProtobufMessage
  split <;> rfl

def onReadResponse (h : Handshake) (errorCode : ErrorCode) (response : Option Message) :
    Handshake :=
  if errorCode.failed then h.onError errorCode
  else
    match response with
    | some message => h.onReadIncomingProtobufMessage message
    | none => h.onError Error.Code.protocolError

/-- One step of a handshake. -/
def step (surroundings : Surroundings) (host : Host) (h : Handshake) :
    HandshakeEvent → Option Handshake
  | .run isSecure =>
    if h.stage = .idle then some (h.doWriteRequest surroundings host isSecure) else none
  | .written errorCode => if h.stage = .writing then some (h.onWriteRequest errorCode) else none
  | .read errorCode response =>
    if h.stage = .reading then some (h.onReadResponse errorCode response) else none

end Handshake

end Rstream.IoRstrm
