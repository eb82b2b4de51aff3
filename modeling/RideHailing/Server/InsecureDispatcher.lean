import RideHailing.Server.Dispatcher

/-!
# The insecure dispatcher

`handle_client_insecure` serves one packet and closes the connection.  It looks
at the opcode only: the type, the checksum and the limiter play no part, and
nothing is encrypted.  The type of its answer is never assigned and is whatever
the stack holds.
-/

namespace RideHailing.Server

open RideHailing.Bytes
open RideHailing.Common

universe u

variable {γ : Type u}

/-- The header that `send_response_packet_insecure` puts before a message, over
the byte that `resp_header.type` happens to hold. -/
def insecureResponseHeader (padding : UInt8) (respMsg : List UInt8) (len : Nat)
    (opcode : UInt16) : ProtocolHeader where
  length := UInt32.ofNat len
  type := padding
  opcode := opcode
  checksum := calculateChecksum respMsg len

/-- `send_response_packet_insecure`. -/
def sendResponsePacketInsecure {n : Nat} (padding : UInt8) (respMsg : Region n) (len : Nat)
    (opcode : UInt16) (world : World γ) : World γ :=
  let header := insecureResponseHeader padding respMsg.bytes len opcode
  (world.send header.encode).send (respMsg.bytes.take len)

/-- The answer of the service. -/
def replyPlain (padding : UInt8) (text : CString) (world : World γ) : World γ :=
  sendResponsePacketInsecure padding (responseBuffer text) (responseBuffer text).cString.length
    opResponse world

/-- `process_ride_request_insecure_wrapper`. -/
def processRideRequestInsecureWrapper (env : Env γ) (padding : UInt8) (body : Region 1024)
    (world : World γ) : Exit γ :=
  match serveRequest env (requestClientId body.bytes) world with
  | none => .killed world
  | some (text, served) => .returned (replyPlain padding text served)

/-- The switch of `handle_client_insecure`. -/
def switchInsecure (env : Env γ) (padding : UInt8) (header : ProtocolHeader)
    (body : Region 1024) (world : World γ) : Exit γ :=
  if header.opcode = opReqRide then processRideRequestInsecureWrapper env padding body world
  else if header.opcode = opDriverJoin then processDriverJoinPacket body world
  else .returned world

/-- `handle_client_insecure`; its two buffers are not initialised. -/
def handleClientInsecure (env : Env γ) (padding : UInt8)
    (header : Vector UInt8 ProtocolHeader.size) (body : Vector UInt8 1024) (socket : ReadEnd)
    (world : World γ) : Exit γ :=
  if (recvN socket ProtocolHeader.size).ret ≤ 0 then .returned world
  else
    let merged := (Region.ofVector header).write (recvN socket ProtocolHeader.size).data
    let length := (ProtocolHeader.decode merged.bytes).length.toNat
    if 1024 < length then .returned world
    else
      match receiveBody length (recvN socket ProtocolHeader.size).rest (.ofVector body) with
      | none => .returned world
      | some (received, _) =>
          switchInsecure env padding (ProtocolHeader.decode merged.bytes) received world

end RideHailing.Server
