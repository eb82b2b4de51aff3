import RideHailing.Arithmetic.Machine
import RideHailing.Bytes.LittleEndian
import RideHailing.Bytes.Region

/-!
# The wire protocol

Packed structures are modelled by their little-endian encodings.  A structure
read from a buffer is decoded from the bytes at its start, whatever the buffer
holds there.
-/

namespace RideHailing.Common

open RideHailing.Arithmetic
open RideHailing.Bytes

/-- `MSG_TYPE_RIDE_REQ`. -/
def msgTypeRideReq : UInt8 := 1

/-- `MSG_TYPE_RIDE_RESP`. -/
def msgTypeRideResp : UInt8 := 2

/-- `MSG_TYPE_HANDSHAKE`. -/
def msgTypeHandshake : UInt8 := 3

/-- `MSG_TYPE_HANDSHAKE_ACK`. -/
def msgTypeHandshakeAck : UInt8 := 4

/-- `OP_REQ_RIDE`. -/
def opReqRide : UInt16 := 0x0001

/-- `OP_DRIVER_JOIN`. -/
def opDriverJoin : UInt16 := 0x0002

/-- `OP_RESPONSE`. -/
def opResponse : UInt16 := 0x8000

/-- `OP_HANDSHAKE`. -/
def opHandshake : UInt16 := 0x0004

/-- The unsigned field of `width` bytes at an offset. -/
def field (bytes : List UInt8) (offset width : Nat) : Nat :=
  ofLittleEndian ((bytes.drop offset).take width)

/-- A field reads only the bytes it covers. -/
theorem field_congr {first second : List UInt8} {offset width bound : Nat}
    (agree : first.take bound = second.take bound) (within : offset + width ≤ bound) :
    field first offset width = field second offset width := by
  have restrict : ∀ bytes : List UInt8,
      (bytes.drop offset).take width =
        ((bytes.take bound).drop offset).take width := by
    intro bytes
    rw [List.drop_take, List.take_take, Nat.min_eq_left (by omega)]
  rw [field, field, restrict first, restrict second, agree]

/-- The bytes that a field covers, from its value. -/
theorem toLittleEndian_field {bytes : List UInt8} {offset width : Nat}
    (inside : offset + width ≤ bytes.length) :
    toLittleEndian width (field bytes offset width) = (bytes.drop offset).take width := by
  have size : ((bytes.drop offset).take width).length = width := by
    rw [List.length_take, List.length_drop]
    omega
  have whole := toLittleEndian_ofLittleEndian ((bytes.drop offset).take width)
  rwa [size] at whole

theorem field_lt (bytes : List UInt8) (offset width : Nat) :
    field bytes offset width < 256 ^ width := by
  apply Nat.lt_of_lt_of_le (ofLittleEndian_lt _)
  exact Nat.pow_le_pow_right (by norm_num) (List.length_take_le _ _)

/-- The field written at an offset is read back from there. -/
theorem field_toLittleEndian (low high : List UInt8) {width value : Nat}
    (fits : value < 256 ^ width) :
    field (low ++ (toLittleEndian width value ++ high)) low.length width = value := by
  have exact : ((toLittleEndian width value ++ high).take width) =
      toLittleEndian width value :=
    List.take_left' (length_toLittleEndian width value)
  rw [field, List.drop_left, exact, ofLittleEndian_toLittleEndian_of_lt fits]

/-! ## Packet header -/

/-- `ProtocolHeader`, packed into nine bytes. -/
structure ProtocolHeader where
  length : UInt32
  type : UInt8
  opcode : UInt16
  checksum : UInt16
  deriving DecidableEq

namespace ProtocolHeader

/-- `sizeof(ProtocolHeader)`. -/
abbrev size : Nat := 9

def encode (header : ProtocolHeader) : List UInt8 :=
  toLittleEndian 4 header.length.toNat ++ toLittleEndian 1 header.type.toNat ++
    toLittleEndian 2 header.opcode.toNat ++ toLittleEndian 2 header.checksum.toNat

def decode (bytes : List UInt8) : ProtocolHeader where
  length := UInt32.ofNat (field bytes 0 4)
  type := UInt8.ofNat (field bytes 4 1)
  opcode := UInt16.ofNat (field bytes 5 2)
  checksum := UInt16.ofNat (field bytes 7 2)

@[simp]
theorem length_encode (header : ProtocolHeader) : header.encode.length = size := by
  simp [encode]

/-- The header read back from a buffer that starts with its encoding. -/
theorem decode_encode_append (header : ProtocolHeader) (rest : List UInt8) :
    decode (header.encode ++ rest) = header := by
  have lengthFits : header.length.toNat < 256 ^ 4 := header.length.toNat_lt
  have typeFits : header.type.toNat < 256 ^ 1 := header.type.toNat_lt
  have opcodeFits : header.opcode.toNat < 256 ^ 2 := header.opcode.toNat_lt
  have checksumFits : header.checksum.toNat < 256 ^ 2 := header.checksum.toNat_lt
  let lengthBytes := toLittleEndian 4 header.length.toNat
  let typeBytes := toLittleEndian 1 header.type.toNat
  let opcodeBytes := toLittleEndian 2 header.opcode.toNat
  let checksumBytes := toLittleEndian 2 header.checksum.toNat
  have lengthField : field (header.encode ++ rest) 0 4 = header.length.toNat := by
    simpa [encode] using
      field_toLittleEndian [] (typeBytes ++ opcodeBytes ++ checksumBytes ++ rest) lengthFits
  have typeField : field (header.encode ++ rest) 4 1 = header.type.toNat := by
    simpa [encode, lengthBytes] using
      field_toLittleEndian lengthBytes (opcodeBytes ++ checksumBytes ++ rest) typeFits
  have opcodeField : field (header.encode ++ rest) 5 2 = header.opcode.toNat := by
    simpa [encode, lengthBytes, typeBytes] using
      field_toLittleEndian (lengthBytes ++ typeBytes) (checksumBytes ++ rest) opcodeFits
  have checksumField : field (header.encode ++ rest) 7 2 = header.checksum.toNat := by
    simpa [encode, lengthBytes, typeBytes, opcodeBytes] using
      field_toLittleEndian (lengthBytes ++ typeBytes ++ opcodeBytes) rest checksumFits
  rw [decode, lengthField, typeField, opcodeField, checksumField]
  simp

@[simp]
theorem decode_encode (header : ProtocolHeader) : decode header.encode = header := by
  simpa using decode_encode_append header []

/-- Nine bytes are a header, whatever they are. -/
theorem encode_decode {bytes : List UInt8} (whole : bytes.length = size) :
    (decode bytes).encode = bytes := by
  have nine : bytes.length = 9 := whole
  have lengthFits : field bytes 0 4 < 2 ^ 32 := field_lt bytes 0 4
  have typeFits : field bytes 4 1 < 2 ^ 8 := field_lt bytes 4 1
  have opcodeFits : field bytes 5 2 < 2 ^ 16 := field_lt bytes 5 2
  have checksumFits : field bytes 7 2 < 2 ^ 16 := field_lt bytes 7 2
  rw [encode, decode, UInt32.toNat_ofNat_of_lt' lengthFits, UInt8.toNat_ofNat_of_lt' typeFits,
    UInt16.toNat_ofNat_of_lt' opcodeFits, UInt16.toNat_ofNat_of_lt' checksumFits]
  rw [toLittleEndian_field (by omega), toLittleEndian_field (by omega),
    toLittleEndian_field (by omega), toLittleEndian_field (by omega)]
  rw [List.drop_zero, ← List.take_add, ← List.take_add, ← List.take_add]
  exact List.take_of_length_le (Nat.le_of_eq whole)

end ProtocolHeader

/-! ## Bodies -/

/-- `HandshakeData.public_key`, a signed 64-bit field. -/
def publicKeyField (bytes : List UInt8) : Int :=
  wrap64 (field bytes 0 8)

/-- `sizeof(HandshakeData)`. -/
abbrev handshakeDataSize : Nat := 8

/-- The bytes of a `HandshakeData`. -/
def encodeHandshakeData (publicKey : Int) : List UInt8 :=
  toLittleEndian 8 (publicKey % 2 ^ 64).toNat

@[simp]
theorem length_encodeHandshakeData (publicKey : Int) :
    (encodeHandshakeData publicKey).length = handshakeDataSize := by
  simp [encodeHandshakeData]

/-- A public key that fits its field survives the wire. -/
theorem publicKeyField_encodeHandshakeData {publicKey : Int} (lower : -2 ^ 63 ≤ publicKey)
    (upper : publicKey < 2 ^ 63) (rest : List UInt8) :
    publicKeyField (encodeHandshakeData publicKey ++ rest) = publicKey := by
  have small : (publicKey % 2 ^ 64).toNat < 256 ^ 8 := by omega
  have read : field (encodeHandshakeData publicKey ++ rest) 0 8 =
      (publicKey % 2 ^ 64).toNat := by
    simpa [encodeHandshakeData] using field_toLittleEndian [] rest small
  rw [publicKeyField, read, Int.toNat_of_nonneg (Int.emod_nonneg _ (by norm_num)), wrap64]
  have reduce : (publicKey % (2 ^ 64 : Nat)).bmod (2 ^ 64) = publicKey.bmod (2 ^ 64) :=
    Int.emod_bmod _ _
  rw [show ((2 : Int) ^ 64) = ((2 ^ 64 : Nat) : Int) by norm_num, reduce]
  exact wrap64_eq_self lower upper

/-- `RideRequestData`; the two coordinates are kept as bit patterns. -/
structure RideRequestData where
  clientId : UInt32
  type : UInt32
  lat : UInt64
  lon : UInt64
  deriving DecidableEq

/-- `sizeof(RideRequestData)`. -/
abbrev rideRequestDataSize : Nat := 24

def RideRequestData.encode (request : RideRequestData) : List UInt8 :=
  toLittleEndian 4 request.clientId.toNat ++ toLittleEndian 4 request.type.toNat ++
    toLittleEndian 8 request.lat.toNat ++ toLittleEndian 8 request.lon.toNat

@[simp]
theorem RideRequestData.length_encode (request : RideRequestData) :
    request.encode.length = rideRequestDataSize := by
  simp [encode]

/-- `RideRequestData.client_id` of a buffer. -/
def clientIdField (bytes : List UInt8) : UInt32 :=
  UInt32.ofNat (field bytes 0 4)

theorem RideRequestData.clientIdField_encode (request : RideRequestData) :
    clientIdField request.encode = request.clientId := by
  have fits : request.clientId.toNat < 256 ^ 4 := request.clientId.toNat_lt
  have read : field request.encode 0 4 = request.clientId.toNat := by
    simpa [encode] using
      field_toLittleEndian []
        (toLittleEndian 4 request.type.toNat ++ toLittleEndian 8 request.lat.toNat ++
          toLittleEndian 8 request.lon.toNat) fits
  rw [clientIdField, read, UInt32.ofNat_toNat]

/-- `DriverJoinData.driver_id` of a buffer. -/
def driverIdField (bytes : List UInt8) : UInt32 :=
  UInt32.ofNat (field bytes 0 4)

/-- `sizeof(DriverJoinData)`. -/
abbrev driverJoinDataSize : Nat := 4

/-! ## Checksum -/

/-- The 32-bit sum of a byte list. -/
def byteSum (data : List UInt8) : Nat :=
  data.foldl (fun sum byte => (sum + byte.toNat) % 2 ^ 32) 0

/-- `while (sum >> 16) sum = (sum & 0xFFFF) + (sum >> 16)`, with a bound on the
number of iterations. -/
def foldCarry : Nat → Nat → Nat
  | 0, sum => sum
  | fuel + 1, sum =>
      if sum >>> 16 = 0 then sum else foldCarry fuel ((sum &&& 0xFFFF) + (sum >>> 16))

/-- `calculate_checksum` of the first `len` bytes. -/
def calculateChecksum (data : List UInt8) (len : Nat) : UInt16 :=
  let sum := byteSum (data.take len)
  ~~~ UInt16.ofNat (foldCarry sum sum)

/-- The checksum covers the first `len` bytes only. -/
theorem calculateChecksum_congr {first second : List UInt8} {len : Nat}
    (agree : first.take len = second.take len) :
    calculateChecksum first len = calculateChecksum second len := by
  simp only [calculateChecksum, agree]

/-- The checksum of an empty body does not depend on the buffer. -/
theorem calculateChecksum_zero (data : List UInt8) :
    calculateChecksum data 0 = 0xFFFF := by
  rw [calculateChecksum, List.take_zero]
  decide

end RideHailing.Common
