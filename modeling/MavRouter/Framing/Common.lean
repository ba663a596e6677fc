import MavRouter.Framing.Scanner

set_option autoImplicit false

namespace MavRouter.Framing

def crcAccumulate (crc : UInt16) (byte : UInt8) : UInt16 :=
  let low := byte ^^^ crc.toUInt8
  let mixed := (low ^^^ (low <<< 4)).toUInt16
  (crc >>> 8) ^^^ (mixed <<< 8) ^^^ (mixed <<< 3) ^^^ (mixed >>> 4)

def crcCalculate (bytes : List UInt8) (extra : UInt8) : UInt16 :=
  crcAccumulate (bytes.foldl crcAccumulate 0xFFFF) extra

inductive CommonMessage where
  | heartbeat (customMode : UInt32) (mavtype autopilot baseMode systemStatus mavlinkVersion : UInt8)
  | fileTransferProtocol (targetNetwork targetSystem targetComponent : UInt8) (payload : List UInt8)
  deriving DecidableEq, Repr

def extraCrc : Nat → UInt8
  | 0 => 50
  | 110 => 84
  | _ => 0

def crcOffset : MavlinkVersion → List UInt8 → Nat
  | .v1, bytes => (bytes.getD 1 0).toNat + 6
  | .v2, bytes => (bytes.getD 1 0).toNat + 10

def commonHasValidCrc (version : MavlinkVersion) (bytes : List UInt8) : Bool :=
  let offset := crcOffset version bytes
  let checksum := (bytes.getD offset 0).toUInt16 ||| ((bytes.getD (offset + 1) 0).toUInt16 <<< 8)
  crcCalculate ((bytes.take offset).drop 1) (extraCrc (messageId version bytes)) == checksum

-- Missing bytes at the end of a payload count as zeros.
def parseHeartbeat (payload : List UInt8) : Except ParserError CommonMessage :=
  let word := (payload.take 4).foldr (fun (byte : UInt8) (above : UInt32) => byte.toUInt32 ||| (above <<< 8)) 0
  let field (index : Nat) := payload.getD index 0
  if field 4 > 42 then .error .invalidEnum
  else if field 5 > 20 then .error .invalidEnum
  else if field 7 > 8 then .error .invalidEnum
  else .ok (.heartbeat word (field 4) (field 5) (field 6) (field 7) (field 8))

def commonParse (_ : MavlinkVersion) (id : Nat) (payload : List UInt8) : Except ParserError CommonMessage :=
  match id with
  | 0 => parseHeartbeat payload
  | 110 =>
    let padded := payload.take 254 ++ List.replicate (254 - payload.length) 0
    .ok (.fileTransferProtocol (padded.getD 0 0) (padded.getD 1 0) (padded.getD 2 0) (padded.drop 3))
  | id => .error (.unknownMessage id)

def common : Dialect CommonMessage where
  hasValidCrc := commonHasValidCrc
  parse := commonParse

def commonReaders : Readers CommonMessage := scanReaders common

def withChecksum (body : List UInt8) (version : MavlinkVersion) (id : Nat) : List UInt8 :=
  let checksum := crcCalculate body (extraCrc id)
  version.stx :: body ++ [checksum.toUInt8, (checksum >>> 8).toUInt8]

def writeV1 (header : MavHeader) (id : Nat) (payload : List UInt8) : List UInt8 :=
  withChecksum ([payload.length.toUInt8, header.sequence, header.systemId, header.componentId, id.toUInt8] ++ payload)
    .v1 id

def writeV2 (header : MavHeader) (id : Nat) (payload : List UInt8) : List UInt8 :=
  withChecksum ([payload.length.toUInt8, 0, 0, header.sequence, header.systemId, header.componentId,
    id.toUInt8, (id / 256).toUInt8, (id / 65536).toUInt8] ++ payload) .v2 id

def heartbeatPayload : List UInt8 := [0, 0, 0, 0, 2, 3, 0, 4, 3]
def unknownTypePayload : List UInt8 := [0, 0, 0, 0, 200, 3, 0, 4, 3]

def heartbeatMessage : CommonMessage := .heartbeat 0 2 3 0 4 3

def heartbeatV1 : ValidFrame common where
  version := .v1
  bytes := writeV1 ⟨1, 1, 0⟩ 0 heartbeatPayload
  message := heartbeatMessage
  complete := ⟨by decide +kernel, by decide +kernel⟩
  valid := by decide +kernel
  decodes := by rfl

def heartbeatV2 : ValidFrame common where
  version := .v2
  bytes := writeV2 ⟨1, 1, 0⟩ 0 heartbeatPayload
  message := heartbeatMessage
  complete := ⟨by decide +kernel, by decide +kernel⟩
  valid := by decide +kernel
  decodes := by rfl

def unknownTypeV2 : RejectedFrame common where
  version := .v2
  bytes := writeV2 ⟨1, 1, 0⟩ 0 unknownTypePayload
  error := .invalidEnum
  complete := ⟨by decide +kernel, by decide +kernel⟩
  valid := by decide +kernel
  fails := by rfl

end MavRouter.Framing
