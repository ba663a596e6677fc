import MavRouter.Router

set_option autoImplicit false

namespace MavRouter.Ingress

inductive MessageKind where
  | commandInt | commandLong | commandAck | commandCancel
  | missionRequestList | missionCount | missionRequest | missionRequestInt | missionItem | missionItemInt
  | missionAck | missionClearAll | missionItemReached | missionCurrent | missionSetCurrent
  | paramRequestRead | paramRequestList | paramSet | paramValue
  | setMode | setPositionTargetLocalNed | setPositionTargetGlobalInt | setAttitudeTarget
  | requestDataStream | ping | changeOperatorControl | changeOperatorControlAck
  | logRequestList | logRequestData | logErase | logRequestEnd | fileTransferProtocol
  | missionRequestPartialList | missionWritePartialList | paramMapRc | safetySetAllowedArea | rcChannelsOverride
  | gpsInjectData | setGpsGlobalOrigin | paramExtSet | paramExtRequestRead | paramExtRequestList
  | loggingData | loggingDataAcked | playTune | playTuneV2 | tunnel | setupSigning
  | gimbalManagerSetAttitude | gimbalManagerSetPitchyaw
  | other
  deriving DecidableEq, Repr

-- What the router reads of a decoded message. A message without one of the fields may have anything there.
class Message (M : Type) where
  messageId : M → UInt32
  kind : M → MessageKind
  targetSystem : M → UInt8
  targetComponent : M → UInt8
  gcsSystemId : M → UInt8

variable {M : Type} [Message M]

def extractTarget (message : M) : MessageTarget :=
  match Message.kind message with
  | .commandAck | .missionItemReached | .missionCurrent | .paramValue | .other => ⟨0, 0⟩
  | .setMode | .setPositionTargetLocalNed | .setPositionTargetGlobalInt | .setAttitudeTarget
  | .changeOperatorControl | .setGpsGlobalOrigin => ⟨Message.targetSystem message, 0⟩
  | .changeOperatorControlAck => ⟨Message.gcsSystemId message, 0⟩
  | _ => ⟨Message.targetSystem message, Message.targetComponent message⟩

end MavRouter.Ingress
