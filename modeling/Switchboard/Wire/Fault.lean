/-!
# Faults

What can go wrong between the desk and the server. Only a fault of the connection itself ends it.
-/

namespace Switchboard.Wire

inductive FaultCode where
  | malformed
  | unknownType
  | disconnected
  | sendFailed
  | downloadFailed
deriving DecidableEq, Repr

def FaultCode.text : FaultCode → String
  | malformed => "MALFORMED"
  | unknownType => "UNKNOWN_TYPE"
  | disconnected => "DISCONNECTED"
  | sendFailed => "SEND_FAILED"
  | downloadFailed => "DOWNLOAD_FAILED"

def FaultCode.endsConnection : FaultCode → Bool
  | malformed | unknownType | downloadFailed => false
  | disconnected | sendFailed => true

structure Fault where
  code : FaultCode
  message : String
deriving DecidableEq, Repr

def Fault.text (f : Fault) : String := "[" ++ f.code.text ++ "] " ++ f.message

end Switchboard.Wire
