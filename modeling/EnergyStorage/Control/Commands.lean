import EnergyStorage.Can.Frame
import EnergyStorage.Protocol.DeviceData

namespace EnergyStorage

/-- A CAN frame to send.  The PCU commands carry a mirror of themselves for the
aggregator. -/
structure SendCanCmd where
  canIndex : Int
  frame : CanFrame
  txMirror : Option DeviceData := none

/-- The commands the logic layer issues. -/
inductive Command
  | sendCan (c : SendCanCmd)

namespace Command

def hasTxMirror : Command → Bool
  | .sendCan c => c.txMirror.isSome

def frame : Command → CanFrame
  | .sendCan c => c.frame

end Command
end EnergyStorage
