import EnergyStorage.Lib.BitField

namespace EnergyStorage

def canEffFlag : BitVec 32 := 0x80000000#32
def canEffMask : BitVec 32 := 0x1FFFFFFF#32

/-- A classic CAN frame.  The eight data bytes are one little-endian word: byte
`i` is the bits from `8 * i` to `8 * i + 7`. -/
structure CanFrame where
  canId : BitVec 32
  canDlc : Nat
  data : BitVec 64
  deriving DecidableEq, Repr

namespace CanFrame

def byte (fr : CanFrame) (i : Nat) : Nat := Lib.BitField.read fr.data (8 * i) 8

def id29 (fr : CanFrame) : BitVec 32 := fr.canId &&& canEffMask

def isExtended (fr : CanFrame) : Bool := fr.canId &&& canEffFlag != 0#32

end CanFrame
end EnergyStorage
