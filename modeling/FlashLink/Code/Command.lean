/-
The commands a host sends.

A command is the kind byte of a frame from host to device, below 80.
The device knows nineteen of them; the link uses nine (connect, the
four of a download, the three of an upload, and the two that end a
session) and can send any.
-/
import FlashLink.Text.Hex

namespace FlashLink

/-- A request from host to device. -/
inductive Command where
  | connect
  | startData
  | midstData
  | endData
  | execData
  | normalReset
  | readFlash
  | readChipType
  | lookupNvItem
  | setBaudrate
  | eraseFlash
  | repartition
  | readMcpType
  | readFlashStart
  | readFlashMidst
  | readFlashEnd
  | offCharge
  | powerDown
  | checkRootFlag
  deriving DecidableEq, Repr, Inhabited

namespace Command

/-- The kind byte of a command. -/
def code : Command → UInt8
  | connect => 0x00
  | startData => 0x01
  | midstData => 0x02
  | endData => 0x03
  | execData => 0x04
  | normalReset => 0x05
  | readFlash => 0x06
  | readChipType => 0x07
  | lookupNvItem => 0x08
  | setBaudrate => 0x09
  | eraseFlash => 0x0A
  | repartition => 0x0B
  | readMcpType => 0x0D
  | readFlashStart => 0x10
  | readFlashMidst => 0x11
  | readFlashEnd => 0x12
  | offCharge => 0x13
  | powerDown => 0x17
  | checkRootFlag => 0x19

/-- The name of a command in messages. -/
def name : Command → String
  | connect => "CONNECT"
  | startData => "START_DATA"
  | midstData => "MIDST_DATA"
  | endData => "END_DATA"
  | execData => "EXEC_DATA"
  | normalReset => "NORMAL_RESET"
  | readFlash => "READ_FLASH"
  | readChipType => "READ_CHIP_TYPE"
  | lookupNvItem => "LOOKUP_NVITEM"
  | setBaudrate => "SET_BAUDRATE"
  | eraseFlash => "ERASE_FLASH"
  | repartition => "REPARTITION"
  | readMcpType => "READ_MCP_TYPE"
  | readFlashStart => "READ_FLASH_START"
  | readFlashMidst => "READ_FLASH_MIDST"
  | readFlashEnd => "READ_FLASH_END"
  | offCharge => "OFF_CHG"
  | powerDown => "POWER_DOWN"
  | checkRootFlag => "CHECK_ROOTFLAG"

/-- Every command, by ascending code. -/
def all : List Command :=
  [connect, startData, midstData, endData, execData,
   normalReset, readFlash, readChipType, lookupNvItem, setBaudrate,
   eraseFlash, repartition, readMcpType, readFlashStart, readFlashMidst,
   readFlashEnd, offCharge, powerDown, checkRootFlag]

/-- The command with a code, if it has one. -/
def ofCode? (code : UInt8) : Option Command := all.find? (·.code == code)

/-- A command as messages show it: name and code. -/
def display (c : Command) : String := s!"{c.name} (0x{Hex.byte c.code})"

/-- Every command is found by its code. -/
theorem ofCode?_code (c : Command) : ofCode? c.code = some c := by
  cases c <;> decide

end Command

end FlashLink
