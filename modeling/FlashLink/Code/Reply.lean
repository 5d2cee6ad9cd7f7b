/-
The codes a device answers with.

A reply is the kind byte of a frame from device to host, 80 and above.
Thirty-two codes have names; a device may answer with any other byte,
an echoed command included, and such a code is kept as it is, so that
judging a reply never loses what the device said.

`ofCode` and `code` are inverse on what `ofCode` makes: the same code
never has two readings.
-/
import FlashLink.Text.Hex

namespace FlashLink

/-- An answer from device to host. -/
inductive Reply where
  | ack
  | version
  | invalidCommand
  | unknownCommand
  | operationFailed
  | notSupportBaudrate
  | downNotStart
  | downMultiStart
  | downEarlyEnd
  | downDestError
  | downSizeError
  | verifyError
  | notVerify
  | notEnoughMemory
  | waitInputTimeout
  | succeed
  | validBaudrate
  | repeatContinue
  | repeatBreak
  | readFlashData
  | readChipType
  | lookupNvItem
  | incompatiblePartition
  | unknownDevice
  | invalidDeviceSize
  | illegalSdram
  | wrongSdramParameter
  | readMcpType
  | checksumError
  | checksumDiff
  | writeError
  | rootFlag
  /-- A code without a name. -/
  | other (code : UInt8)
  deriving DecidableEq, Repr, Inhabited

namespace Reply

/-- The kind byte of a reply. -/
def code : Reply → UInt8
  | ack => 0x80
  | version => 0x81
  | invalidCommand => 0x82
  | unknownCommand => 0x83
  | operationFailed => 0x84
  | notSupportBaudrate => 0x85
  | downNotStart => 0x86
  | downMultiStart => 0x87
  | downEarlyEnd => 0x88
  | downDestError => 0x89
  | downSizeError => 0x8A
  | verifyError => 0x8B
  | notVerify => 0x8C
  | notEnoughMemory => 0x8D
  | waitInputTimeout => 0x8E
  | succeed => 0x8F
  | validBaudrate => 0x90
  | repeatContinue => 0x91
  | repeatBreak => 0x92
  | readFlashData => 0x93
  | readChipType => 0x94
  | lookupNvItem => 0x95
  | incompatiblePartition => 0x96
  | unknownDevice => 0x97
  | invalidDeviceSize => 0x98
  | illegalSdram => 0x99
  | wrongSdramParameter => 0x9A
  | readMcpType => 0x9B
  | checksumError => 0xA0
  | checksumDiff => 0xA1
  | writeError => 0xA2
  | rootFlag => 0xA7
  | other code => code

/-- The name of a reply in messages. -/
def name : Reply → String
  | ack => "Ack"
  | version => "Version"
  | invalidCommand => "InvalidCommand"
  | unknownCommand => "UnknownCommand"
  | operationFailed => "OperationFailed"
  | notSupportBaudrate => "NotSupportBaudrate"
  | downNotStart => "DownNotStart"
  | downMultiStart => "DownMultiStart"
  | downEarlyEnd => "DownEarlyEnd"
  | downDestError => "DownDestError"
  | downSizeError => "DownSizeError"
  | verifyError => "VerifyError"
  | notVerify => "NotVerify"
  | notEnoughMemory => "NotEnoughMemory"
  | waitInputTimeout => "WaitInputTimeout"
  | succeed => "Succeed"
  | validBaudrate => "ValidBaudrate"
  | repeatContinue => "RepeatContinue"
  | repeatBreak => "RepeatBreak"
  | readFlashData => "ReadFlashData"
  | readChipType => "ReadChipType"
  | lookupNvItem => "LookupNvItem"
  | incompatiblePartition => "IncompatiblePartition"
  | unknownDevice => "UnknownDevice"
  | invalidDeviceSize => "InvalidDeviceSize"
  | illegalSdram => "IllegalSdram"
  | wrongSdramParameter => "WrongSdramParameter"
  | readMcpType => "ReadMcpType"
  | checksumError => "ChecksumError"
  | checksumDiff => "ChecksumDiff"
  | writeError => "WriteError"
  | rootFlag => "RootFlag"
  | other _ => "UNKNOWN"

/-- Every reply that has a name, by ascending code. -/
def named : List Reply :=
  [ack, version, invalidCommand, unknownCommand,
   operationFailed, notSupportBaudrate, downNotStart, downMultiStart,
   downEarlyEnd, downDestError, downSizeError, verifyError,
   notVerify, notEnoughMemory, waitInputTimeout, succeed,
   validBaudrate, repeatContinue, repeatBreak, readFlashData,
   readChipType, lookupNvItem, incompatiblePartition, unknownDevice,
   invalidDeviceSize, illegalSdram, wrongSdramParameter, readMcpType,
   checksumError, checksumDiff, writeError, rootFlag]

/-- The reply a code stands for. -/
def ofCode (code : UInt8) : Reply :=
  (named.find? (·.code == code)).getD (other code)

/-- Whether the code has a name. -/
def isNamed : Reply → Bool
  | other _ => false
  | _ => true

/-- Whether the device reports a failure. A code without a name counts
as one. -/
def isError : Reply → Bool
  | ack | version | succeed | validBaudrate | repeatContinue | repeatBreak
  | readFlashData | readChipType | lookupNvItem | readMcpType | rootFlag => false
  | _ => true

/-- A reply as messages show it: name and code. -/
def display (r : Reply) : String := s!"{r.name} (0x{Hex.byte r.code})"

/-- A code is read back from the reply it stands for. -/
@[simp] theorem code_ofCode (code : UInt8) : (ofCode code).code = code := by
  unfold ofCode
  cases h : named.find? (·.code == code) with
  | none => rfl
  | some r => simpa using List.find?_some h

end Reply

end FlashLink
