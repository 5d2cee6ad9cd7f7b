/-
Settings as text: a TOML document with one key for each field.

Reading takes the fields that are there and keeps the standard value of
those that are not; a field of the wrong kind or out of range spoils
the whole, a key that is no field does not matter. Writing puts every
field on a line of its own, in order, and refuses a number that a TOML
integer cannot hold.
-/
import FlashLink.Files
import FlashLink.Settings
import FlashLink.Toml.Document

namespace FlashLink

namespace Settings

-- =============================================================== reading

/-- The text under a key, or what stands in for it. -/
def textOf (entries : Toml.Entries) (key standard : String) : Option String :=
  match entries.get? key with
  | none => some standard
  | some (.text value) => some value
  | some _ => none

/-- The number below `bound` under a key, or what stands in for it. -/
def numberOf (entries : Toml.Entries) (bound : Nat) (key : String) (standard : Nat) :
    Option Nat :=
  match entries.get? key with
  | none => some standard
  | some (.integer value) => if 0 ≤ value ∧ value < bound then some value.toNat else none
  | some _ => none

/-- The 32-bit number under a key. -/
def wordOf (entries : Toml.Entries) (key : String) (standard : UInt32) : Option UInt32 :=
  (numberOf entries UInt32.size key standard.toNat).map UInt32.ofNat

/-- The 64-bit number under a key. -/
def longOf (entries : Toml.Entries) (key : String) (standard : UInt64) : Option UInt64 :=
  (numberOf entries UInt64.size key standard.toNat).map UInt64.ofNat

/-- The settings that entries name. -/
def ofEntries (entries : Toml.Entries) : Option Settings := do
  return {
    firstPath := ← textOf entries "fdl1_path" standard.firstPath
    firstAddress := ← wordOf entries "fdl1_address" standard.firstAddress
    firstWindow := ← wordOf entries "fdl1_window" standard.firstWindow
    secondPath := ← textOf entries "fdl2_path" standard.secondPath
    secondAddress := ← wordOf entries "fdl2_address" standard.secondAddress
    secondWindow := ← wordOf entries "fdl2_window" standard.secondWindow
    uploadWindow := ← wordOf entries "upload_window" standard.uploadWindow
    downloadWindow := ← wordOf entries "download_window" standard.downloadWindow
    timeout := ← longOf entries "timeout_ms" standard.timeout
    deviceWait := ← longOf entries "device_wait_secs" standard.deviceWait }

/-- The settings a text holds. -/
def ofText? (text : String) : Option Settings := (Toml.read? text).bind ofEntries

-- =============================================================== writing

/-- The line of a field with a text. -/
def textLine (key value : String) : String :=
  s!"{key} = {String.ofList (Toml.Quoted.write value.toList)}\n"

/-- The line of a field with a number. -/
def numberLine (key : String) (value : Nat) : String := s!"{key} = {value}\n"

/-- The text of settings, if every number fits a TOML integer. -/
def toText? (s : Settings) : Option String :=
  if s.timeout.toNat < Toml.Scalar.integerBound ∧
      s.deviceWait.toNat < Toml.Scalar.integerBound then
    some (String.join
      [textLine "fdl1_path" s.firstPath,
        numberLine "fdl1_address" s.firstAddress.toNat,
        numberLine "fdl1_window" s.firstWindow.toNat,
        textLine "fdl2_path" s.secondPath,
        numberLine "fdl2_address" s.secondAddress.toNat,
        numberLine "fdl2_window" s.secondWindow.toNat,
        numberLine "upload_window" s.uploadWindow.toNat,
        numberLine "download_window" s.downloadWindow.toNat,
        numberLine "timeout_ms" s.timeout.toNat,
        numberLine "device_wait_secs" s.deviceWait.toNat])
  else none

end Settings

-- ================================================================= files

/-- Why settings could not be loaded or saved. -/
inductive SettingsFailure where
  /-- The file cannot be read or written. -/
  | file (cause : FileFailure)
  /-- The file holds no settings. -/
  | malformed
  /-- A number is too large to be written. -/
  | unwritable
  deriving DecidableEq, Repr, Inhabited

namespace Settings

/-- The settings in what was read of a file. -/
def ofReading : Except FileFailure String → Except SettingsFailure Settings
  | .error cause => .error (.file cause)
  | .ok text =>
    match ofText? text with
    | some settings => .ok settings
    | none => .error .malformed

/-- The settings in a file. -/
def load (files : Files) (path : String) : Except SettingsFailure Settings :=
  ofReading (files.readText path)

/-- The files after settings were saved. -/
def save (s : Settings) (files : Files) (path : String) : Except SettingsFailure Files :=
  match s.toText? with
  | none => .error .unwritable
  | some text => (files.write path (Utf8.encode text)).mapError .file

end Settings

end FlashLink
