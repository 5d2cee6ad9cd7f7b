/-
The program: reads the command line, goes as far as it gets without a
channel to a device, and ends with the code of what stopped it.

Pages of help and the version go to standard output, everything else to
standard error. The only file it opens is the one with the settings.
-/
import FlashLink.CommandLine

namespace FlashLink.CommandLine

/-- The failure of a file that the host refused, told by the number the
host gives to it. -/
def fileFailure : IO.Error → FileFailure
  | .inappropriateType _ number _ => if number = 21 then .isADirectory else .notADirectory
  | .invalidArgument _ number _ => if number = 22 then .nulInPath else .nameTooLong
  | _ => .notFound

/-- The text of a file of the host. -/
def readHostFile (path : String) : IO (Except FileFailure String) := do
  try
    let bytes ← IO.FS.readBinFile path
    match Utf8.text? bytes.toList with
    | some text => return .ok text
    | none => return .error .notUtf8
  catch cause => return .error (fileFailure cause)

/-- Runs the program and answers its code. -/
def runProgram (words : List String) : IO UInt32 := do
  let reading ← match parse words with
    | .ok { options := { config := some path, .. }, .. } => readHostFile path
    | _ => pure (.error .notFound)
  let stop := withoutDevice (fun _ => reading) words
  match stop with
  | .refused cause =>
    if cause.isAnswer then IO.print cause.message
    else IO.eprintln s!"error: {cause.message}"
  | .failed cause =>
    IO.eprintln greeting.line
    IO.eprintln (complaint cause).line
  return UInt32.ofNat stop.code

end FlashLink.CommandLine

/-- The entry of the program. -/
def main (words : List String) : IO UInt32 := FlashLink.CommandLine.runProgram words
