/-
The words of the command line: verbs with their parameters, and options
with their values.

Everything the reader and the help pages know about a word stands here
once: how it is spelt, what it takes, and the line that explains it.
-/

namespace FlashLink.CommandLine

-- =============================================================== the verbs

/-- What a parameter takes. -/
inductive Kind where
  /-- Any text, even none. -/
  | text
  /-- The path of a file; not empty. -/
  | path
  /-- A number of 32 bits. -/
  | number32
  /-- A number of 64 bits. -/
  | number64
  deriving DecidableEq, Repr, Inhabited

/-- One parameter of a verb. -/
structure Param where
  placeholder : String
  kind : Kind
  about : String := ""
  deriving DecidableEq, Repr, Inhabited

/-- What the program can be told to do. -/
inductive Verb where
  | ready
  | reset
  | shutdown
  | read
  | write
  | dumpBlocks
  deriving DecidableEq, Repr, Inhabited

namespace Verb

/-- All verbs, in the order of the help page. -/
def all : List Verb := [ready, reset, shutdown, read, write, dumpBlocks]

/-- How a verb is spelt. -/
def name : Verb → String
  | ready => "ready"
  | reset => "reset"
  | shutdown => "shutdown"
  | read => "read"
  | write => "write"
  | dumpBlocks => "dump-blocks"

/-- What a verb does. -/
def about : Verb → String
  | ready => "Load FDL1 and FDL2 so partitions can be accessed"
  | reset => "Reboot the device into normal mode"
  | shutdown => "Power the device off"
  | read => "Read a partition into a file"
  | write => "Write a file into a partition"
  | dumpBlocks => "Copy 512-byte blocks of a partition into a file"

/-- What a verb takes, in order. -/
def params : Verb → List Param
  | ready | reset | shutdown => []
  | read =>
    [{ placeholder := "PARTITION", kind := .text },
      { placeholder := "SIZE", kind := .text,
        about := "Bytes to read; accepts k/K and m/M suffixes" },
      { placeholder := "FILE", kind := .path }]
  | write =>
    [{ placeholder := "PARTITION", kind := .text },
      { placeholder := "FILE", kind := .path }]
  | dumpBlocks =>
    [{ placeholder := "PARTITION", kind := .text },
      { placeholder := "START", kind := .number64 },
      { placeholder := "COUNT", kind := .number32 },
      { placeholder := "FILE", kind := .path }]

/-- The verb of a word. -/
def ofName? (word : String) : Option Verb := all.find? (·.name == word)

end Verb

/-- The verb that explains the others. -/
def helpVerb : String := "help"

-- ============================================================= the options

/-- An option with a value, which stands in for a setting. -/
inductive Override where
  | config
  | fdl1
  | fdl2
  | window
  | wait
  deriving DecidableEq, Repr, Inhabited

namespace Override

/-- All options with a value, in the order of the help page. -/
def all : List Override := [config, fdl1, fdl2, window, wait]

/-- How an option is spelt, after its two dashes. -/
def name : Override → String
  | config => "config"
  | fdl1 => "fdl1"
  | fdl2 => "fdl2"
  | window => "window"
  | wait => "wait"

/-- What its value is called. -/
def placeholder : Override → String
  | config => "CONFIG"
  | fdl1 => "FDL1"
  | fdl2 => "FDL2"
  | window => "WINDOW"
  | wait => "WAIT"

/-- What an option is for. -/
def about : Override → String
  | config => "TOML session configuration"
  | fdl1 => "Path to stage-1 loader (fdl1.bin)"
  | fdl2 => "Path to stage-2 loader (fdl2.bin)"
  | window => "Partition read window in bytes"
  | wait => "Seconds to wait for the device to appear"

/-- What an option takes. -/
def kind : Override → Kind
  | config | fdl1 | fdl2 => .path
  | window => .number32
  | wait => .number64

/-- The option of a word. -/
def ofName? (word : String) : Option Override := all.find? (·.name == word)

end Override

/-- An option without a value. -/
inductive Flag where
  | verbose
  | help
  | version
  deriving DecidableEq, Repr, Inhabited

namespace Flag

/-- All options without a value, in the order of the help page. -/
def all : List Flag := [verbose, help, version]

/-- How a flag is spelt, after its two dashes. -/
def name : Flag → String
  | verbose => "verbose"
  | help => "help"
  | version => "version"

/-- The letter of a flag, after its one dash. -/
def letter : Flag → Char
  | verbose => 'v'
  | help => 'h'
  | version => 'V'

/-- What a flag is for. -/
def about : Flag → String
  | verbose => "Enable verbose logging"
  | help => "Print help"
  | version => "Print version"

/-- The flag of a word. -/
def ofName? (word : String) : Option Flag := all.find? (·.name == word)

/-- The flag of a letter. -/
def ofLetter? (c : Char) : Option Flag := all.find? (·.letter == c)

end Flag

end FlashLink.CommandLine
