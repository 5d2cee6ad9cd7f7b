/-
Reading a command line.

Words are read from the left. Options come before the verb; an option
takes its value after an equals sign or from the next word, whatever
that word is, unless it looks like an option. The verb takes all words
after it. Two dashes end the options: from then on every word is a
value.

A value that was taken is not looked at at once: it is pending, and
judged when the next option or value arrives or the words end. Hence
which of two faults is reported: an unknown word is reported before a
bad value in front of it, a fault of the verb before that of an option
right in front of the verb, and a request for help at once.
-/
import FlashLink.CommandLine.Help

namespace FlashLink.CommandLine

-- ============================================================== refusals

/-- Why a command line is not carried out. -/
inductive Refusal where
  /-- A page of help was asked for. -/
  | help (page : Page)
  /-- The version was asked for. -/
  | version
  /-- Nothing was given at all. -/
  | nothingGiven
  | missingVerb
  | unknownVerb
  | unknownArgument
  | missingArgument
  /-- An option was given twice. -/
  | repeated
  /-- A flag was given a value. -/
  | needlessValue
  /-- A value is missing or empty. -/
  | emptyValue
  /-- A value is no number, or out of range. -/
  | badNumber
  deriving DecidableEq, Repr, Inhabited

/-- What a refusal says. -/
def Refusal.message : Refusal → String
  | help page => page.text
  | version => Page.version
  | nothingGiven => Page.program.text
  | missingVerb => "a subcommand is required"
  | unknownVerb => "unrecognized subcommand"
  | unknownArgument => "unexpected argument"
  | missingArgument => "a required argument was not provided"
  | repeated => "an argument cannot be used multiple times"
  | needlessValue => "unexpected value for a flag"
  | emptyValue => "a value is required but none was supplied"
  | badNumber => "invalid value for a number"

/-- Whether a refusal only shows what was asked for. -/
def Refusal.isAnswer : Refusal → Bool
  | help _ | version => true
  | _ => false

-- ================================================================ values

/-- A value that was read. -/
inductive Given where
  | text (value : String)
  | number (value : Nat)
  deriving DecidableEq, Repr, Inhabited

/-- The value of decimal digits, at least one. -/
def digits? (s : List Char) : Option Nat :=
  if s.isEmpty || !s.all Char.isDigit then none
  else some (s.foldl (fun n c => 10 * n + (c.toNat - '0'.toNat)) 0)

/-- A number that may have a plus sign. -/
def natural? : List Char → Option Nat
  | '+' :: rest => digits? rest
  | s => digits? s

/-- A number that is not negative, though it may have a minus sign. -/
def signedNatural? : List Char → Option Nat
  | '-' :: rest => (digits? rest).filter (· = 0)
  | s => natural? s

namespace Kind

/-- Reads a number below a bound. -/
def number (found : Option Nat) (bound : Nat) : Except Refusal Given :=
  match found with
  | some n => if n < bound then .ok (.number n) else .error .badNumber
  | none => .error .badNumber

/-- Reads a value. -/
def read (kind : Kind) (word : String) : Except Refusal Given :=
  match kind with
  | .text => .ok (.text word)
  | .path => if word = "" then .error .emptyValue else .ok (.text word)
  | .number32 => number (signedNatural? word.toList) UInt32.size
  | .number64 => number (natural? word.toList) UInt64.size

end Kind

-- ================================================================= words

/-- What a word looks like. -/
inductive Look where
  /-- The two dashes that end the options. -/
  | fence
  /-- Two dashes and a name, perhaps with a value attached. -/
  | long (name : String) (attached : Option String)
  /-- One dash and letters. -/
  | short (letters : List Char)
  | plain
  deriving DecidableEq, Repr, Inhabited

/-- The name before the first equals sign, and the value after it. -/
def splitValue (s : List Char) : String × Option String :=
  match s.span (· != '=') with
  | (name, _ :: value) => (String.ofList name, some (String.ofList value))
  | (name, []) => (String.ofList name, none)

/-- What a word looks like. A dash alone is a value. -/
def Look.ofWord (word : String) : Look :=
  match word.toList with
  | ['-', '-'] => fence
  | '-' :: '-' :: rest =>
    let (name, attached) := splitValue rest
    long name attached
  | '-' :: c :: rest => short (c :: rest)
  | _ => plain

-- ============================================================= after a verb

/-- A verb being read. -/
structure Phrase where
  verb : Verb
  /-- Values that were judged, newest first. -/
  taken : List Given
  /-- The value still to be judged. -/
  pending : Option (Kind × String)
  /-- What the verb still takes. -/
  expected : List Param
  /-- Whether two dashes were seen. -/
  fenced : Bool

namespace Phrase

/-- A verb with nothing after it. -/
def start (verb : Verb) : Phrase :=
  { verb, taken := [], pending := none, expected := verb.params, fenced := false }

/-- Judges the pending value. -/
def settle (p : Phrase) : Except Refusal Phrase :=
  match p.pending with
  | none => .ok p
  | some (kind, word) =>
    (kind.read word).map fun given => { p with taken := given :: p.taken, pending := none }

/-- Asks for the page of the verb. -/
def askHelp {α : Type} (p : Phrase) : Except Refusal α := do
  let p ← p.settle
  throw (.help (.verb p.verb))

/-- Takes a value. -/
def take (p : Phrase) (word : String) : Except Refusal Phrase :=
  match p.expected with
  | [] => .error .unknownArgument
  | param :: expected =>
    p.settle.map fun p => { p with pending := some (param.kind, word), expected }

/-- Reads one word. -/
def readWord (p : Phrase) (word : String) : Except Refusal Phrase :=
  if p.fenced then p.take word
  else
    match Look.ofWord word with
    | .fence => .ok { p with fenced := true }
    | .long name attached =>
      if name = Flag.help.name then
        if attached.isSome then .error .needlessValue else p.askHelp
      else .error .unknownArgument
    | .short (c :: _) => if c = Flag.help.letter then p.askHelp else .error .unknownArgument
    | .short [] | .plain => p.take word

/-- Reads all words: the values, in order. -/
def readAll (p : Phrase) : List String → Except Refusal (List Given)
  | [] => do
    let p ← p.settle
    if p.expected.isEmpty then .ok p.taken.reverse else .error .missingArgument
  | word :: rest => do
    let p ← p.readWord word
    p.readAll rest

end Phrase

/-- What the program is told to do. -/
inductive Task where
  | ready
  | reset
  | shutdown
  | read (partition size file : String)
  | write (partition file : String)
  | dumpBlocks (partition : String) (start : UInt64) (count : UInt32) (file : String)
  deriving DecidableEq, Repr

namespace Task

/-- The task of a verb and its values. -/
def make : Verb → List Given → Except Refusal Task
  | .ready, [] => .ok .ready
  | .reset, [] => .ok .reset
  | .shutdown, [] => .ok .shutdown
  | .read, [.text partition, .text size, .text file] => .ok (.read partition size file)
  | .write, [.text partition, .text file] => .ok (.write partition file)
  | .dumpBlocks, [.text partition, .number start, .number count, .text file] =>
    .ok (.dumpBlocks partition (UInt64.ofNat start) (UInt32.ofNat count) file)
  | _, _ => .error .missingArgument

/-- Reads the words after a verb. -/
def ofWords (verb : Verb) (words : List String) : Except Refusal Task := do
  make verb (← (Phrase.start verb).readAll words)

end Task

-- ============================================================ before a verb

/-- What the options say. -/
structure Options where
  config : Option String := none
  fdl1 : Option String := none
  fdl2 : Option String := none
  window : Option UInt32 := none
  wait : Option UInt64 := none
  verbose : Bool := false
  deriving DecidableEq, Repr

namespace Options

/-- Whether an option was given. -/
def has (o : Options) : Override → Bool
  | .config => o.config.isSome
  | .fdl1 => o.fdl1.isSome
  | .fdl2 => o.fdl2.isSome
  | .window => o.window.isSome
  | .wait => o.wait.isSome

/-- Whether no option was given. -/
def isEmpty (o : Options) : Bool := !o.verbose && Override.all.all fun name => !o.has name

/-- The options with a value that was read. -/
def put (o : Options) : Override → Given → Options
  | .config, .text path => { o with config := some path }
  | .fdl1, .text path => { o with fdl1 := some path }
  | .fdl2, .text path => { o with fdl2 := some path }
  | .window, .number n => { o with window := some (UInt32.ofNat n) }
  | .wait, .number n => { o with wait := some (UInt64.ofNat n) }
  | _, _ => o

/-- Judges the value of an option; none at all is a fault of its own. -/
def judge (o : Options) (name : Override) (value : Option String) : Except Refusal Options :=
  match value with
  | none => .error .emptyValue
  | some word =>
    if o.has name then .error .repeated else (name.kind.read word).map (o.put name)

end Options

/-- What a whole command line says. -/
structure Invocation where
  options : Options
  task : Task
  deriving DecidableEq, Repr

/-- The options being read. -/
structure Preface where
  options : Options
  /-- The option still to be judged, and its value if it has one. -/
  pending : Option (Override × Option String)
  /-- Whether two dashes were seen. -/
  fenced : Bool

namespace Preface

/-- Nothing read. -/
def start : Preface := { options := {}, pending := none, fenced := false }

/-- Judges the pending option. -/
def settle (p : Preface) : Except Refusal Preface :=
  match p.pending with
  | none => .ok p
  | some (name, value) =>
    (p.options.judge name value).map fun options => { p with options, pending := none }

/-- Whether the next word is the value of an option. -/
def isWaiting (p : Preface) : Bool :=
  match p.pending with
  | some (_, none) => true
  | _ => false

/-- Takes a flag. -/
def takeFlag (p : Preface) (flag : Flag) : Except Refusal Preface := do
  let p ← p.settle
  match flag with
  | .help => throw (.help .program)
  | .version => throw .version
  | .verbose =>
    if p.options.verbose then throw .repeated
    else return { p with options := { p.options with verbose := true } }

/-- Takes the letters after one dash. -/
def takeLetters (p : Preface) : List Char → Except Refusal Preface
  | [] => .ok p
  | c :: rest =>
    match Flag.ofLetter? c with
    | none => .error .unknownArgument
    | some flag => do
      let p ← p.takeFlag flag
      p.takeLetters rest

/-- Takes a name after two dashes. -/
def takeLong (p : Preface) (name : String) (attached : Option String) :
    Except Refusal Preface :=
  match Override.ofName? name, Flag.ofName? name with
  | some option, _ => do
    let p ← p.settle
    match attached with
    | some word => return { p with options := ← p.options.judge option (some word) }
    | none => return { p with pending := some (option, none) }
  | none, some flag => if attached.isSome then .error .needlessValue else p.takeFlag flag
  | none, none => .error .unknownArgument

/-- Takes a word that is neither verb nor option. -/
def takePlain (p : Preface) (word : String) : Except Refusal Preface :=
  match p.pending with
  | some (name, none) => .ok { p with pending := some (name, some word) }
  | _ => .error .unknownVerb

/-- Whether a word is a verb, the explaining one included. -/
def isVerb (word : String) : Bool := word == helpVerb || (Verb.ofName? word).isSome

/-- Takes a word after two dashes: no verb may stand there. -/
def takeFenced (word : String) : Except Refusal Preface :=
  .error (if isVerb word then .unknownArgument else .unknownVerb)

/-- Reads one word that begins no phrase. -/
def readWord (p : Preface) (word : String) : Except Refusal Preface :=
  if p.fenced then takeFenced word
  else
    match Look.ofWord word with
    | .fence => .ok { p with fenced := true }
    | .long name attached => p.takeLong name attached
    | .short letters => p.takeLetters letters
    | .plain => p.takePlain word

/-- The page that the words after the explaining verb ask for. -/
def explain : List String → Refusal
  | [] => .help .program
  | [word] =>
    if word == helpVerb then .help .help
    else
      match Verb.ofName? word with
      | some verb => .help (.verb verb)
      | none => .unknownVerb
  | _ => .unknownVerb

/-- The end of the words without a verb. -/
def conclude (p : Preface) : Except Refusal Invocation := do
  let p ← p.settle
  throw (if p.options.isEmpty then .nothingGiven else .missingVerb)

/-- Reads all words. -/
def readAll (p : Preface) : List String → Except Refusal Invocation
  | [] => p.conclude
  | word :: rest =>
    let verb := if p.fenced || p.isWaiting then none else Verb.ofName? word
    match verb with
    | some verb => do
      let task ← Task.ofWords verb rest
      let p ← p.settle
      return { options := p.options, task }
    | none =>
      if !p.fenced && !p.isWaiting && word == helpVerb then .error (explain rest)
      else do
        let p ← p.readWord word
        p.readAll rest

end Preface

/-- Reads a command line. -/
def parse (words : List String) : Except Refusal Invocation := Preface.start.readAll words

end FlashLink.CommandLine
