/-
The help pages: one for the program, one for each verb, one for the
verb that explains.

A page is the description, the usage line, and a table for each kind of
word. In a table the first column is as wide as its longest entry and
two blanks stand before each column; a word without explanation keeps
its blanks.
-/
import FlashLink.CommandLine.Vocabulary

namespace FlashLink.CommandLine

/-- What a page is about. -/
inductive Page where
  | program
  | verb (verb : Verb)
  /-- The verb that explains the others. -/
  | help
  deriving DecidableEq, Repr, Inhabited

namespace Page

/-- The name of the program. -/
def programName : String := "bsl"

/-- The line that names the version. -/
def version : String := "bsl-cli 0.1.0\n"

/-- What the explaining verb does. -/
def aboutHelp : String := "Print this message or the help of the given subcommand(s)"

/-- A text with blanks up to a width. -/
def pad (width : Nat) (text : String) : String :=
  String.ofList (text.toList.rightpad width ' ')

/-- A table with a title. -/
def table (title : String) (rows : List (String × String)) : String :=
  let width := (rows.map fun row => row.1.length).foldl max 0
  let lines := rows.map fun row => s!"  {pad width row.1}  {row.2}\n"
  s!"\n{title}:\n" ++ String.join lines

/-- A value as a usage line shows it. -/
def shown (placeholder : String) : String := s!"<{placeholder}>"

/-- The row of an option with a value; the blanks are where a letter
would stand. -/
def overrideRow (o : Override) : String × String :=
  (s!"    --{o.name} {shown o.placeholder}", o.about)

/-- The row of a flag. -/
def flagRow (flag : Flag) : String × String :=
  (s!"-{flag.letter}, --{flag.name}", flag.about)

/-- The description and the usage line. -/
def heading (about usage : String) : String := s!"{about}\n\nUsage: {programName} {usage}\n"

/-- A page as it is printed. -/
def text : Page → String
  | program =>
    heading "Spreadtrum BSL Download Tool (Pure Rust)" "[OPTIONS] <COMMAND>"
      ++ table "Commands"
        ((Verb.all.map fun verb => (verb.name, verb.about)) ++ [(helpVerb, aboutHelp)])
      ++ table "Options" (Override.all.map overrideRow ++ Flag.all.map flagRow)
  | verb v =>
    let usage := v.name :: v.params.map fun param => shown param.placeholder
    heading v.about (" ".intercalate usage)
      ++ (if v.params.isEmpty then ""
        else table "Arguments"
          (v.params.map fun param => (shown param.placeholder, param.about)))
      ++ table "Options" [flagRow .help]
  | help =>
    heading aboutHelp "help [COMMAND]..."
      ++ table "Arguments" [("[COMMAND]...", "Print help for the subcommand(s)")]

end Page

end FlashLink.CommandLine
