import SigningPreview.Json.Spelling
import SigningPreview.Report.Text
import SigningPreview.Wire.Report

/-! # The command line

Options have long names only, and each is given at most once. The response comes from a file or from
the standard input. -/
namespace SigningPreview.CommandLine

inductive Format where
  | text
  | json
  deriving DecidableEq

/-- What the command line asks for. -/
structure Options where
  chain : Chain
  strict : Bool
  format : Format
  /-- The file with the response; without one the standard input is read. -/
  file : Option String
  deriving DecidableEq

/-- What the command line has said so far. -/
structure Given where
  chain : Option Chain
  strict : Bool
  format : Option Format
  file : Option String

namespace Given

def nothing : Given := ⟨none, false, none, none⟩

/-- The chain is given once, by its name. -/
def takeChain (g : Given) (name : String) : Option Given :=
  match g.chain, name with
  | none, "evm" => some { g with chain := some .evm }
  | none, "svm" => some { g with chain := some .svm }
  | _, _ => none

/-- The format is given once, by its name. -/
def takeFormat (g : Given) (name : String) : Option Given :=
  match g.format, name with
  | none, "text" => some { g with format := some .text }
  | none, "json" => some { g with format := some .json }
  | _, _ => none

def takeStrict (g : Given) : Option Given :=
  if g.strict then none else some { g with strict := true }

/-- One file may be given; its name is not empty. -/
def takeFile (g : Given) (name : String) : Option Given :=
  match g.file with
  | none => if name = "" then none else some { g with file := some name }
  | some _ => none

/-- Takes file names only. -/
def takeFiles (g : Given) (names : List String) : Option Given := names.foldlM takeFile g

/-- What was not given has a default. -/
def options (g : Given) : Options :=
  ⟨g.chain.getD .evm, g.strict, g.format.getD .text, g.file⟩

end Given

/-- An argument that is an option or a part of one: a dash with something after it. -/
def isDashed (argument : String) : Bool :=
  match argument.toList with
  | '-' :: _ :: _ => true
  | _ => false

/-- The value that an argument attaches to an option: what follows the option's name and `=`. -/
def attached? (option argument : String) : Option String :=
  ((option.toList ++ ['=']).isPrefixOf? argument.toList).map String.ofList

/-- Takes arguments up to the end of the options and file names after it. -/
def take (g : Given) : List String → Option Given
  | [] => some g
  | "--" :: names => g.takeFiles names
  | "--strict" :: rest => do take (← g.takeStrict) rest
  | ["--chain"] => none
  | "--chain" :: value :: rest =>
    if isDashed value then none else do take (← g.takeChain value) rest
  | ["--format"] => none
  | "--format" :: value :: rest =>
    if isDashed value then none else do take (← g.takeFormat value) rest
  | argument :: rest =>
    match attached? "--chain" argument, attached? "--format" argument with
    | some value, _ => do take (← g.takeChain value) rest
    | none, some value => do take (← g.takeFormat value) rest
    | none, none => if isDashed argument then none else do take (← g.takeFile argument) rest

/-- The options that arguments ask for, if they make sense. -/
def parse (arguments : List String) : Option Options := (take .nothing arguments).map Given.options

/-- How a run ends: its exit code and what it prints. -/
structure Ending where
  code : UInt8
  output : String
  deriving DecidableEq

namespace Ending

/-- The arguments make no sense. -/
def misused : Ending := ⟨2, ""⟩

/-- There is no report. -/
def failed : Ending := ⟨1, ""⟩

end Ending

/-- A report in the format asked for; the JSON form without a final line end. -/
def Format.write : Format → Report → String
  | text, r => r.text
  | json, r => r.node.pretty

/-- What is printed of a report. -/
def Options.print (o : Options) (r : Report) : String :=
  match o.format with
  | .text => Format.text.write r
  | .json => Format.json.write r ++ "\n"

/-- How a run ends whose input is `bytes`, or could not be read. -/
def Options.run (o : Options) (bytes : Option ByteArray) : Ending :=
  match bytes.bind String.fromUTF8? with
  | none => .failed
  | some text =>
    match Outcome.ofText o.chain o.strict text with
    | .error _ => .failed
    | .ok outcome => ⟨0, o.print outcome.report⟩

end SigningPreview.CommandLine
