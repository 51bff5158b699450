/-
ScriptSyntax.CommandLine — listing the tokens of one file.

* `CommandLine.parse` says what the arguments ask for.
* `CommandLine.run` is the whole program as a function: from the
  arguments, what can be read, and a word for the time that it took, to
  the exit code and the text on both streams.

The first argument that cannot be understood decides, and so does a
request for the version or for help that comes before it.
-/
import ScriptSyntax.Tokenize
import ScriptSyntax.Json.Writing
import ScriptSyntax.FileSystem

namespace ScriptSyntax.CommandLine

/-! ## 1. Arguments -/

/-- A request to list the tokens of a file. -/
structure Options where
  file : String
  /-- Whether the tokens are listed as JSON. -/
  json : Bool
  /-- Whether the time that it took is reported. -/
  time : Bool
  deriving DecidableEq

/-- What the arguments ask for. -/
inductive Command where
  | list (options : Options)
  | version
  | help
  /-- The arguments make no sense. -/
  | misuse
  deriving DecidableEq

/-- The arguments taken in so far. -/
structure Seen where
  file : Option String
  json : Bool
  time : Bool

/-- Before the first argument. -/
def Seen.nothing : Seen := ⟨none, false, false⟩

/-- Takes in the name of the file: it may not be empty, and there is only
one. -/
def Seen.addFile (seen : Seen) (name : String) : Option Seen :=
  if name = "" ∨ seen.file.isSome then none else some { seen with file := some name }

/-- After the last argument, there has to be a file. -/
def Seen.command (seen : Seen) : Command :=
  match seen.file with
  | some file => .list ⟨file, seen.json, seen.time⟩
  | none => .misuse

/-- Arguments after `--`, all of which are names of files. -/
def parseNames (seen : Seen) : List String → Command
  | [] => seen.command
  | arg :: args =>
    match seen.addFile arg with
    | some seen => parseNames seen args
    | none => .misuse

/-- Arguments up to `--`. A dash alone is the name of a file. Letters
after a single dash count one by one, and the first decides. -/
def parseFrom (seen : Seen) : List String → Command
  | [] => seen.command
  | arg :: args =>
    if arg = "--" then parseNames seen args
    else if arg = "--json" then
      if seen.json then .misuse else parseFrom { seen with json := true } args
    else if arg = "--time" then
      if seen.time then .misuse else parseFrom { seen with time := true } args
    else if arg = "--version" then .version
    else if arg = "--help" then .help
    else
      match arg.toList with
      | '-' :: letter :: _ =>
        if letter = 'V' then .version else if letter = 'h' then .help else .misuse
      | _ =>
        match seen.addFile arg with
        | some seen => parseFrom seen args
        | none => .misuse

/-- What all arguments together ask for. -/
def parse (args : List String) : Command :=
  parseFrom Seen.nothing args

/-! ## 2. Outcomes -/

/-- How a run ends. -/
@[ext]
structure Outcome where
  code : Nat
  stdout : String
  stderr : String
  deriving DecidableEq

/-- The name and number of this version. -/
def versionLine : String := "grant 0.1.0\n"

/-- How the program is called. -/
def usage : String := "Usage: grant [OPTIONS] <FILE>\n"

/-- What the program does, and what can be asked of it. -/
def helpText : String :=
  "Tokenize a grant source file and print the token stream\n\n" ++ usage
    ++ "\nArguments:\n  <FILE>  Source file to tokenize\n\nOptions:\n"
    ++ "      --json     Print tokens as JSON instead of one per line\n"
    ++ "      --time     Report how long tokenizing took\n"
    ++ "  -h, --help     Print help\n  -V, --version  Print version\n"

/-- The text of a file, whose bytes must be UTF-8. -/
def decode (contents : Except ReadFailure ByteArray) : Except ReadFailure String :=
  match contents with
  | .error failure => .error failure
  | .ok bytes =>
    match String.fromUTF8? bytes with
    | some text => .ok text
    | none => .error .notUtf8

/-- The outcome for a file that cannot be read: the reason, behind the name
of the file as it was given. -/
def unreadable (file : String) (failure : ReadFailure) : Outcome :=
  ⟨1, "", "Failed to read " ++ file ++ ": " ++ failure.reason ++ "\n"⟩

/-- The tokens in the form that is asked for. -/
def Options.show (options : Options) (tokens : List Token) : String :=
  if options.json then Json.pretty tokens ++ "\n" else Token.listing tokens

/-- The line that reports the time, if that is asked for. -/
def Options.timeLine (options : Options) (elapsed : String) : String :=
  if options.time then "Tokenized in " ++ elapsed ++ "\n" else ""

/-- The outcome for a file with a text: its tokens, or the report of the
fault in it, and then nothing else. -/
def Options.outcome (options : Options) (elapsed : String) :
    Except Diagnostic (List Token) → Outcome
  | .error diagnostic => ⟨1, "", diagnostic.report⟩
  | .ok tokens => ⟨0, options.show tokens, options.timeLine elapsed⟩

/-- The tokens of the file's text. In reports the file goes by the name
that its path ends in. -/
def Options.tokens (options : Options) (text : String) : Except Diagnostic (List Token) :=
  tokenize text (Path.fileName? options.file)

/-- The answer to a request, once its file is looked up. -/
def Options.answer (options : Options) (contents : Except ReadFailure ByteArray)
    (elapsed : String) : Outcome :=
  match decode contents with
  | .error failure => unreadable options.file failure
  | .ok text => options.outcome elapsed (options.tokens text)

/-- The outcome for arguments that ask for no file. -/
def Command.reply : Command → Outcome
  | .version => ⟨0, versionLine, ""⟩
  | .help => ⟨0, helpText, ""⟩
  | _ => ⟨2, "", usage⟩

/-- The program: what it answers to its arguments, where this can be
read. -/
def run (args : List String) (reader : Reader) (elapsed : String) : Outcome :=
  match parse args with
  | .list options => options.answer (reader options.file) elapsed
  | command => command.reply

end ScriptSyntax.CommandLine
