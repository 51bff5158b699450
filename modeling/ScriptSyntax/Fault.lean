/-
ScriptSyntax.Fault — what can be wrong with a script.

A `Fault` is a cause: the character, literal or token that cannot be
accepted. A `Diagnostic` is a fault together with the name of the file
that it was found in, and `Diagnostic.report` is the text that a person
is shown.
-/
import ScriptSyntax.Text.Quoted

namespace ScriptSyntax

/-- Why a text has no tokens, or a token no literal. -/
inductive Fault where
  /-- No token contains this character outside of a string literal. -/
  | unrecognisedCharacter (character : Char)
  /-- The text after a double quote that is never followed by another. -/
  | unterminatedString (literal : String)
  /-- A number token that does not spell a number. -/
  | malformedNumber (value : String)
  /-- A token that is no literal where a literal has to stand. -/
  | unexpectedToken (value : String)
  deriving DecidableEq

namespace Fault

/-- The fault's name. -/
def name : Fault → String
  | .unrecognisedCharacter _ => "UnrecognisedCharacter"
  | .unterminatedString _ => "UnterminatedString"
  | .malformedNumber _ => "NumberParseError"
  | .unexpectedToken _ => "UnexpectedToken"

/-- The code point of a character, in at least four upper-case digits. -/
def codePoint (c : Char) : String :=
  "U+" ++ String.ofList ((Hex.padded 4 c.toNat).map Char.toUpper)

/-- What is wrong. A literal that does not end is shown as it stands, for
there is no telling where it was meant to end; all else is quoted. -/
def message : Fault → String
  | .unrecognisedCharacter c =>
    "unrecognised character " ++ Quoted.character c ++ " (code point " ++ codePoint c ++ ")"
  | .unterminatedString literal => "unterminated string literal: \"" ++ literal
  | .malformedNumber value => "error parsing number: " ++ Quoted.string value
  | .unexpectedToken value => "unexpected token: " ++ Quoted.string value

/-- How the fault might be mended. -/
def tip : Fault → Option String
  | .unrecognisedCharacter _ => none
  | .unterminatedString _ => some "Add a closing `\"` to end the string"
  | .malformedNumber value => some ("Invalid number: `" ++ value ++ "`, it has no digits")
  | .unexpectedToken value =>
    some ("Unexpected token: `" ++ value ++ "`, expected a number, string or identifier")

/-- The text at fault. -/
def subject : Fault → String
  | .unrecognisedCharacter c => String.singleton c
  | .unterminatedString literal => literal
  | .malformedNumber value => value
  | .unexpectedToken value => value

end Fault

/-- A fault and the file in which it was found. -/
structure Diagnostic where
  fault : Fault
  file : String
  deriving DecidableEq

/-- The report of a fault: its name, with the tip if there is one, then
the file, then the message. -/
def Diagnostic.report (diagnostic : Diagnostic) : String :=
  let fault := diagnostic.fault
  let tip := match fault.tip with
    | none => ""
    | some text => " (" ++ text ++ ")"
  "Error: " ++ fault.name ++ tip ++ "\n-> " ++ diagnostic.file ++ "\n   " ++ fault.message ++ "\n"

end ScriptSyntax
