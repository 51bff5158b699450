/-
ScriptSyntax.Proofs.Fault.Report — a report tells what it is a report of.

Some texts stand in a report as they are: the literal that does not end,
and the values that the tips repeat. They may hold line feeds and imitate
the lines of another report, so no line can be found by its looks. But a
report has such a text on one side of the file only. Where all faults of a
name have the same heading, the file is found from the front; and where the
message quotes the value, it is the last line of the report, and the file
is found from the back.

* `Diagnostic.eq_report_iff` — a report is three rows, which
  `Fault.Reported` spells out for each fault.
* `name_of_report` — the name of the fault, which says from which side to
  read on.
* `parts_of_heading`, `parts_of_message` — the file and the message, from
  the front and from the back.
* `Diagnostic.report_eq_iff` — reports from files whose names are one line
  are the same just if the faults and the files are.
-/
import ScriptSyntax.Fault
import ScriptSyntax.Proofs.Text.Parts

namespace ScriptSyntax

namespace Fault

/-! ## 1. Headings -/

/-- What the first line of a report says about a fault: its name, and the
tip if there is one. -/
def heading (fault : Fault) : String :=
  fault.name ++ fault.tip.elim "" fun text => " (" ++ text ++ ")"

/-- The names of faults are made of letters. -/
theorem isAlpha_of_mem_name {fault : Fault} {c : Char} (h : c ∈ fault.name.toList) :
    c.isAlpha = true := by
  have letters : fault.name.toList.all Char.isAlpha = true := by
    cases fault <;> rw [name] <;> decide
  exact List.all_eq_true.1 letters c h

/-- The name is what a heading has in front of the first character that is
no letter. -/
theorem takeWhile_heading (fault : Fault) (rest : List Char) :
    (fault.heading.toList ++ '\n' :: rest).takeWhile Char.isAlpha = fault.name.toList := by
  rw [heading, String.toList_append, List.append_assoc,
    List.takeWhile_append_of_pos fun c => isAlpha_of_mem_name]
  cases fault.tip <;> simp

/-! ## 2. Messages -/

/-- Among faults of one name, either all have the same heading, or all
messages are one line. -/
theorem heading_eq_or_message {fault other : Fault} (same : fault.name = other.name) :
    fault.heading = other.heading
      ∨ ('\n' ∉ fault.message.toList ∧ '\n' ∉ other.message.toList) := by
  cases fault <;> cases other
  case unrecognisedCharacter.unrecognisedCharacter => exact .inl rfl
  case unterminatedString.unterminatedString => exact .inl rfl
  case malformedNumber.malformedNumber =>
    exact .inr ⟨Quoted.newline_notMem_append_string (by decide) _,
      Quoted.newline_notMem_append_string (by decide) _⟩
  case unexpectedToken.unexpectedToken =>
    exact .inr ⟨Quoted.newline_notMem_append_string (by decide) _,
      Quoted.newline_notMem_append_string (by decide) _⟩
  all_goals simp [name] at same

/-- A message tells the fault, among those of its name. -/
theorem eq_of_message {fault other : Fault} (same : fault.name = other.name)
    (h : fault.message = other.message) : fault = other := by
  cases fault <;> cases other
  case unrecognisedCharacter.unrecognisedCharacter c d =>
    have quoted : "unrecognised character " ++ Quoted.character c ++ " (code point "
        ++ codePoint c ++ ")" = "unrecognised character " ++ Quoted.character d ++ " (code point "
        ++ codePoint d ++ ")" := h
    simp only [String.append_assoc, String.append_right_inj] at quoted
    rw [Quoted.character_append_inj quoted]
  case unterminatedString.unterminatedString =>
    exact congrArg _ ((String.append_right_inj _).1 h)
  case malformedNumber.malformedNumber =>
    exact congrArg _ (Quoted.string_inj ((String.append_right_inj _).1 h))
  case unexpectedToken.unexpectedToken =>
    exact congrArg _ (Quoted.string_inj ((String.append_right_inj _).1 h))
  all_goals simp [name] at same

/-! ## 3. Reports in full -/

/-- The three rows that a person is shown for a fault in a file. -/
inductive Reported (file : String) : Fault → List String → Prop where
  | unrecognisedCharacter (c : Char) :
    Reported file (.unrecognisedCharacter c)
      ["Error: UnrecognisedCharacter", "-> " ++ file,
        "   unrecognised character " ++ Quoted.character c ++ " (code point U+"
          ++ String.ofList ((Hex.padded 4 c.toNat).map Char.toUpper) ++ ")"]
  | unterminatedString (literal : String) :
    Reported file (.unterminatedString literal)
      ["Error: UnterminatedString (Add a closing `\"` to end the string)", "-> " ++ file,
        "   unterminated string literal: \"" ++ literal]
  | malformedNumber (value : String) :
    Reported file (.malformedNumber value)
      ["Error: NumberParseError (Invalid number: `" ++ value ++ "`, it has no digits)",
        "-> " ++ file, "   error parsing number: " ++ Quoted.string value]
  | unexpectedToken (value : String) :
    Reported file (.unexpectedToken value)
      ["Error: UnexpectedToken (Unexpected token: `" ++ value
          ++ "`, expected a number, string or identifier)",
        "-> " ++ file, "   unexpected token: " ++ Quoted.string value]

end Fault

namespace Diagnostic

variable {diagnostic other : Diagnostic}

/-! ## 4. Reports and their parts -/

/-- A report in its parts. -/
theorem toList_report (diagnostic : Diagnostic) :
    diagnostic.report.toList
      = "Error: ".toList ++ (diagnostic.fault.heading.toList
        ++ '\n' :: ("-> ".toList ++ (diagnostic.file.toList
          ++ '\n' :: ("   ".toList ++ (diagnostic.fault.message.toList ++ ['\n']))))) := by
  obtain ⟨fault, file⟩ := diagnostic
  have whole : report ⟨fault, file⟩ = "Error: " ++ fault.name
      ++ (fault.tip.elim "" fun text => " (" ++ text ++ ")") ++ "\n-> " ++ file ++ "\n   "
      ++ fault.message ++ "\n" := by
    cases fault <;> rfl
  have arrow : "\n-> ".toList = '\n' :: "-> ".toList := by decide
  have indent : "\n   ".toList = '\n' :: "   ".toList := by decide
  have line : "\n".toList = ['\n'] := by decide
  simp only [whole, Fault.heading, arrow, indent, line, String.toList_append, List.append_assoc,
    List.cons_append]

/-- A report has three rows: the heading, the file and the message. -/
theorem report_eq_stack (diagnostic : Diagnostic) :
    diagnostic.report
      = stack ["Error: " ++ diagnostic.fault.heading, "-> " ++ diagnostic.file,
          "   " ++ diagnostic.fault.message] := by
  rw [← String.toList_inj, toList_report]
  simp

/-- A report shows the rows for its fault. -/
theorem report_eq_of_reported {fault : Fault} {file : String} {rows : List String}
    (h : Fault.Reported file fault rows) : report ⟨fault, file⟩ = stack rows := by
  rw [report_eq_stack]
  apply congrArg stack
  cases h with
  | unrecognisedCharacter c =>
    have message : (Fault.unrecognisedCharacter c).message
        = "unrecognised character " ++ Quoted.character c ++ " (code point "
          ++ ("U+" ++ String.ofList ((Hex.padded 4 c.toNat).map Char.toUpper)) ++ ")" := rfl
    have start : "   unrecognised character " = "   " ++ "unrecognised character " := rfl
    have point : " (code point U+" = " (code point " ++ "U+" := rfl
    simp only [message, start, point, String.append_assoc]
    rfl
  | unterminatedString literal =>
    have start : "   unterminated string literal: \""
        = "   " ++ "unterminated string literal: \"" := rfl
    rw [start, String.append_assoc]
    rfl
  | malformedNumber value =>
    have heading : (Fault.malformedNumber value).heading = "NumberParseError"
        ++ (" (" ++ ("Invalid number: `" ++ value ++ "`, it has no digits") ++ ")") := rfl
    have front : "Error: NumberParseError (Invalid number: `"
        = "Error: " ++ ("NumberParseError" ++ (" (" ++ "Invalid number: `")) := rfl
    have back : "`, it has no digits)" = "`, it has no digits" ++ ")" := rfl
    have start : "   error parsing number: " = "   " ++ "error parsing number: " := rfl
    simp only [heading, front, back, start, String.append_assoc]
    rfl
  | unexpectedToken value =>
    have heading : (Fault.unexpectedToken value).heading = "UnexpectedToken"
        ++ (" (" ++ ("Unexpected token: `" ++ value
          ++ "`, expected a number, string or identifier") ++ ")") := rfl
    have front : "Error: UnexpectedToken (Unexpected token: `"
        = "Error: " ++ ("UnexpectedToken" ++ (" (" ++ "Unexpected token: `")) := rfl
    have back : "`, expected a number, string or identifier)"
        = "`, expected a number, string or identifier" ++ ")" := rfl
    have start : "   unexpected token: " = "   " ++ "unexpected token: " := rfl
    simp only [heading, front, back, start, String.append_assoc]
    rfl

/-- A report is the rows for its fault, one below the other, and nothing
but that. -/
theorem eq_report_iff {fault : Fault} {file text : String} :
    text = report ⟨fault, file⟩ ↔ ∃ rows, Fault.Reported file fault rows ∧ text = stack rows := by
  constructor
  · rintro rfl
    obtain ⟨rows, reported⟩ : ∃ rows, Fault.Reported file fault rows := by
      cases fault <;> exact ⟨_, by constructor⟩
    exact ⟨rows, reported, report_eq_of_reported reported⟩
  · rintro ⟨rows, reported, rfl⟩
    exact (report_eq_of_reported reported).symm

/-- Reports tell the names of the faults. -/
theorem name_of_report (h : diagnostic.report = other.report) :
    diagnostic.fault.name = other.fault.name := by
  have chars := congrArg String.toList h
  rw [toList_report, toList_report] at chars
  have names := congrArg (List.takeWhile Char.isAlpha) (List.append_cancel_left chars)
  rw [Fault.takeWhile_heading, Fault.takeWhile_heading] at names
  exact String.toList_inj.1 names

section Files

variable (line : '\n' ∉ diagnostic.file.toList) (line' : '\n' ∉ other.file.toList)
include line line'

/-- Behind the same heading, the file ends at the next line feed. -/
theorem parts_of_heading (heading : diagnostic.fault.heading = other.fault.heading)
    (h : diagnostic.report = other.report) :
    diagnostic.file = other.file ∧ diagnostic.fault.message = other.fault.message := by
  have chars := congrArg String.toList h
  rw [toList_report, toList_report, heading] at chars
  have behind := (List.cons.inj (List.append_cancel_left (List.append_cancel_left chars))).2
  obtain ⟨file, rest⟩ := append_cons_inj line line' (List.append_cancel_left behind)
  have message := List.append_cancel_right (List.append_cancel_left rest)
  exact ⟨String.toList_inj.1 file, String.toList_inj.1 message⟩

/-- A message of one line is the last line, and the file is the one before
it. -/
theorem parts_of_message (last : '\n' ∉ diagnostic.fault.message.toList)
    (last' : '\n' ∉ other.fault.message.toList) (h : diagnostic.report = other.report) :
    diagnostic.file = other.file ∧ diagnostic.fault.message = other.fault.message := by
  have chars : ("Error: ".toList ++ diagnostic.fault.heading.toList
        ++ '\n' :: ("-> ".toList ++ diagnostic.file.toList))
          ++ '\n' :: ("   ".toList ++ diagnostic.fault.message.toList) ++ ['\n']
      = ("Error: ".toList ++ other.fault.heading.toList
        ++ '\n' :: ("-> ".toList ++ other.file.toList))
          ++ '\n' :: ("   ".toList ++ other.fault.message.toList) ++ ['\n'] := by
    simpa only [toList_report, List.append_assoc, List.cons_append] using congrArg String.toList h
  have indent : '\n' ∉ "   ".toList := by decide
  have arrow : '\n' ∉ "-> ".toList := by decide
  obtain ⟨front, message⟩ := cons_append_inj (List.not_mem_append indent last)
    (List.not_mem_append indent last') (List.append_cancel_right chars)
  obtain ⟨-, file⟩ := cons_append_inj (List.not_mem_append arrow line)
    (List.not_mem_append arrow line') front
  exact ⟨String.toList_inj.1 (List.append_cancel_left file),
    String.toList_inj.1 (List.append_cancel_left message)⟩

end Files

/-- Reports from files whose names are one line are the same just if the
faults and the files are. -/
theorem report_eq_iff (line : '\n' ∉ diagnostic.file.toList) (line' : '\n' ∉ other.file.toList) :
    diagnostic.report = other.report
      ↔ diagnostic.fault = other.fault ∧ diagnostic.file = other.file := by
  constructor
  · intro h
    -- The name of the fault says from which side its parts are found.
    have same := name_of_report h
    obtain ⟨file, message⟩ :
        diagnostic.file = other.file ∧ diagnostic.fault.message = other.fault.message := by
      rcases Fault.heading_eq_or_message same with heading | ⟨last, last'⟩
      · exact parts_of_heading line line' heading h
      · exact parts_of_message line line' last last' h
    exact ⟨Fault.eq_of_message same message, file⟩
  · obtain ⟨fault, file⟩ := diagnostic
    rintro ⟨rfl, rfl⟩
    rfl

/-- The tip repeats a value that imitates the rest of the other report, and
the message repeats it too, but quoted. -/
theorem report_ne_of_imitation :
    '\n' ∉ "main".toList ∧ '\n' ∉ "other".toList
      ∧ report ⟨.malformedNumber
          "1`, it has no digits)\n-> other\n   error parsing number: \"1\"\n", "main"⟩
        ≠ report ⟨.malformedNumber "1", "other"⟩ := by
  have line : '\n' ∉ "main".toList := by decide
  have line' : '\n' ∉ "other".toList := by decide
  refine ⟨line, line', fun same => ?_⟩
  obtain ⟨-, file⟩ := (report_eq_iff line line').1 same
  exact absurd file (by decide)

/-- With a line feed in the name of the file, there is no telling where it
ends. -/
example : report ⟨.unterminatedString "\n   unterminated string literal: \"y", "f"⟩
    = report ⟨.unterminatedString "y", "f\n   unterminated string literal: \""⟩ := by
  decide +kernel

end Diagnostic

end ScriptSyntax
