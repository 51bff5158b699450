/-
ScriptSyntax.Proofs.CommandLine.Outcome — what the program answers.

`run_answers` follows the program from its arguments to its exit code and
both streams. Arguments that are no request end in code 2 with nothing on
standard output, and no others do. A request is answered by what its
options say and what the file holds: the reason if it has no text, the
report of the fault if the text has one, and else the tokens. Nothing else
about the arguments or the system plays a part.

A system is any `Reader` here. What it says of a file that cannot be had is
passed on in its own words, and so are the name of the file and the time
that was taken. The words and the time are one line on the systems that
there are, and the theorem says what follows from that. But a name may hold
line feeds, and `unreadable_two_lines` has a request that is answered in
two lines for that reason.

* `decode_eq_ok_iff`, `decode_eq_error_iff`: bytes are a text just if they
  are its UTF-8, so every file either has no text, or one with a fault, or
  one with tokens.
* `Answers` says what is answered in each of these cases, and
  `answers_answer` that it is.
* `run_of_asks`, `run_of_not_asks`: there is a request or there is none.
-/
import ScriptSyntax.Proofs.CommandLine.Arguments
import ScriptSyntax.Proofs.Fault.Report
import ScriptSyntax.Proofs.FileSystem.Paths
import ScriptSyntax.Proofs.Json.RoundTrip
import ScriptSyntax.Proofs.Tokenize.Listing

namespace ScriptSyntax.CommandLine

/-! ## 1. The text of a file -/

/-- Bytes are decoded to a text just if they are its UTF-8. -/
theorem fromUTF8?_eq_some_iff {bytes : ByteArray} {text : String} :
    String.fromUTF8? bytes = some text ↔ bytes = text.toUTF8 := by
  rw [String.fromUTF8?]
  split
  case isTrue valid =>
    rw [Option.some.injEq, ← String.toByteArray_inj, String.toUTF8_eq_toByteArray]
    rfl
  case isFalse invalid =>
    refine iff_of_false (by simp) ?_
    rintro rfl
    rw [String.toUTF8_eq_toByteArray] at invalid
    exact invalid text.isValidUTF8

/-- A file has a text just if its bytes are the UTF-8 of that text. -/
theorem decode_eq_ok_iff {contents : Except ReadFailure ByteArray} {text : String} :
    decode contents = .ok text ↔ contents = .ok text.toUTF8 := by
  cases contents with
  | error failure => simp [decode]
  | ok bytes =>
    rw [decode, Except.ok.injEq, ← fromUTF8?_eq_some_iff]
    cases String.fromUTF8? bytes <;> simp

/-- Why a file has no text: its bytes cannot be had, or they are the UTF-8
of no text. -/
inductive HasNoText (contents : Except ReadFailure ByteArray) : ReadFailure → Prop where
  | unread {failure : ReadFailure} : contents = .error failure → HasNoText contents failure
  | undecoded {bytes : ByteArray} :
    contents = .ok bytes → (∀ text : String, bytes ≠ text.toUTF8) → HasNoText contents .notUtf8

/-- A file that has no text is not decoded, for the same reason. -/
theorem decode_eq_error_iff {contents : Except ReadFailure ByteArray} {failure : ReadFailure} :
    decode contents = .error failure ↔ HasNoText contents failure := by
  constructor
  · intro h
    cases contents with
    | error cause =>
      cases h
      exact .unread rfl
    | ok bytes =>
      cases found : String.fromUTF8? bytes with
      | some text => simp [decode, found] at h
      | none =>
        obtain rfl : ReadFailure.notUtf8 = failure := by simpa [decode, found] using h
        refine .undecoded rfl fun text encoded => ?_
        cases found.symm.trans (fromUTF8?_eq_some_iff.2 encoded)
  · intro h
    cases h with
    | unread refused => rw [refused, decode]
    | @undecoded bytes holds no_text =>
      cases found : String.fromUTF8? bytes with
      | some text => exact absurd (fromUTF8?_eq_some_iff.1 found) (no_text text)
      | none => simp [holds, decode, found]

/-- The reason is told in one line, if the words of the system are one. -/
theorem lineCount_reason {failure : ReadFailure}
    (words : ∀ reason, failure = .other reason → '\n' ∉ reason.toList) :
    lineCount failure.reason = 0 := by
  rw [lineCount_eq_zero_iff]
  cases failure with
  | other reason => exact words reason rfl
  | missing => decide
  | notDirectory => decide
  | isDirectory => decide
  | notUtf8 => decide

/-! ## 2. The answer to a request -/

/-- What the program answers to a request for a file with such contents. -/
structure Answers (options : Options) (contents : Except ReadFailure ByteArray) (elapsed : String)
    (outcome : Outcome) : Prop where
  /-- If the file has no text, the reason is told behind the name of the
  file as it was given: in one line, and one more for each line feed in the
  name. -/
  unreadable : ∀ failure, HasNoText contents failure →
    outcome = ⟨1, "", "Failed to read " ++ options.file ++ ": " ++ failure.reason ++ "\n"⟩
      ∧ ((∀ reason, failure = .other reason → '\n' ∉ reason.toList) →
        lineCount outcome.stderr = lineCount options.file + 1)
  /-- If the text has a fault, there is its report, with the name that the
  path ends in. -/
  faulty : ∀ (text : String) file diagnostic, contents = .ok text.toUTF8 →
    tokenize text file = .error diagnostic →
    ∃ name rows, Path.GoesBy options.file name ∧ Fault.Reported name diagnostic.fault rows
      ∧ outcome = ⟨1, "", stack rows⟩
  /-- If the text has tokens, they are listed in one row each, or written as
  JSON from which they are read back, and the time is told if that is asked
  for. -/
  listed : ∀ (text : String) file tokens, contents = .ok text.toUTF8 →
    tokenize text file = .ok tokens →
    outcome.code = 0
      ∧ (options.json = false →
        ∃ rows, List.Forall₂ Token.IsRow tokens rows ∧ outcome.stdout = stack rows)
      ∧ (options.json = true →
        ∃ written, outcome.stdout = written ++ "\n" ∧ Json.parse written = .ok tokens)
      ∧ (options.time = false → outcome.stderr = "")
      ∧ (options.time = true → outcome.stderr = "Tokenized in " ++ elapsed ++ "\n"
        ∧ ('\n' ∉ elapsed.toList → lineCount outcome.stderr = 1))

section Answer

variable {options : Options} {contents : Except ReadFailure ByteArray} {elapsed : String}

theorem answer_of_text {text : String} (holds : contents = .ok text.toUTF8) :
    options.answer contents elapsed = options.outcome elapsed (options.tokens text) := by
  rw [Options.answer, decode_eq_ok_iff.2 holds]

theorem answer_of_hasNoText {failure : ReadFailure} (no_text : HasNoText contents failure) :
    options.answer contents elapsed = CommandLine.unreadable options.file failure := by
  rw [Options.answer, decode_eq_error_iff.2 no_text]

/-- The name of the file changes nothing about a fault but the name. -/
theorem tokens_eq_error {text : String} {file : Option String} {diagnostic : Diagnostic}
    (failed : tokenize text file = .error diagnostic) :
    options.tokens text
      = .error ⟨diagnostic.fault, (Path.fileName? options.file).getD "shell"⟩ :=
  tokenize_eq_error_iff.2 ⟨(tokenize_eq_error_iff.1 failed).1, rfl⟩

theorem tokens_eq_ok {text : String} {file : Option String} {tokens : List Token}
    (accepted : tokenize text file = .ok tokens) : options.tokens text = .ok tokens :=
  tokenize_eq_ok_iff.2 (tokenize_eq_ok_iff.1 accepted)

theorem parse_pretty (tokens : List Token) : Json.parse (Json.pretty tokens) = .ok tokens := by
  rw [Json.parse, Json.pretty, String.toList_ofList]
  exact Json.parseChars_listText Json.Layout.blank_pretty tokens

/-- The program answers as it should. -/
theorem answers_answer : Answers options contents elapsed (options.answer contents elapsed) where
  unreadable failure no_text := by
    rw [answer_of_hasNoText no_text]
    refine ⟨rfl, fun words => ?_⟩
    have frame : lineCount "Failed to read " = 0 ∧ lineCount ": " = 0 ∧ lineCount "\n" = 1 := by
      decide
    simp [CommandLine.unreadable, frame, lineCount_reason words]
  faulty text file diagnostic holds failed := by
    obtain ⟨rows, reported, report⟩ := Diagnostic.eq_report_iff.1
      (rfl : Diagnostic.report ⟨diagnostic.fault, (Path.fileName? options.file).getD "shell"⟩ = _)
    rw [answer_of_text holds, tokens_eq_error failed, Options.outcome, report]
    exact ⟨_, rows, Path.goesBy_iff.2 rfl, reported, rfl⟩
  listed text file tokens holds accepted := by
    rw [answer_of_text holds, tokens_eq_ok accepted]
    refine ⟨rfl, fun as_lines => ?_, fun as_json => ?_, fun untimed => ?_, fun timed => ?_⟩
    · refine Token.eq_listing_iff.1 ?_
      simp [Options.outcome, Options.show, as_lines]
    · exact ⟨Json.pretty tokens, by simp [Options.outcome, Options.show, as_json],
        parse_pretty tokens⟩
    · simp [Options.outcome, Options.timeLine, untimed]
    · have line : (options.outcome elapsed (.ok tokens)).stderr
          = "Tokenized in " ++ elapsed ++ "\n" := by
        simp [Options.outcome, Options.timeLine, timed]
      have frame : lineCount "Tokenized in " = 0 ∧ lineCount "\n" = 1 := by decide
      refine ⟨line, fun one_line => ?_⟩
      simp [line, frame, lineCount_eq_zero_iff.2 one_line]

/-- The time plays no part unless it is asked for. -/
theorem answer_congr_elapsed {elapsed' : String} (same : options.time = true → elapsed' = elapsed) :
    options.answer contents elapsed' = options.answer contents elapsed := by
  have line : options.timeLine elapsed' = options.timeLine elapsed := by
    cases timed : options.time with
    | false => simp [Options.timeLine, timed]
    | true => rw [same timed]
  rw [Options.answer, Options.answer]
  split
  · rfl
  · cases options.tokens _ with
    | error diagnostic => rfl
    | ok tokens => rw [Options.outcome, Options.outcome, line]

end Answer

/-! ## 3. The program -/

section Run

variable {args : List String} {options : Options}

/-- A request is answered. -/
theorem run_of_asks (plain : ¬ Inquires args) (asked : Asks args options) (reader : Reader)
    (elapsed : String) :
    run args reader elapsed = options.answer (reader options.file) elapsed := by
  rw [run, (parse_eq_list_iff plain).2 asked]

/-- Arguments that are no request are answered by how the program is
called. -/
theorem run_of_not_asks (plain : ¬ Inquires args) (none_asked : ¬ ∃ options, Asks args options)
    (reader : Reader) (elapsed : String) : run args reader elapsed = ⟨2, "", usage⟩ := by
  rw [run, (parse_eq_misuse_iff plain).2 none_asked]
  rfl

/-- No request is answered with the code for misuse. -/
theorem code_answer_ne (contents : Except ReadFailure ByteArray) (elapsed : String) :
    (options.answer contents elapsed).code ≠ 2 := by
  rw [Options.answer]
  split
  · simp [unreadable]
  · cases options.tokens _ <;> simp [Options.outcome]

/-- The answer to a request depends on nothing but its options, what its
file holds, and the time if that is asked for. -/
theorem run_congr {args' : List String} {reader reader' : Reader} {elapsed elapsed' : String}
    (plain : ¬ Inquires args) (asked : Asks args options) (plain' : ¬ Inquires args')
    (asked' : Asks args' options) (same_contents : reader' options.file = reader options.file)
    (same_time : options.time = true → elapsed' = elapsed) :
    run args' reader' elapsed' = run args reader elapsed := by
  rw [run_of_asks plain asked, run_of_asks plain' asked', same_contents,
    answer_congr_elapsed same_time]

end Run

/-- For arguments that do not ask about the program itself: the exit code
is 2 just if they are no request, and then nothing is listed; a request is
answered by its options and what its file holds; and nothing else about
the arguments, the system or the clock makes a difference, nor does the
order of the arguments. -/
theorem run_answers (args : List String) (reader : Reader) (elapsed : String)
    (plain : ¬ Inquires args) :
    ((run args reader elapsed).code = 2 ↔ ¬ ∃ options, Asks args options)
      ∧ ((run args reader elapsed).code = 2 → (run args reader elapsed).stdout = "")
      ∧ ∀ options, Asks args options →
        Answers options (reader options.file) elapsed (run args reader elapsed)
        ∧ (∀ args' reader' elapsed', ¬ Inquires args' → Asks args' options →
          reader' options.file = reader options.file →
          (options.time = true → elapsed' = elapsed) →
          run args' reader' elapsed' = run args reader elapsed)
        ∧ ("--" ∉ args → ∀ args', args.Perm args' →
          run args' reader elapsed = run args reader elapsed) := by
  by_cases some_asked : ∃ options, Asks args options
  · obtain ⟨options, asked⟩ := some_asked
    have code : (run args reader elapsed).code ≠ 2 := by
      rw [run_of_asks plain asked]
      exact code_answer_ne _ elapsed
    refine ⟨iff_of_false code (not_not.2 ⟨options, asked⟩), fun misused => absurd misused code, ?_⟩
    intro options asked
    refine ⟨run_of_asks plain asked reader elapsed ▸ answers_answer, ?_, ?_⟩
    · intro args' reader' elapsed' plain' asked' same_contents same_time
      exact run_congr plain asked plain' asked' same_contents same_time
    · intro no_end args' same
      have plain' : ¬ Inquires args' := fun inquires => plain (inquires.perm no_end same)
      exact run_congr plain asked plain' (asked.perm no_end same) rfl fun _ => rfl
  · rw [run_of_not_asks plain some_asked]
    exact ⟨iff_of_true rfl some_asked, fun _ => rfl, fun options asked =>
      absurd ⟨options, asked⟩ some_asked⟩

/-- A folder with two scripts, and with bytes that are no text. -/
def oneFolder : FileSystem where
  files :=
    [(["dir", "x.gr"], "x".toUTF8), (["dir", "at.gr"], "@".toUTF8), (["dir", "raw"], ⟨#[0xff]⟩)]
  folders := []
  working := []

/-- The folder, with a file in it that may not be read. -/
def oneLocked : Reader := fun path =>
  if path = "dir/locked.gr" then .error (.other "Permission denied (os error 13)")
  else oneFolder.read path

/-- A listing, a list as JSON with the time, a report, and the two ways of
having no text. -/
theorem run_answers_one_folder :
    (¬ Inquires ["dir/x.gr"] ∧ Asks ["dir/x.gr"] ⟨"dir/x.gr", false, false⟩
      ∧ run ["dir/x.gr"] oneLocked "1ms" = ⟨0, "Identifier (x)\nEOF ()\n", ""⟩)
    ∧ (¬ Inquires ["--json", "--time", "--", "dir/x.gr"]
      ∧ Asks ["--json", "--time", "--", "dir/x.gr"] ⟨"dir/x.gr", true, true⟩
      ∧ ∃ written, Json.parse written = .ok [⟨"x", .identifier⟩, Token.endOfFile]
        ∧ run ["--json", "--time", "--", "dir/x.gr"] oneLocked "1ms"
          = ⟨0, written ++ "\n", "Tokenized in 1ms\n"⟩)
    ∧ (¬ Inquires ["--time", "dir/at.gr"] ∧ Asks ["--time", "dir/at.gr"] ⟨"dir/at.gr", false, true⟩
      ∧ run ["--time", "dir/at.gr"] oneLocked "1ms"
        = ⟨1, "", "Error: UnrecognisedCharacter\n-> at.gr\n"
            ++ "   unrecognised character '@' (code point U+0040)\n"⟩)
    ∧ (¬ Inquires ["dir/raw"] ∧ Asks ["dir/raw"] ⟨"dir/raw", false, false⟩
      ∧ run ["dir/raw"] oneLocked "1ms"
        = ⟨1, "", "Failed to read dir/raw: stream did not contain valid UTF-8\n"⟩)
    ∧ (¬ Inquires ["dir/locked.gr"] ∧ Asks ["dir/locked.gr"] ⟨"dir/locked.gr", false, false⟩
      ∧ run ["dir/locked.gr"] oneLocked "1ms"
        = ⟨1, "", "Failed to read dir/locked.gr: Permission denied (os error 13)\n"⟩
      ∧ lineCount (run ["dir/locked.gr"] oneLocked "1ms").stderr = 1) := by
  have holds : oneLocked "dir/x.gr" = .ok "x".toUTF8 := rfl
  have accepted : tokenize "x" none = .ok [⟨"x", .identifier⟩, Token.endOfFile] := by
    decide +kernel
  refine ⟨?listing, ?json, ?report, ?raw, ?locked⟩
  case listing =>
    have plain : ¬ Inquires ["dir/x.gr"] := by decide +kernel
    have asked : Asks ["dir/x.gr"] ⟨"dir/x.gr", false, false⟩ := by decide +kernel
    obtain ⟨answers, -⟩ := (run_answers _ oneLocked "1ms" plain).2.2 _ asked
    obtain ⟨code, as_rows, -, untimed, -⟩ := answers.listed "x" none _ holds accepted
    have stdout := Token.eq_listing_iff.2 (as_rows rfl)
    exact ⟨plain, asked, Outcome.ext code (stdout.trans (by decide +kernel)) (untimed rfl)⟩
  case json =>
    have plain : ¬ Inquires ["--json", "--time", "--", "dir/x.gr"] := by decide +kernel
    have asked : Asks ["--json", "--time", "--", "dir/x.gr"] ⟨"dir/x.gr", true, true⟩ := by
      decide +kernel
    obtain ⟨answers, -⟩ := (run_answers _ oneLocked "1ms" plain).2.2 _ asked
    obtain ⟨code, -, as_json, -, timed⟩ := answers.listed "x" none _ holds accepted
    obtain ⟨written, stdout, reads⟩ := as_json rfl
    exact ⟨plain, asked, written, reads, Outcome.ext code stdout (timed rfl).1⟩
  case report =>
    have plain : ¬ Inquires ["--time", "dir/at.gr"] := by decide +kernel
    have asked : Asks ["--time", "dir/at.gr"] ⟨"dir/at.gr", false, true⟩ := by decide +kernel
    have holds : oneLocked "dir/at.gr" = .ok "@".toUTF8 := rfl
    have failed : tokenize "@" none = .error ⟨.unrecognisedCharacter '@', "shell"⟩ :=
      tokenize_eq_error_iff.2 ⟨Lexeme.readAll_of_error rfl, rfl⟩
    obtain ⟨answers, -⟩ := (run_answers _ oneLocked "1ms" plain).2.2 _ asked
    obtain ⟨name, rows, named, reported, outcome⟩ := answers.faulty "@" none _ holds failed
    obtain rfl : "at.gr" = name := (by decide +kernel : _ = _).trans (Path.goesBy_iff.1 named)
    cases reported
    exact ⟨plain, asked, outcome.trans (by decide +kernel)⟩
  case raw =>
    have plain : ¬ Inquires ["dir/raw"] := by decide +kernel
    have asked : Asks ["dir/raw"] ⟨"dir/raw", false, false⟩ := by decide +kernel
    have no_text : HasNoText (oneLocked "dir/raw") .notUtf8 := decode_eq_error_iff.1 rfl
    obtain ⟨answers, -⟩ := (run_answers _ oneLocked "1ms" plain).2.2 _ asked
    obtain ⟨outcome, -⟩ := answers.unreadable _ no_text
    exact ⟨plain, asked, outcome.trans (by decide +kernel)⟩
  case locked =>
    have plain : ¬ Inquires ["dir/locked.gr"] := by decide +kernel
    have asked : Asks ["dir/locked.gr"] ⟨"dir/locked.gr", false, false⟩ := by decide +kernel
    obtain ⟨answers, -⟩ := (run_answers _ oneLocked "1ms" plain).2.2 _ asked
    obtain ⟨outcome, one_line⟩ := answers.unreadable _ (.unread rfl)
    refine ⟨plain, asked, outcome.trans (by decide +kernel), (one_line ?_).trans (by decide)⟩
    rintro reason ⟨⟩
    decide

/-- The name of the file is shown as it was given, and this one holds a line
feed. -/
theorem unreadable_two_lines :
    ¬ Inquires ["a\nb"] ∧ Asks ["a\nb"] ⟨"a\nb", false, false⟩
      ∧ HasNoText (FileSystem.fresh.read "a\nb") .missing
      ∧ (run ["a\nb"] FileSystem.fresh "1ms").stderr
        = "Failed to read a\nb: No such file or directory (os error 2)\n"
      ∧ ¬ ∃ line, '\n' ∉ line.toList
        ∧ (run ["a\nb"] FileSystem.fresh "1ms").stderr = line ++ "\n" := by
  have two_lines : lineCount (run ["a\nb"] FileSystem.fresh "1ms").stderr = 2 := by decide +kernel
  refine ⟨by decide +kernel, by decide +kernel, .unread rfl, by decide +kernel, ?_⟩
  rintro ⟨line, one_line, same⟩
  have feed : lineCount "\n" = 1 := by decide
  rw [same, lineCount_append, lineCount_eq_zero_iff.2 one_line, feed] at two_lines
  cases two_lines

end ScriptSyntax.CommandLine
