/-
ScriptSyntax.Proofs.CommandLine.Arguments — which arguments ask for a
file's tokens.

`Asks args options` says what it means, without going through the
arguments one by one: flags are looked for ahead of the first `--`, each
stands there at most once, everything else there is a name, and so is
everything behind it; there is one name in all, and it is not empty.

* `parse_eq_list_iff`, `parse_eq_misuse_iff`: unless they ask about the
  program itself, arguments are taken for such a request just if they are
  one, and else they make no sense.
* `Asks.perm`, `Inquires.perm`: flags and the file may come in any order.

The arguments that are taken in already count towards the same totals as
those to come (`Completes`), so that one argument more changes nothing
(`decides_parseFrom`).
-/
import ScriptSyntax.CommandLine
import Mathlib.Data.List.Basic
import Mathlib.Tactic.MkIffOfInductiveProp
import Mathlib.Tactic.Tauto

namespace ScriptSyntax.CommandLine

/-! ## 1. Requests -/

/-- The arguments ahead of the first `--`. -/
def ahead (args : List String) : List String :=
  args.takeWhile (· ≠ "--")

/-- The arguments behind the first `--`. -/
def behind (args : List String) : List String :=
  (args.dropWhile (· ≠ "--")).tail

/-- The flags. None of them takes a value. -/
def IsFlag (arg : String) : Prop :=
  arg = "--json" ∨ arg = "--time"

instance (arg : String) : Decidable (IsFlag arg) :=
  inferInstanceAs (Decidable (_ ∨ _))

/-- A word that may stand for a file among flags: it begins with no dash,
or it is just a dash. -/
def IsName (arg : String) : Prop :=
  arg = "-" ∨ arg.toList.head? ≠ some '-'

instance (arg : String) : Decidable (IsName arg) :=
  inferInstanceAs (Decidable (_ ∨ _))

/-- The names among the arguments: all that are no flags, and all that
come behind `--`. -/
def names (front back : List String) : List String :=
  front.filter (¬ IsFlag ·) ++ back

/-- The arguments ask for the tokens of a file, in some form. -/
@[mk_iff asks_iff]
structure Asks (args : List String) (options : Options) : Prop where
  known : ∀ arg ∈ ahead args, IsFlag arg ∨ IsName arg
  file : names (ahead args) (behind args) = [options.file]
  named : options.file ≠ ""
  json : (ahead args).count "--json" = options.json.toNat
  time : (ahead args).count "--time" = options.time.toNat

instance (args : List String) (options : Options) : Decidable (Asks args options) :=
  decidable_of_iff _ (asks_iff args options).symm

/-- An argument that asks for the version or for help: a word for it, or
its letter behind a single dash. -/
def IsInquiry (arg : String) : Prop :=
  arg = "--version" ∨ arg = "--help" ∨ ['-', 'V'] <+: arg.toList ∨ ['-', 'h'] <+: arg.toList

instance (arg : String) : Decidable (IsInquiry arg) :=
  inferInstanceAs (Decidable (_ ∨ _))

/-- The arguments ask for the version or for help. -/
def Inquires (args : List String) : Prop :=
  ∃ arg ∈ ahead args, IsInquiry arg

instance (args : List String) : Decidable (Inquires args) :=
  inferInstanceAs (Decidable (∃ arg ∈ ahead args, _))

theorem names_flag {flag : String} (h : IsFlag flag) (front back : List String) :
    names (flag :: front) back = names front back := by
  simp [names, h]

theorem ahead_dashes (args : List String) : ahead ("--" :: args) = [] := by
  simp [ahead]

theorem behind_dashes (args : List String) : behind ("--" :: args) = args := by
  simp [behind]

theorem ahead_cons {arg : String} (h : arg ≠ "--") (args : List String) :
    ahead (arg :: args) = arg :: ahead args := by
  simp [ahead, h]

theorem behind_cons {arg : String} (h : arg ≠ "--") (args : List String) :
    behind (arg :: args) = behind args := by
  simp [behind, h]

/-- Nothing else is asked for by the same arguments. -/
theorem Asks.unique {args : List String} {options others : Options} (h : Asks args options)
    (h' : Asks args others) : options = others := by
  obtain ⟨-, file, -, json, time⟩ := h
  obtain ⟨-, file', -, json', time'⟩ := h'
  obtain ⟨name, asJson, asTime⟩ := options
  obtain ⟨name', asJson', asTime'⟩ := others
  have toNat_inj : ∀ given given' : Bool, given.toNat = given'.toNat → given = given' := by decide
  have sameName : name = name' := List.singleton_inj.1 (file.symm.trans file')
  have sameJson : asJson = asJson' := toNat_inj _ _ (json.symm.trans json')
  have sameTime : asTime = asTime' := toNat_inj _ _ (time.symm.trans time')
  rw [sameName, sameJson, sameTime]

/-! ## 2. One argument after the other -/

/-- With what is taken in already, the arguments to come ask for the tokens
of a file. -/
@[mk_iff completes_iff]
structure Completes (seen : Seen) (front back : List String) (options : Options) : Prop where
  known : ∀ arg ∈ front, IsFlag arg ∨ IsName arg
  file : seen.file.toList ++ names front back = [options.file]
  named : "" ∉ names front back
  json : seen.json.toNat + front.count "--json" = options.json.toNat
  time : seen.time.toNat + front.count "--time" = options.time.toNat

theorem addFile_eq_some_iff {seen next : Seen} {name : String} :
    seen.addFile name = some next
      ↔ name ≠ "" ∧ seen.file = none ∧ { seen with file := some name } = next := by
  obtain ⟨file, json, time⟩ := seen
  cases file <;> by_cases name = "" <;> simp_all [Seen.addFile]

section Steps

variable {seen : Seen} {name : String} {front front' back back' : List String} {options : Options}

/-- A name is taken in, if it can be the only one. -/
theorem completes_name (more : names front back = name :: names front' back')
    (known : (∀ arg ∈ front, IsFlag arg ∨ IsName arg) ↔ ∀ arg ∈ front', IsFlag arg ∨ IsName arg)
    (flags : ∀ flag, IsFlag flag → front.count flag = front'.count flag) :
    Completes seen front back options
      ↔ ∃ next, seen.addFile name = some next ∧ Completes next front' back' options := by
  have json := flags "--json" (.inl rfl)
  have time := flags "--time" (.inr rfl)
  simp only [addFile_eq_some_iff, and_assoc, exists_and_left, exists_eq_left']
  constructor
  · intro h
    have file := h.file
    have named := h.named
    rw [more] at file named
    have first : seen.file = none := by
      cases given : seen.file with
      | none => rfl
      | some other => simp [given] at file
    rw [first] at file
    rw [List.mem_cons, not_or] at named
    exact ⟨Ne.symm named.1, first, known.1 h.known, file, named.2, json ▸ h.json, time ▸ h.time⟩
  · rintro ⟨some_name, first, h⟩
    refine ⟨known.2 h.known, ?_, ?_, json ▸ h.json, time ▸ h.time⟩
    · rw [more, first]
      exact h.file
    · rw [more, List.mem_cons, not_or]
      exact ⟨Ne.symm some_name, h.named⟩

theorem completes_name_ahead (is_name : IsName name) (no_flag : ¬ IsFlag name) :
    Completes seen (name :: front) back options
      ↔ ∃ next, seen.addFile name = some next ∧ Completes next front back options := by
  apply completes_name
  · simp [names, no_flag]
  · simp [is_name]
  · intro flag is_flag
    exact List.count_cons_of_ne (by rintro rfl; exact no_flag is_flag)

theorem completes_name_behind :
    Completes seen [] (name :: back) options
      ↔ ∃ next, seen.addFile name = some next ∧ Completes next [] back options :=
  completes_name (by simp [names]) .rfl fun _ _ => rfl

/-- A flag that was given is one too many if it comes again. -/
theorem toNat_add_count_eq_iff {given wanted : Bool} {count : Nat} :
    given.toNat + (count + 1) = wanted.toNat ↔ given = false ∧ true.toNat + count = wanted.toNat := by
  cases given <;> cases wanted <;> simp

/-- A flag is taken in, if it was not given before. -/
theorem completes_json :
    Completes seen ("--json" :: front) back options
      ↔ seen.json = false ∧ Completes { seen with json := true } front back options := by
  have is_flag : IsFlag "--json" := .inl rfl
  have other : "--json" ≠ "--time" := by decide
  simp only [completes_iff, List.forall_mem_cons, is_flag, true_or, true_and, names_flag is_flag,
    List.count_cons_self, toNat_add_count_eq_iff, List.count_cons_of_ne other]
  tauto

theorem completes_time :
    Completes seen ("--time" :: front) back options
      ↔ seen.time = false ∧ Completes { seen with time := true } front back options := by
  have is_flag : IsFlag "--time" := .inr rfl
  have other : "--time" ≠ "--json" := by decide
  simp only [completes_iff, List.forall_mem_cons, is_flag, true_or, true_and, names_flag is_flag,
    List.count_cons_self, toNat_add_count_eq_iff, List.count_cons_of_ne other]
  tauto

theorem not_completes_unknown (no_flag : ¬ IsFlag name) (no_name : ¬ IsName name) :
    ¬ Completes seen (name :: front) back options := fun h =>
  (h.known name List.mem_cons_self).elim no_flag no_name

end Steps

/-! ## 3. All arguments -/

/-- A command is what the arguments to come lead to: what they ask for, and
if that is nothing, a complaint. -/
inductive Decides (seen : Seen) (front back : List String) : Command → Prop where
  | list {options : Options} (asked : Completes seen front back options) :
      Decides seen front back (.list options)
  | misuse (nothing : ∀ options, ¬ Completes seen front back options) :
      Decides seen front back .misuse

section Commands

variable {seen next : Seen} {front front' back back' : List String} {command : Command}

/-- Arguments that complete the same requests lead to the same. -/
theorem Decides.of_iff (h : Decides next front' back' command)
    (same : ∀ options, Completes seen front back options ↔ Completes next front' back' options) :
    Decides seen front back command := by
  cases h with
  | list asked => exact .list ((same _).2 asked)
  | misuse nothing => exact .misuse fun options asked => nothing options ((same options).1 asked)

/-- A flag decides if it was given before, and else what follows does. -/
theorem Decides.of_flag {given : Bool}
    (step : ∀ options, Completes seen front back options
      ↔ given = false ∧ Completes next front' back' options)
    (rest : Decides next front' back' command) :
    Decides seen front back (if given then .misuse else command) := by
  cases given with
  | true => exact .misuse fun options => by simp [step]
  | false => exact rest.of_iff fun options => by simp [step]

/-- A name decides as soon as it cannot be taken in, and else what follows
does. -/
theorem Decides.of_name {name : String} {parse : Seen → Command}
    (step : ∀ options, Completes seen front back options
      ↔ ∃ next, seen.addFile name = some next ∧ Completes next front' back' options)
    (rest : ∀ next, Decides next front' back' (parse next)) :
    Decides seen front back ((seen.addFile name).elim .misuse parse) := by
  cases added : seen.addFile name with
  | none => exact .misuse fun options => by simp [step, added]
  | some next => exact (rest next).of_iff fun options => by simp [step, added]

/-- Without any more arguments, there is a file or there is not. -/
theorem decides_command (seen : Seen) : Decides seen [] [] seen.command := by
  obtain ⟨file, json, time⟩ := seen
  cases file with
  | none => exact .misuse fun options asked => by simpa [names] using asked.file
  | some file => exact .list ⟨by simp, by simp [names], by simp [names], by simp, by simp⟩

theorem parseNames_cons (seen : Seen) (arg : String) (args : List String) :
    parseNames seen (arg :: args) = (seen.addFile arg).elim .misuse (parseNames · args) := by
  rw [parseNames]
  cases seen.addFile arg <;> rfl

/-- Behind `--`, all arguments are names. -/
theorem decides_parseNames (args : List String) (seen : Seen) :
    Decides seen [] args (parseNames seen args) := by
  induction args generalizing seen with
  | nil => exact decides_command seen
  | cons arg args ih =>
    rw [parseNames_cons]
    exact .of_name (fun options => completes_name_behind) ih

/-- A word of two or more letters that begins with a dash stands for no
file. -/
theorem not_isName_of_dash {arg : String} {letter : Char} {letters : List Char}
    (word : arg.toList = '-' :: letter :: letters) : ¬ IsName arg := by
  rintro (rfl | bare)
  · simp at word
  · simp [word] at bare

/-- A name is taken in and no flag is looked for in it. -/
theorem parseFrom_name {arg : String} (no_flag : ¬ IsFlag arg) (is_name : IsName arg)
    (seen : Seen) (args : List String) :
    parseFrom seen (arg :: args) = (seen.addFile arg).elim .misuse (parseFrom · args) := by
  have other : ∀ word, ¬ IsName word → arg ≠ word := fun word h same => h (same ▸ is_name)
  rw [IsFlag, not_or] at no_flag
  rw [parseFrom, if_neg (other "--" (by decide)), if_neg no_flag.1, if_neg no_flag.2,
    if_neg (other "--version" (by decide)), if_neg (other "--help" (by decide))]
  split
  case h_1 letter letters word => exact absurd is_name (not_isName_of_dash word)
  case h_2 => cases seen.addFile arg <;> rfl

/-- A word that is neither a flag nor a name, and asks for nothing about
the program, makes no sense. -/
theorem parseFrom_unknown {arg : String} (no_end : arg ≠ "--") (no_flag : ¬ IsFlag arg)
    (no_name : ¬ IsName arg) (no_inquiry : ¬ IsInquiry arg) (seen : Seen) (args : List String) :
    parseFrom seen (arg :: args) = .misuse := by
  simp only [IsFlag, IsName, IsInquiry, not_or, not_not] at no_flag no_name no_inquiry
  obtain ⟨no_version, no_help, no_V, no_h⟩ := no_inquiry
  rw [parseFrom, if_neg no_end, if_neg no_flag.1, if_neg no_flag.2, if_neg no_version,
    if_neg no_help]
  split
  case h_1 letter letters word =>
    have is_no_V : letter ≠ 'V' := by rintro rfl; exact no_V ⟨letters, word.symm⟩
    have is_no_h : letter ≠ 'h' := by rintro rfl; exact no_h ⟨letters, word.symm⟩
    rw [if_neg is_no_V, if_neg is_no_h]
  case h_2 short =>
    -- Only the dash itself is left, which is a name.
    obtain ⟨letters, word⟩ : ∃ letters, arg.toList = '-' :: letters :=
      List.head?_eq_some_iff.1 no_name.2
    cases letters with
    | nil => exact absurd (String.toList_inj.1 word) no_name.1
    | cons letter letters => exact absurd word (short letter letters)

/-- As long as nothing about the program is asked for, the arguments lead
to what they ask for together. -/
theorem decides_parseFrom {args : List String} (plain : ¬ Inquires args) (seen : Seen) :
    Decides seen (ahead args) (behind args) (parseFrom seen args) := by
  induction args generalizing seen with
  | nil => exact decides_command seen
  | cons arg args ih =>
    by_cases ends : arg = "--"
    · rw [ends, ahead_dashes, behind_dashes, parseFrom, if_pos rfl]
      exact decides_parseNames args seen
    rw [Inquires, ahead_cons ends, List.exists_mem_cons_iff, not_or] at plain
    obtain ⟨no_inquiry, plain⟩ := plain
    rw [ahead_cons ends, behind_cons ends]
    by_cases is_flag : IsFlag arg
    · obtain rfl | rfl := is_flag
      · rw [parseFrom, if_neg ends, if_pos rfl]
        exact .of_flag (fun options => completes_json) (ih plain _)
      · rw [parseFrom, if_neg ends, if_neg (by decide), if_pos rfl]
        exact .of_flag (fun options => completes_time) (ih plain _)
    by_cases is_name : IsName arg
    · rw [parseFrom_name is_flag is_name]
      exact .of_name (fun options => completes_name_ahead is_name is_flag) (ih plain)
    · rw [parseFrom_unknown ends is_flag is_name no_inquiry]
      exact .misuse fun options => not_completes_unknown is_flag is_name

end Commands

/-! ## 4. The command -/

section Parse

variable {args : List String} {options : Options}

/-- The request that all arguments make. -/
theorem completes_nothing_iff :
    Completes Seen.nothing (ahead args) (behind args) options ↔ Asks args options := by
  have named_iff (file : names (ahead args) (behind args) = [options.file]) :
      "" ∉ names (ahead args) (behind args) ↔ options.file ≠ "" := by
    rw [file, List.mem_singleton, ne_comm]
  constructor
  · rintro ⟨known, file, named, json, time⟩
    exact ⟨known, file, (named_iff file).1 named, (Nat.zero_add _).symm.trans json,
      (Nat.zero_add _).symm.trans time⟩
  · rintro ⟨known, file, named, json, time⟩
    exact ⟨known, file, (named_iff file).2 named, (Nat.zero_add _).trans json,
      (Nat.zero_add _).trans time⟩

/-- Arguments that ask nothing about the program are taken for a request
just if they are one. -/
theorem parse_eq_list_iff (plain : ¬ Inquires args) :
    parse args = .list options ↔ Asks args options := by
  have decided : Decides Seen.nothing _ _ (parse args) := decides_parseFrom plain Seen.nothing
  generalize parse args = command at decided
  cases decided with
  | list asked =>
    rw [completes_nothing_iff] at asked
    constructor
    · rintro ⟨⟩
      exact asked
    · intro others
      rw [asked.unique others]
  | misuse nothing =>
    rw [← completes_nothing_iff]
    exact iff_of_false (by simp) (nothing options)

/-- And they make no sense just if they are none. -/
theorem parse_eq_misuse_iff (plain : ¬ Inquires args) :
    parse args = .misuse ↔ ¬ ∃ options, Asks args options := by
  have decided : Decides Seen.nothing _ _ (parse args) := decides_parseFrom plain Seen.nothing
  generalize parse args = command at decided
  cases decided with
  | list asked => exact iff_of_false (by simp) (not_not.2 ⟨_, completes_nothing_iff.1 asked⟩)
  | misuse nothing =>
    exact iff_of_true rfl fun ⟨options, asked⟩ => nothing options (completes_nothing_iff.2 asked)

/-- As long as there is no `--`, all arguments count as ahead of it. -/
theorem ahead_of_not_mem (no_end : "--" ∉ args) : ahead args = args ∧ behind args = [] := by
  induction args with
  | nil => exact ⟨rfl, rfl⟩
  | cons arg args ih =>
    rw [List.mem_cons, not_or] at no_end
    obtain ⟨front, back⟩ := ih no_end.2
    rw [ahead_cons (Ne.symm no_end.1), behind_cons (Ne.symm no_end.1), front, back]
    exact ⟨rfl, rfl⟩

/-- Arguments that ask about the program itself ask the same in any order,
as long as there is no `--` among them. -/
theorem Inquires.perm {args' : List String} (h : Inquires args') (no_end : "--" ∉ args)
    (same : args.Perm args') : Inquires args := by
  rw [Inquires, (ahead_of_not_mem fun member => no_end (same.mem_iff.2 member)).1] at h
  obtain ⟨arg, member, inquiry⟩ := h
  rw [Inquires, (ahead_of_not_mem no_end).1]
  exact ⟨arg, same.mem_iff.2 member, inquiry⟩

/-- The order makes no difference for a request either. -/
theorem Asks.perm {args' : List String} (h : Asks args options) (no_end : "--" ∉ args)
    (same : args.Perm args') : Asks args' options := by
  obtain ⟨front, back⟩ := ahead_of_not_mem no_end
  obtain ⟨front', back'⟩ := ahead_of_not_mem fun member => no_end (same.mem_iff.2 member)
  obtain ⟨known, file, named, json, time⟩ := h
  rw [front] at known json time
  rw [front, back, names, List.append_nil] at file
  constructor
  case known =>
    rw [front']
    exact fun arg member => known arg (same.mem_iff.2 member)
  case file =>
    rw [front', back', names, List.append_nil]
    exact List.perm_singleton.1 ((same.filter _).symm.trans (.of_eq file))
  case named => exact named
  case json => rw [front', ← same.count_eq, json]
  case time => rw [front', ← same.count_eq, time]

end Parse

end ScriptSyntax.CommandLine
