/-
ScriptSyntax.Proofs.Lexeme.Cuts — where a run of digits and periods is
cut into numbers.

`IsCut` says what the pieces look like and not how they are found: they
make up the run, every piece but the first begins with a period and
holds no other, and the first holds one period at most, which it must if
there are more pieces. `pieces_eq_iff` says that there is one such list,
and that it is the one that number tokens are made from.
-/
import ScriptSyntax.Lexeme.Basic

namespace ScriptSyntax.Lexeme

/-- A later piece of a run: a period, and no other after it. -/
def IsContinuation (piece : List Char) : Prop :=
  ∃ digits, piece = '.' :: digits ∧ '.' ∉ digits

/-- A run cut before every period but its first, into a first piece and
later ones. -/
structure IsCut (run first : List Char) (later : List (List Char)) : Prop where
  /-- The pieces make up the run. -/
  joined : first ++ later.flatten = run
  /-- The first piece goes on to the second period. -/
  first_le : first.count '.' ≤ 1
  /-- Nothing is cut off before there has been a period. -/
  first_mem : later ≠ [] → '.' ∈ first
  /-- Each cut falls before a period, and no period is left inside. -/
  later_eq : ∀ piece ∈ later, IsContinuation piece

/-! ## 1. What the splitting finds -/

theorem splitPeriods_cons_of_ne {seen : Bool} {c : Char} (plain : c ≠ '.') (rest : List Char) :
    splitPeriods seen (c :: rest)
      = (c :: (splitPeriods seen rest).1, (splitPeriods seen rest).2) := by
  have : (c == '.') = false := by simpa using plain
  simp [splitPeriods, this]

theorem splitPeriods_true_period (rest : List Char) :
    splitPeriods true ('.' :: rest)
      = ([], ('.' :: (splitPeriods true rest).1) :: (splitPeriods true rest).2) := rfl

theorem splitPeriods_false_period (rest : List Char) :
    splitPeriods false ('.' :: rest)
      = ('.' :: (splitPeriods true rest).1, (splitPeriods true rest).2) := rfl

/-- Once a period has been seen, no other comes before the next cut. -/
theorem period_notMem_splitPeriods_true (run : List Char) :
    '.' ∉ (splitPeriods true run).1 := by
  induction run with
  | nil => simp [splitPeriods]
  | cons c rest ih =>
    by_cases period : c = '.'
    · subst period
      simp [splitPeriods_true_period]
    · rw [splitPeriods_cons_of_ne period, List.mem_cons, not_or]
      exact ⟨fun h => period h.symm, ih⟩

theorem isContinuation_of_mem_splitPeriods {seen : Bool} {run piece : List Char}
    (h : piece ∈ (splitPeriods seen run).2) : IsContinuation piece := by
  induction run generalizing seen with
  | nil => simp [splitPeriods] at h
  | cons c rest ih =>
    by_cases period : c = '.'
    · subst period
      cases seen with
      | false => exact ih h
      | true =>
        rw [splitPeriods_true_period, List.mem_cons] at h
        rcases h with rfl | h
        · exact ⟨_, rfl, period_notMem_splitPeriods_true rest⟩
        · exact ih h
    · rw [splitPeriods_cons_of_ne period] at h
      exact ih h

theorem count_splitPeriods_false_le (run : List Char) :
    (splitPeriods false run).1.count '.' ≤ 1 := by
  induction run with
  | nil => simp [splitPeriods]
  | cons c rest ih =>
    by_cases period : c = '.'
    · subst period
      have := List.count_eq_zero.2 (period_notMem_splitPeriods_true rest)
      simp [splitPeriods_false_period, this]
    · rw [splitPeriods_cons_of_ne period, List.count_cons_of_ne period]
      exact ih

theorem period_mem_splitPeriods_false {run : List Char} (h : (splitPeriods false run).2 ≠ []) :
    '.' ∈ (splitPeriods false run).1 := by
  induction run with
  | nil => simp [splitPeriods] at h
  | cons c rest ih =>
    by_cases period : c = '.'
    · subst period
      simp [splitPeriods_false_period]
    · rw [splitPeriods_cons_of_ne period] at h ⊢
      exact List.mem_cons_of_mem _ (ih h)

/-- The pieces of a run are a cut of it. -/
theorem isCut_splitPeriods (run : List Char) :
    IsCut run (splitPeriods false run).1 (splitPeriods false run).2 where
  joined := flatten_splitPeriods false run
  first_le := count_splitPeriods_false_le run
  first_mem := period_mem_splitPeriods_false
  later_eq := fun _ h => isContinuation_of_mem_splitPeriods h

/-! ## 2. There is only one cut -/

/-- The splitting passes over characters that are no periods. -/
theorem splitPeriods_append {seen : Bool} {digits : List Char} (plain : '.' ∉ digits)
    (rest : List Char) :
    splitPeriods seen (digits ++ rest)
      = (digits ++ (splitPeriods seen rest).1, (splitPeriods seen rest).2) := by
  induction digits with
  | nil => rfl
  | cons c digits ih =>
    rw [List.mem_cons, not_or] at plain
    rw [List.cons_append, splitPeriods_cons_of_ne (Ne.symm plain.1), ih plain.2]
    rfl

theorem splitPeriods_true_flatten {later : List (List Char)}
    (h : ∀ piece ∈ later, IsContinuation piece) :
    splitPeriods true later.flatten = ([], later) := by
  induction later with
  | nil => rfl
  | cons piece later ih =>
    obtain ⟨digits, rfl, plain⟩ := h piece List.mem_cons_self
    have rest := ih fun other mem => h other (List.mem_cons_of_mem _ mem)
    rw [List.flatten_cons, List.cons_append, splitPeriods_true_period,
      splitPeriods_append plain, rest, List.append_nil]

/-- Every cut of a run is the one that the splitting finds. -/
theorem IsCut.splitPeriods_eq {run first : List Char} {later : List (List Char)}
    (h : IsCut run first later) : splitPeriods false run = (first, later) := by
  rw [← h.joined]
  by_cases period : '.' ∈ first
  · -- The one period of the first piece is where the splitting begins to cut.
    obtain ⟨before, after, rfl, plain⟩ := List.eq_append_cons_of_mem period
    have once := h.first_le
    rw [List.count_append, List.count_cons_self] at once
    have plain' : '.' ∉ after := List.count_eq_zero.1 (by omega)
    rw [List.append_assoc, splitPeriods_append plain, List.cons_append,
      splitPeriods_false_period, splitPeriods_append plain', splitPeriods_true_flatten h.later_eq,
      List.append_nil]
  · have none_later : later = [] := Classical.byContradiction fun more => period (h.first_mem more)
    subst none_later
    rw [splitPeriods_append period]
    simp [splitPeriods]

/-- The pieces of a run are its one cut before every period but the
first. -/
theorem pieces_eq_iff {run first : List Char} {later : List (List Char)} :
    pieces run = first :: later ↔ IsCut run first later := by
  constructor
  · intro h
    obtain ⟨rfl, rfl⟩ := List.cons.inj h
    exact isCut_splitPeriods run
  · intro h
    rw [pieces, h.splitPeriods_eq]

end ScriptSyntax.Lexeme
