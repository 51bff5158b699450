/-
ScriptSyntax.Proofs.FileSystem.Paths — the name of what a path leads to.

A path may end in slashes and in dots, which lead nowhere, and the name is
what stands in front of them. So the last slash does not tell where it is:
both `src/main` and `src/main/.` end in the name `main`, and `src/..` ends
in none.

* `Path.IsLast` says where the name stands, without taking the path apart.
* `parts_eq_cons_iff` — the names of a path are what it is joined from.
* `Path.isLast_iff` — a path has one such name at most, and it is the one
  that `Path.fileName?` finds.
* `Path.goesBy_iff` — what a report calls the file at a path.
-/
import ScriptSyntax.FileSystem
import Mathlib.Data.List.Basic

namespace ScriptSyntax.Path

/-! ## 1. Names and slashes -/

theorem names_of_not_mem {name : List Char} (h : '/' ∉ name) : names name = [name] := by
  induction name with
  | nil => rfl
  | cons c rest ih =>
    rw [List.mem_cons, not_or] at h
    rw [names, if_neg (Ne.symm h.1), ih h.2]

theorem names_append_slash (folder rest : List Char) :
    names (folder ++ '/' :: rest) = names folder ++ names rest := by
  induction folder with
  | nil => simp [names]
  | cons c folder ih =>
    rw [List.cons_append, names, names, ih]
    split
    · rfl
    · obtain ⟨name, later, cut⟩ := List.exists_cons_of_ne_nil (names_ne_nil folder)
      rw [cut]
      rfl

/-- The names in a text are those that it is joined from. -/
theorem names_eq_cons_iff {text name : List Char} {later : List (List Char)} :
    names text = name :: later
      ↔ text = name ++ later.flatMap ('/' :: ·) ∧ ∀ part ∈ name :: later, '/' ∉ part := by
  constructor
  · intro h
    induction text generalizing name later with
    | nil =>
      obtain ⟨rfl, rfl⟩ := List.cons.inj h
      simp
    | cons c rest ih =>
      obtain ⟨first, others, cut⟩ := List.exists_cons_of_ne_nil (names_ne_nil rest)
      obtain ⟨joined, no_slash⟩ := ih cut
      rw [names, cut] at h
      split at h <;> obtain ⟨rfl, rfl⟩ := List.cons.inj h
      case isTrue slash =>
        rw [slash, List.flatMap_cons, List.cons_append, ← joined, List.forall_mem_cons]
        exact ⟨rfl, List.not_mem_nil, no_slash⟩
      case isFalse other =>
        rw [List.forall_mem_cons] at no_slash ⊢
        rw [List.cons_append, ← joined, List.mem_cons, not_or]
        exact ⟨rfl, ⟨Ne.symm other, no_slash.1⟩, no_slash.2⟩
  · rintro ⟨rfl, no_slash⟩
    induction later generalizing name with
    | nil =>
      rw [List.flatMap_nil, List.append_nil]
      exact names_of_not_mem (no_slash name List.mem_cons_self)
    | cons next later ih =>
      rw [List.forall_mem_cons] at no_slash
      rw [List.flatMap_cons, List.cons_append, names_append_slash, names_of_not_mem no_slash.1,
        ih no_slash.2]
      rfl

/-- Names, each behind a slash. -/
def below (names : List String) : String :=
  String.join (names.map ("/" ++ ·))

theorem toList_below (names : List String) :
    (below names).toList = (names.map String.toList).flatMap ('/' :: ·) := by
  simp [below, String.toList_join, List.flatMap_map]

/-- The names in a path are those that it is joined from. -/
theorem parts_eq_cons_iff {path name : String} {later : List String} :
    parts path = name :: later
      ↔ path = name ++ below later ∧ ∀ part ∈ name :: later, '/' ∉ part.toList := by
  have chars : parts path = name :: later
      ↔ names path.toList = name.toList :: later.map String.toList := by
    rw [parts, ← (List.map_injective_iff.2 fun _ _ => String.toList_inj.1).eq_iff, List.map_map]
    simp [Function.comp_def]
  rw [chars, names_eq_cons_iff, ← String.toList_inj, String.toList_append, toList_below,
    ← List.map_cons, List.forall_mem_map]

theorem parts_append_slash (folder rest : String) :
    parts (folder ++ "/" ++ rest) = parts folder ++ parts rest := by
  have slash : (folder ++ "/" ++ rest).toList = folder.toList ++ '/' :: rest.toList := by simp
  rw [parts, slash, names_append_slash, List.map_append]
  rfl

/-! ## 2. The last name -/

/-- A name is the one that a path ends in: nothing or a slash stands in
front of it, and behind it only names that stay where they are. -/
structure IsLast (name path : String) : Prop where
  no_slash : '/' ∉ name.toList
  own : ¬ Stays name ∧ name ≠ ".."
  place : ∃ front staying, (front = "" ∨ ∃ folder, front = folder ++ "/")
    ∧ (∀ part ∈ staying, Stays part) ∧ path = front ++ name ++ below staying

theorem slash_notMem_of_stays {name : String} (h : Stays name) : '/' ∉ name.toList := by
  rcases h with rfl | rfl <;> decide

/-- The name that is found is the last one in a path that does not stay
where it is. -/
theorem fileName?_eq_some_iff {name path : String} :
    fileName? path = some name
      ↔ (¬ Stays name ∧ name ≠ "..")
        ∧ ∃ before staying, parts path = before ++ name :: staying
          ∧ ∀ part ∈ staying, Stays part := by
  have turned (before staying : List String) :
      (parts path).reverse = staying ++ name :: before
        ↔ parts path = before.reverse ++ name :: staying.reverse := by
    rw [List.reverse_eq_iff]
    simp
  simp only [fileName?, Option.filter_eq_some_iff, List.find?_eq_some_iff_append, turned,
    decide_eq_true_eq, Bool.not_eq_true', decide_eq_false_iff_not, not_not]
  constructor
  · rintro ⟨⟨own, staying, before, split, stays⟩, no_way_out⟩
    exact ⟨⟨own, no_way_out⟩, before.reverse, staying.reverse, split, by simpa using stays⟩
  · rintro ⟨⟨own, no_way_out⟩, before, staying, split, stays⟩
    exact ⟨⟨own, staying.reverse, before.reverse, by simpa using split, by simpa using stays⟩,
      no_way_out⟩

/-- A path ends in the name that is found, and in no other. -/
theorem isLast_iff {name path : String} : IsLast name path ↔ fileName? path = some name := by
  rw [fileName?_eq_some_iff]
  constructor
  · rintro ⟨no_slash, own, front, staying, front_ends, stays, rfl⟩
    have ending : parts (name ++ below staying) = name :: staying := by
      refine parts_eq_cons_iff.2 ⟨rfl, List.forall_mem_cons.2 ⟨no_slash, fun part mem => ?_⟩⟩
      exact slash_notMem_of_stays (stays part mem)
    refine ⟨own, ?_⟩
    rcases front_ends with rfl | ⟨folder, rfl⟩
    · exact ⟨[], staying, by simpa using ending, stays⟩
    · refine ⟨parts folder, staying, ?_, stays⟩
      rw [String.append_assoc, parts_append_slash, ending]
  · rintro ⟨own, before, staying, split, stays⟩
    cases before with
    | nil =>
      obtain ⟨joined, no_slash⟩ := parts_eq_cons_iff.1 split
      refine ⟨no_slash name List.mem_cons_self, own, "", staying, .inl rfl, stays, ?_⟩
      simpa using joined
    | cons first before =>
      obtain ⟨joined, no_slash⟩ := parts_eq_cons_iff.1 split
      refine ⟨no_slash name (by simp), own, first ++ below before ++ "/", staying, .inr ⟨_, rfl⟩,
        stays, ?_⟩
      rw [joined]
      simp [below, String.join_append, String.append_assoc]

example : fileName? "src/main/." = some "main" ∧ fileName? "src/.." = none := by decide

/-- What a report calls the file at a path: by the name that the path ends
in, and `shell` where there is none. -/
def GoesBy (path name : String) : Prop :=
  IsLast name path ∨ name = "shell" ∧ ∀ other, ¬ IsLast other path

theorem goesBy_iff {path name : String} :
    GoesBy path name ↔ (fileName? path).getD "shell" = name := by
  simp only [GoesBy, isLast_iff]
  cases fileName? path <;> simp [eq_comm]

end ScriptSyntax.Path
