import Timebox.Command.Basic

/-! # What a command line executes

`Command.ofLine` splits a command line into words and decides twice whether the shell runs it.
The line's syntax decides first: a shell operator outside quotes, a `$` or a backquote
(`ForShell`) give the whole line to the shell, as its script with no arguments. For any other
line the machine decides: the first word, resolved through the search path
(`Command.resolvePath`), is executed with the other words as its arguments when it names an
executable file. When it does not, `Command.make` runs it by the shell as well, and the shell
gets the first word as its script and the other words after it; a shell takes those for `$0`,
`$1`, … and passes none of them to the script.

Main statements: `ofLine_runs` says what every accepted line executes (`RunsLine`), and in
particular that the words after the first reach the program exactly when the first word
resolves to an executable file. `missing_program_line_runs_shell` is a line whose first word
names no program: `nosuchcmd-xyz a b` runs as `/bin/sh -c nosuchcmd-xyz a b`.
-/

namespace Timebox.Command

/-- Whether a split line is for the shell as a whole: a shell operator stopped the split, or
the line holds a `$` or a backquote anywhere. -/
def ForShell (sp : Words.Split) (line : String) : Prop :=
  sp.operatorAt.isSome ∨ '$' ∈ line.toList ∨ Char.ofNat 96 ∈ line.toList

/-- How the command `c` of a command line executes, given the line's split `sp`. -/
structure RunsLine (work : FileTree) (line : String) (sp : Words.Split) (c : Command) : Prop where
  /-- A line for the shell is the shell's script, with no arguments after it. -/
  whole : ForShell sp line → c.argv = ["/bin/sh", "-c", resolvePath work line]
  /-- Any other line runs its first word's program: with the other words as its arguments
  when it is an executable file, else as the shell's script with the other words after it;
  so the words reach the program exactly when it is an executable file. -/
  words : ¬ ForShell sp line → ∃ w ws, sp.words = w :: ws ∧
    c.argv = (if Machine.isExecutable work (resolvePath work w) then resolvePath work w :: ws
      else ["/bin/sh", "-c", resolvePath work w] ++ ws) ∧
    (c.argv = resolvePath work w :: ws ↔ Machine.isExecutable work (resolvePath work w) = true)

/-- The test `Command.ofLine` makes is `ForShell`; a backquote is the character 96. -/
theorem forShell_iff (sp : Words.Split) (line : String) :
    (sp.operatorAt.isSome = true ∨
        (line.toList.any fun c => decide (c = '$' ∨ c.toNat = 96)) = true) ↔
      ForShell sp line := by
  have hq : ∀ c : Char, c.toNat = 96 ↔ c = Char.ofNat 96 := fun c =>
    ⟨fun h => by rw [← Char.ofNat_toNat c, h], fun h => h ▸ rfl⟩
  simp only [List.any_eq_true, decide_eq_true_eq, ForShell, hq]
  constructor
  · rintro (h | ⟨x, hx, rfl | rfl⟩)
    · exact .inl h
    · exact .inr (.inl hx)
    · exact .inr (.inr hx)
  · rintro (h | h | h)
    · exact .inl h
    · exact .inr ⟨_, h, .inl rfl⟩
    · exact .inr ⟨_, h, .inr rfl⟩

/-- A command made of a path passes its arguments to the path's program exactly when that
program is an executable file: otherwise the shell and its `-c` come first. -/
theorem argv_make_eq_iff (work : FileTree) (path : String) (args : List String) :
    (make work path args).argv = resolvePath work path :: args ↔
      Machine.isExecutable work (resolvePath work path) = true := by
  rw [argv_make]
  by_cases hx : Machine.isExecutable work (resolvePath work path) = true
  · simp [hx]
  · simp only [hx, if_false, iff_false, Bool.false_eq_true]
    intro heq
    have hlen := congrArg List.length heq
    simp at hlen
    omega

theorem ofLine_runs {work : FileTree} {line : String} {c : Command}
    (h : ofLine work line = .ok c) :
    ∃ sp, Words.split line = some sp ∧ RunsLine work line sp c := by
  unfold ofLine at h
  cases hsp : Words.split line with
  | none => rw [hsp] at h; cases h
  | some sp =>
    rw [hsp] at h
    dsimp only at h
    refine ⟨sp, rfl, ⟨fun hs => ?_, fun hs => ?_⟩⟩
    · rw [if_pos ((forShell_iff sp line).2 hs)] at h
      cases h
      rfl
    · rw [if_neg (mt (forShell_iff sp line).1 hs)] at h
      cases hw : sp.words with
      | nil => rw [hw] at h; cases h
      | cons w ws =>
        rw [hw] at h
        cases h
        exact ⟨w, ws, rfl, argv_make work w ws, argv_make_eq_iff work w ws⟩

/-- `echo "a b" c` is accepted, and what it runs is said by `ofLine_runs`. -/
theorem ofLine_runs_echo :
    ofLine {} "echo \"a b\" c" = .ok (make {} "echo" ["a b", "c"]) ∧
      ∃ sp, Words.split "echo \"a b\" c" = some sp ∧
        RunsLine {} "echo \"a b\" c" sp (make {} "echo" ["a b", "c"]) :=
  have h : ofLine {} "echo \"a b\" c" = .ok (make {} "echo" ["a b", "c"]) := rfl
  ⟨h, ofLine_runs h⟩

/-- A line whose first word names no program: its words are `nosuchcmd-xyz`, `a` and `b`,
the name resolves to itself, and the line runs as the shell with the name as its script and
`a` and `b` after it, where they become `$0` and `$1`. -/
theorem missing_program_line_runs_shell :
    (Words.split "nosuchcmd-xyz a b").map Words.Split.words = some ["nosuchcmd-xyz", "a", "b"] ∧
      resolvePath {} "nosuchcmd-xyz" = "nosuchcmd-xyz" ∧
      (ofLine {} "nosuchcmd-xyz a b").toOption.map argv =
        some ["/bin/sh", "-c", "nosuchcmd-xyz", "a", "b"] := by
  exact ⟨rfl, by decide +kernel, by decide +kernel⟩

end Timebox.Command
