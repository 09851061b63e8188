import Timebox.Files.Tree

/-! # Reading back what was written

A `FileTree` keeps its files as a list of paths (as parts) with their texts. `FileTree.write`
replaces the text of a file that is there, and adds a file whose directory exists; reading
looks the path up after checking that no part before the last is a file.

Main statements: a file written can be read back with the text written (`read_write`), its
path not ending in a separator; and whether a write succeeds does not depend on the text
(`write_ok_of_ok`).
-/

namespace Timebox.FileTree

/-- Replacing the text of the files at one path keeps which paths hold files. -/
theorem isSome_lookup_replace (files : List (List String × String)) (ps k : List String)
    (text : String) :
    ((files.map fun (q, x) => if q = ps then (q, text) else (q, x)).lookup k).isSome =
      (files.lookup k).isSome := by
  induction files with
  | nil => rfl
  | cons f rest ih =>
    obtain ⟨q, x⟩ := f
    by_cases hq : q = ps
    · subst hq
      cases hk : k == q <;> simp [List.lookup_cons, hk, ih]
    · cases hk : k == q <;> simp [List.lookup_cons, hk, hq, ih]

theorem lookup_replace_self (files : List (List String × String)) (ps : List String)
    (text : String) (h : (files.lookup ps).isSome) :
    (files.map fun (q, x) => if q = ps then (q, text) else (q, x)).lookup ps = some text := by
  induction files with
  | nil => simp at h
  | cons f rest ih =>
    obtain ⟨q, x⟩ := f
    by_cases hq : q = ps
    · subst hq
      simp
    · have hk : (ps == q) = false := beq_eq_false_iff_ne.mpr (Ne.symm hq)
      simp only [List.map_cons, hq, if_false, List.lookup_cons, hk]
      exact ih (by simpa [List.lookup_cons, hk] using h)

/-- What `entryAt` found a file from: no part before the last is a file, and the path is. -/
theorem entryAt_eq_file {t : FileTree} {ps : List String} {x : String}
    (h : t.entryAt ps = .file x) :
    ((List.range ps.length).any fun k => (t.files.lookup (ps.take k)).isSome ∧ k > 0) = false ∧
      t.files.lookup ps = some x := by
  unfold entryAt at h
  split at h
  · cases h
  · rename_i hthrough
    refine ⟨by simpa using hthrough, ?_⟩
    split at h
    · cases h; assumption
    · split at h <;> cases h

theorem entryAt_eq_missing {t : FileTree} {ps : List String} (h : t.entryAt ps = .missing) :
    ((List.range ps.length).any fun k => (t.files.lookup (ps.take k)).isSome ∧ k > 0) = false ∧
      t.files.lookup ps = none := by
  unfold entryAt at h
  split at h
  · cases h
  · rename_i hthrough
    refine ⟨by simpa using hthrough, ?_⟩
    split at h
    · cases h
    · assumption

theorem entryAt_of_lookup {t : FileTree} {ps : List String} {x : String}
    (hp : ((List.range ps.length).any fun k => (t.files.lookup (ps.take k)).isSome ∧ k > 0) = false)
    (hl : t.files.lookup ps = some x) : t.entryAt ps = .file x := by
  unfold entryAt
  rw [if_neg (by simp only [hp]; decide), hl]

theorem entryAt_of_entry_file {t : FileTree} {path x : String} (h : t.entry path = .file x) :
    t.entryAt (parts path) = .file x := by
  unfold entry at h
  split at h
  · rename_i y hy
    split at h
    · cases h
    · cases h; exact hy
  · rename_i hnf
    exact absurd h (hnf x)

theorem entryAt_of_entry_missing {t : FileTree} {path : String} (h : t.entry path = .missing) :
    t.entryAt (parts path) = .missing := by
  unfold entry at h
  split at h
  · split at h <;> cases h
  · exact h

theorem read_of_entryAt {t : FileTree} {path text : String} (hne : path ≠ "")
    (hslash : path.toList.getLast? ≠ some '/') (h : t.entryAt (parts path) = .file text) :
    t.read path = .ok text := by
  simp [read, entry, hne, h, hslash]

/-- A file written can be read back, its path not ending in a separator. -/
theorem read_write {t t' : FileTree} {path text : String} (hw : t.write path text = .ok t')
    (hslash : path.toList.getLast? ≠ some '/') : t'.read path = .ok text := by
  unfold write at hw
  dsimp only at hw
  split at hw
  · cases hw
  · rename_i hne
    apply read_of_entryAt hne hslash
    split at hw
    · -- a file was there: its text is replaced, and no file is added or removed
      rename_i x hx
      cases hw
      obtain ⟨hp, hl⟩ := entryAt_eq_file (entryAt_of_entry_file hx)
      apply entryAt_of_lookup
      · simpa [isSome_lookup_replace] using hp
      · exact lookup_replace_self _ _ _ (by simp [hl])
    · cases hw
    · cases hw
    · -- nothing was there: the file is added last
      rename_i hx
      obtain ⟨hp, hl⟩ := entryAt_eq_missing (entryAt_of_entry_missing hx)
      split at hw
      · cases hw
        apply entryAt_of_lookup
        · -- a part before the last is shorter than the path, so it is not the file added
          simp only [List.any_eq_false] at hp ⊢
          intro k hk
          have hshort : (parts path).take k ≠ parts path := by
            intro heq
            have := congrArg List.length heq
            simp at this
            have := List.mem_range.1 hk
            omega
          simpa [List.lookup_append, hshort] using hp k hk
        · simp [List.lookup_append, hl]
      all_goals cases hw

/-- Whether a file can be written does not depend on its text. -/
theorem write_ok_of_ok {t t1 : FileTree} {path a : String} (h : t.write path a = .ok t1)
    (b : String) : ∃ t2, t.write path b = .ok t2 := by
  unfold write at h ⊢
  dsimp only at h ⊢
  split at h
  · cases h
  · rename_i hne
    rw [if_neg hne]
    split at h
    · exact ⟨_, rfl⟩
    · cases h
    · cases h
    · split at h
      · exact ⟨_, rfl⟩
      all_goals cases h

end Timebox.FileTree
