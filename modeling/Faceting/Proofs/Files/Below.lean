import Faceting.Proofs.Files.Resolution

/-!
# Files below a directory

Where the path of a file below a directory leads, if the path of the directory leads somewhere: to the
entry with the name of the file there. So a file can be put in place if its name is not too long and
there is no directory of that name (`FileTree.target_join`), and it cannot if its name is too long
(`FileTree.target_join_of_tooLong`). Wherever it is put, it has its name there
(`FileTree.exists_of_target_join`).
-/

namespace Faceting

/-- The directory that files below a path stand in: the empty path stands for the working directory. -/
def Path.holder (dir : Path) : Path :=
  if dir.text = "" then ⟨"."⟩ else dir

namespace FileTree

variable {t : FileTree} {dir : Path} {m : List String} {name : String}

/-- Spellings that are alike lead to the same directory. -/
theorem Leads.of_alike {p q : Path} (hpq : p.Alike q) (h : t.Leads p m) : t.Leads q m := by
  obtain ⟨hp, hleads⟩ := h
  have horigin : t.origin q = t.origin p := by
    unfold origin
    rw [hpq.absolute]
  refine ⟨⟨?_, fun hempty => hp.nonempty (hpq.empty.2 hempty), by rw [horigin]; exact hp.origin⟩, ?_⟩
  · have hzero := hp.noZero
    rw [← Bool.not_eq_true, List.contains_iff_mem, Path.mem_zero_iff] at hzero ⊢
    rwa [← hpq.steps]
  · rw [horigin, ← leadsTo_filter]
    rw [← leadsTo_filter] at hleads
    have hsteps : q.segments.filter (!Path.isIdle ·) = p.segments.filter (!Path.isIdle ·) :=
      hpq.steps.symm
    rwa [hsteps]

/-- The path of a file leads to its name in its directory. -/
theorem walk_join (h : t.Leads dir.holder m) (hname : Path.Plain name) :
    t.walk (dir.join ⟨name⟩) = walkFrom t.root m [name] := by
  by_cases hdir : dir.text = ""
  · rw [Path.holder, if_pos hdir] at h
    have hsegments : (⟨"."⟩ : Path).segments = ["."] := Path.segments_of_notMem (by decide)
    have horigin : t.origin ⟨name⟩ = t.origin ⟨"."⟩ := by
      unfold origin
      rw [hname.isAbsolute]
      rfl
    have hwalkable : t.Walkable ⟨name⟩ :=
      ⟨by simpa using hname.noZero, hname.ne_empty, by rw [horigin]; exact h.1.origin⟩
    have hleads := h.2
    rw [hsegments, leadsTo_idle (by decide), leadsTo_nil] at hleads
    rw [Path.join_of_empty hdir, walk, walkSegments_of_walkable hwalkable, hname.segments, horigin,
      hleads.1]
  · rw [Path.holder, if_neg hdir] at h
    obtain ⟨first, more, hsegments, hsteps⟩ := Path.exists_segments_join hdir hname
    have horigin : t.origin (dir.join ⟨name⟩) = t.origin dir := by
      unfold origin
      rw [Path.isAbsolute_join hdir hname]
    have hleads : LeadsTo t.root (t.origin dir) (first :: more) m := by
      have hdirleads := h.2
      rw [← leadsTo_filter] at hdirleads ⊢
      rw [hsteps]
      exact hdirleads
    have hwalkable : t.Walkable (dir.join ⟨name⟩) := by
      refine ⟨?_, fun hempty => ?_, by rw [horigin]; exact h.1.origin⟩
      · have hzero := h.1.noZero
        rw [← Bool.not_eq_true, List.contains_iff_mem, Path.mem_zero_iff] at hzero ⊢
        rintro ⟨step, hstep, hmem⟩
        rw [Path.steps, hsegments, ← List.cons_append, List.filter_append, hsteps] at hstep
        rcases List.mem_append.1 hstep with hstep | hstep
        · exact hzero ⟨step, hstep, hmem⟩
        · obtain rfl : step = name := by simpa using (List.mem_filter.1 hstep).1
          exact hname.noZero hmem
      · rw [Path.text_eq_empty_iff, hsegments] at hempty
        simp at hempty
    rw [walk, walkSegments_of_walkable hwalkable, hsegments, horigin, ← List.cons_append,
      walkFrom_append hleads]

theorem target_join_of_tooLong (h : t.Leads dir.holder m) (hname : Path.Plain name)
    (hlong : nameLimit < name.utf8ByteSize) : t.target (dir.join ⟨name⟩) = .error .invalidName := by
  rw [target, walk_join h hname, walkFrom_name _ _ _ hname.notIdle hname.notUp, if_pos hlong]

theorem stat_join_of_tooLong (h : t.Leads dir.holder m) (hname : Path.Plain name)
    (hlong : nameLimit < name.utf8ByteSize) : t.stat (dir.join ⟨name⟩) = .error .invalidName := by
  rw [stat, entry, walk_join h hname, walkFrom_name _ _ _ hname.notIdle hname.notUp, if_pos hlong]
  rfl

/-- What is found at the path of a file with a name that is not too long. -/
theorem walk_join_cases (h : t.Leads dir.holder m) (hname : Path.Plain name)
    (hshort : name.utf8ByteSize ≤ nameLimit) :
    t.itemAt? (m ++ [name]) = none ∧ t.walk (dir.join ⟨name⟩) = .ok (.vacant (m ++ [name]) false) ∨
      ∃ e, t.root.at? (m ++ [name]) = some e ∧
        t.walk (dir.join ⟨name⟩) = .ok (.found (m ++ [name]) e) := by
  rw [walk_join h hname, walkFrom_name _ _ _ hname.notIdle hname.notUp, if_neg (Nat.not_lt.2 hshort)]
  cases hat : t.root.at? (m ++ [name]) with
  | none => exact .inl ⟨by simp [itemAt?, Entry.itemAt?, hat], rfl⟩
  | some e =>
    refine .inr ⟨e, rfl, ?_⟩
    cases e with
    | file content readOnly => rfl
    | directory entries =>
      show walkFrom t.root (m ++ [name]) [] = _
      rw [walkFrom_nil, hat]

/-- A file can be put in place if no directory has its name. -/
theorem target_join (h : t.Leads dir.holder m) (hname : Path.Plain name)
    (hshort : name.utf8ByteSize ≤ nameLimit) (hfree : t.itemAt? (m ++ [name]) ≠ some .directory) :
    t.target (dir.join ⟨name⟩) = .ok (m ++ [name]) := by
  rcases walk_join_cases h hname hshort with ⟨-, hwalk⟩ | ⟨e, he, hwalk⟩
  · rw [target, hwalk]
  · cases e with
    | file content readOnly => rw [target, hwalk]
    | directory entries =>
      refine absurd ?_ hfree
      simp [itemAt?, Entry.itemAt?, he, Entry.item]

theorem stat_join_eq_directory (h : t.Leads dir.holder m) (hname : Path.Plain name)
    (hshort : name.utf8ByteSize ≤ nameLimit) (hdir : t.itemAt? (m ++ [name]) = some .directory) :
    t.stat (dir.join ⟨name⟩) = .ok .directory := by
  rcases walk_join_cases h hname hshort with ⟨hnone, -⟩ | ⟨e, he, hwalk⟩
  · rw [hnone] at hdir
    cases hdir
  · cases e with
    | file content readOnly => simp [itemAt?, Entry.itemAt?, he, Entry.item] at hdir
    | directory entries =>
      rw [stat, entry, hwalk]
      rfl

/-- Nothing is found at the path of a file where nothing has its name. -/
theorem stat_join_of_free (h : t.Leads dir.holder m) (hname : Path.Plain name)
    (hfree : t.itemAt? (m ++ [name]) = none) (found : Stat) : t.stat (dir.join ⟨name⟩) ≠ .ok found := by
  by_cases hlong : nameLimit < name.utf8ByteSize
  · simp [stat_join_of_tooLong h hname hlong]
  · rcases walk_join_cases h hname (Nat.not_lt.1 hlong) with ⟨-, hwalk⟩ | ⟨e, he, -⟩
    · simp [stat, entry, hwalk, Except.map]
    · simp [itemAt?, Entry.itemAt?, he] at hfree

/-! ### The name of a file -/

/-- Segments that end with a name lead to that name. -/
theorem resolve_concat (hname : Path.Plain name) (l segments : List String) :
    resolve l (segments ++ [name]) = resolve l segments ++ [name] := by
  induction l, segments using walkInduction with
  | nil l => exact resolve_name l [] hname.notIdle hname.notUp
  | idle l segment rest hidle ih =>
    rw [List.cons_append, resolve_idle l _ hidle, resolve_idle l rest hidle]
    exact ih
  | up l rest ih =>
    rw [List.cons_append, resolve_up, resolve_up]
    exact ih
  | name l segment rest hidle hup ih =>
    rw [List.cons_append, resolve_name l _ hidle hup, resolve_name l rest hidle hup]
    exact ih

/-- A file is put below a directory under its own name. -/
theorem exists_of_target_join (hname : Path.Plain name) {l : List String}
    (h : t.target (dir.join ⟨name⟩) = .ok l) : ∃ m, l = m ++ [name] := by
  have hl := target_eq_resolve h
  by_cases hdir : dir.text = ""
  · rw [Path.join_of_empty hdir, hname.segments] at hl
    exact ⟨_, hl.trans (resolve_concat hname _ [])⟩
  · obtain ⟨first, more, hsegments, -⟩ := Path.exists_segments_join hdir hname
    rw [hsegments] at hl
    exact ⟨_, hl.trans (resolve_concat hname _ (first :: more))⟩

end FileTree

end Faceting
