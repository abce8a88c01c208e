import Faceting.Proofs.Files.Below
import Faceting.Proofs.Writer.Batch

/-!
# Files without write permission are left alone

A writer that respects permissions looks at every path of a batch before any file is put in place, and the
directory of a path has been made by then. That is enough to protect every file without write permission,
because where a path leads does not depend on the tree: a path that finds a file in some tree finds the file
at the same location in every tree that has the directory of the path (`FileTree.walk_of_directory`). So no
path of a batch that is prepared leads to such a file (`Writer.prepareAll_protects`), and none of its files
is put in place of one, however the paths are spelled (`Writer.readOnly_files_kept`).
-/

namespace Faceting

namespace FileTree

/-! ### Paths to files -/

theorem LeadsTo.eq_resolve {root : Entry} {l segments m : List String} (h : LeadsTo root l segments m) :
    m = resolve l segments := by
  obtain ⟨entries, hwalk⟩ := h
  exact walkFrom_location hwalk

/-- A walk that finds a file ends with the name of the file. -/
theorem walkFrom_file {root : Entry} {l m segments : List String} {content : ByteArray} {readOnly : Bool}
    (hl : root.isDirectoryAt l = true)
    (h : walkFrom root l segments = .ok (.found m (.file content readOnly))) :
    ∃ front name, segments = front ++ [name] ∧ Path.isIdle name = false ∧ name ≠ ".." ∧
      name.utf8ByteSize ≤ nameLimit ∧ m = resolve l front ++ [name] := by
  induction l, segments using walkInduction with
  | nil l =>
    obtain ⟨entries, hentries⟩ := Entry.isDirectoryAt_iff.1 hl
    rw [walkFrom_nil, hentries] at h
    cases h
  | idle l segment rest hidle ih =>
    rw [walkFrom_idle _ _ _ hidle] at h
    obtain ⟨front, name, rfl, hname⟩ := ih hl h
    refine ⟨segment :: front, name, rfl, ?_⟩
    rw [resolve_idle l front hidle]
    exact hname
  | up l rest ih =>
    rw [walkFrom_up] at h
    obtain ⟨front, name, rfl, hname⟩ := ih (Entry.isDirectoryAt_dropLast hl) h
    refine ⟨".." :: front, name, rfl, ?_⟩
    rw [resolve_up]
    exact hname
  | name l segment rest hidle hup ih =>
    obtain ⟨hlimit, ⟨-, -, hplace⟩ | ⟨content', readOnly', -, hend, hplace⟩ | ⟨hdir, hrest⟩⟩ :=
      walkFrom_name_cases hidle hup h
    · cases hplace
    · cases hplace
      exact ⟨[], segment, by rw [hend]; rfl, hidle, hup, hlimit, rfl⟩
    · obtain ⟨front, name, rfl, hname⟩ := ih hdir hrest
      refine ⟨segment :: front, name, rfl, ?_⟩
      rw [resolve_name l front hidle hup]
      exact hname

/-- Where the directory of a path leads, the segments before the last lead too. -/
theorem leadsTo_of_leads_directory {t : FileTree} {p : Path} {first name : String} {more m : List String}
    (hname : Path.Plain name) (hsegments : p.segments = first :: (more ++ [name]))
    (h : t.Leads p.directory m) :
    t.root.isDirectoryAt (t.origin p) = true ∧ LeadsTo t.root (t.origin p) (first :: more) m := by
  obtain ⟨-, habsolute, hsteps⟩ := Path.directory_steps hname hsegments
  have horigin : t.origin p.directory = t.origin p := by
    unfold origin
    rw [habsolute]
  obtain ⟨hwalkable, hleads⟩ := h
  constructor
  · rw [← horigin]
    exact hwalkable.origin
  · rw [horigin, ← leadsTo_filter] at hleads
    rw [← leadsTo_filter, ← hsteps]
    exact hleads

/-- **A path that finds a file in some tree finds the file at the same location in every tree that has the
directory of the path.** -/
theorem walk_of_directory {t t' : FileTree} {p : Path} {l : List String} {content content' : ByteArray}
    {readOnly readOnly' : Bool} (hworking : t'.working = t.working)
    (hfound : t'.walk p = .ok (.found l (.file content' readOnly')))
    (hdirectory : p.directory.text = "" ∨ ∃ m, t.Leads p.directory m)
    (hitem : t.itemAt? l = some (.file content readOnly)) :
    t.walk p = .ok (.found l (.file content readOnly)) := by
  obtain ⟨hwalkable, hwalk⟩ := walkSegments_eq_ok.1 hfound
  obtain ⟨front, name, hsegments, hidle, hup, hlimit, hl⟩ := walkFrom_file hwalkable.origin hwalk
  have horigin : t'.origin p = t.origin p := by
    unfold origin
    rw [hworking]
  rw [horigin] at hl
  have hat : t.root.at? (resolve (t.origin p) front ++ [name]) = some (.file content readOnly) := by
    rw [← hl]
    exact Entry.itemAt?_eq_file.1 hitem
  have hfront : t.root.isDirectoryAt (t.origin p) = true ∧
      LeadsTo t.root (t.origin p) front (resolve (t.origin p) front) := by
    cases front with
    | nil =>
      have hholder := Entry.isDirectoryAt_of_at?_append hat
      exact ⟨hholder, leadsTo_nil.2 ⟨rfl, hholder⟩⟩
    | cons first more =>
      have hmem : name ∈ p.segments := by simp [hsegments]
      have hname : Path.Plain name := by
        refine ⟨Path.notMem_of_mem_segments hmem, ?_, hidle, hup⟩
        intro hzero
        have hsome := Path.mem_zero_iff.2 ⟨name, List.mem_filter.2 ⟨hmem, by simp [hidle]⟩, hzero⟩
        simpa [hsome] using hwalkable.noZero
      rcases hdirectory with hempty | ⟨m, hm⟩
      · exact absurd hempty (Path.directory_steps hname hsegments).1
      · obtain ⟨hstart, hleads⟩ := leadsTo_of_leads_directory hname hsegments hm
        rw [hleads.eq_resolve] at hleads
        exact ⟨hstart, hleads⟩
  refine walkSegments_eq_ok.2 ⟨⟨hwalkable.noZero, hwalkable.nonempty, hfront.1⟩, ?_⟩
  rw [hsegments, walkFrom_append hfront.2, walkFrom_name _ _ _ hidle hup, if_neg (Nat.not_lt.2 hlimit), hat,
    hl]
  rfl

theorem stat_of_found {t : FileTree} {p : Path} {l : List String} {e : Entry}
    (h : t.walk p = .ok (.found l e)) : t.stat p = .ok e.stat := by
  rw [stat, entry, h]
  rfl

end FileTree

namespace Writer

open FileTree

variable {w : Writer} {files : List PendingFile} {t t₁ t' : FileTree}

/-! ### Prepared batches -/

theorem ne_readOnly_of_checkTarget (hw : w.respectReadOnly = true) {p : Path}
    (h : runOn t (w.checkTarget p) = (.ok (), t₁)) : t.stat p ≠ .ok (.file true) := by
  intro hstat
  rw [runOn_checkTarget, hstat] at h
  simp [hw] at h

/-- A batch that is prepared has the directories of its paths, and none of its paths leads to a file without
write permission. -/
theorem prepareAll_protects (hw : w.respectReadOnly = true)
    (h : runOn t (w.prepareAll files) = (.ok (), t₁)) {f : PendingFile} (hf : f ∈ files) :
    (f.path.directory.text = "" ∨ ∃ m, t₁.Leads f.path.directory m) ∧
      ∀ l content, t₁.walk f.path ≠ .ok (.found l (.file content true)) := by
  induction files generalizing t with
  | nil => cases hf
  | cons g rest ih =>
    rw [prepareAll] at h
    obtain ⟨_, t₂, hdirectory, hnext⟩ := runOn_bind_eq_ok h
    obtain ⟨_, t₃, hcheck, hrest⟩ := runOn_bind_eq_ok hnext
    obtain ⟨rfl, -⟩ := checkTarget_spec hcheck
    rcases List.mem_cons.1 hf with rfl | hmem
    · -- what was checked before the other directories were made holds afterwards as well
      have hadded := (directoriesMade_prepareAll hrest).onlyDirectoriesAdded
      have hready := (prepareDirectory_spec hdirectory).2 rfl
      constructor
      · rcases hready with hempty | ⟨m, hm⟩
        · exact .inl hempty
        · exact .inr ⟨m, hadded.grows.leads hm⟩
      · intro l content hfound
        have hitem : t₁.itemAt? l = some (.file content true) :=
          Entry.itemAt?_eq_file.2 (walkFrom_found (walkSegments_eq_ok.1 hfound).2)
        have hbefore := walk_of_directory hadded.working hfound hready ((hadded.files l content true).1 hitem)
        exact ne_readOnly_of_checkTarget hw hcheck (stat_of_found hbefore)
    · exact ih hrest hmem

/-- No file of a batch that is prepared has its place where a file without write permission is, in whichever
tree its path is followed. -/
theorem prepareAll_ne_place (hw : w.respectReadOnly = true)
    (h : runOn t (w.prepareAll files) = (.ok (), t₁)) {f : PendingFile} (hf : f ∈ files) {t₂ : FileTree}
    (hworking : t₂.working = t.working) {l : List String} {content content' : ByteArray} {readOnly : Bool}
    (hitem : t.itemAt? l = some (.file content true)) :
    t₂.walk f.path ≠ .ok (.found l (.file content' readOnly)) := by
  intro hfound
  have hadded := (directoriesMade_prepareAll h).onlyDirectoriesAdded
  obtain ⟨hready, hfree⟩ := prepareAll_protects hw h hf
  exact hfree l content
    (walk_of_directory (hworking.trans hadded.working.symm) hfound hready ((hadded.files l content true).2 hitem))

/-- A batch fails before any of its files is put in place, or it has been prepared. -/
theorem BatchEnd.failed_or_prepared {r : Except OutputError (List Path)} {k : Nat}
    (h : BatchEnd w files t r t₁ k t') :
    (∃ e, r = .error e) ∧ k = 0 ∨ runOn t (w.prepareAll files) = (.ok (), t₁) := by
  cases h with
  | duplicate => exact .inl ⟨⟨_, rfl⟩, rfl⟩
  | unprepared => exact .inl ⟨⟨_, rfl⟩, rfl⟩
  | unstaged => exact .inl ⟨⟨_, rfl⟩, rfl⟩
  | unplaced _ hprepare => exact .inr hprepare
  | done _ hprepare => exact .inr hprepare

/-! ### Every batch -/

/-- **Files without write permission are left alone.**  Whatever the tree, the batch and the way it ends, a
file without write permission is still there when a writer that respects permissions has written the batch,
with its content and without write permission. And if a path of the batch leads to such a file, in the tree
as it is or with directories added to it, as some spellings need, then the batch fails and no file is
replaced or added. -/
theorem readOnly_files_kept (hw : w.respectReadOnly = true) (files : List PendingFile) (t : FileTree) :
    ∃ r t', runOn t (w.writeAll files) = (r, t') ∧
      (∀ l content, t.itemAt? l = some (.file content true) →
        t'.itemAt? l = some (.file content true)) ∧
      ∀ f ∈ files, ∀ t₂, t.OnlyDirectoriesAdded t₂ → ∀ l content,
        t₂.walk f.path = .ok (.found l (.file content true)) →
          (∃ e, r = .error e) ∧ t.OnlyDirectoriesAdded t' := by
  rcases h : runOn t (w.writeAll files) with ⟨r, t'⟩
  obtain ⟨t₁, k, hend⟩ := writeAll_batchEnd h
  refine ⟨r, t', rfl, ?_, ?_⟩
  · intro l content hitem
    refine (hend.itemAt?_file ?_).2 hitem
    intro f hf htarget
    rcases hend.failed_or_prepared with ⟨-, rfl⟩ | hprepare
    · rw [List.take_zero] at hf
      cases hf
    · -- the file is still there as a file, so the path would lead to it
      obtain ⟨content', readOnly', hfile⟩ := hend.grows.root.file l content true hitem
      have hfound := target_of_grows htarget (.refl t') hfile
      exact prepareAll_ne_place hw hprepare (List.mem_of_mem_take hf) hend.grows.working hitem hfound
  · intro f hf t₂ hadded l content hfound
    have hitem : t₂.itemAt? l = some (.file content true) :=
      Entry.itemAt?_eq_file.2 (walkFrom_found (walkSegments_eq_ok.1 hfound).2)
    rw [hadded.files] at hitem
    rcases hend.failed_or_prepared with ⟨hfail, rfl⟩ | hprepare
    · exact ⟨hfail, hend.onlyDirectoriesAdded⟩
    · exact absurd hfound (prepareAll_ne_place hw hprepare hf hadded.working hitem)

/-- A directory with one file, which has no write permission. -/
def lockedTree : FileTree :=
  ⟨.directory [("kept.txt", .file .empty true)], [], []⟩

/-- The file cannot be reached through a directory that the batch itself makes. -/
theorem readOnly_files_kept_detour :
    ∃ e t', runOn lockedTree ((⟨true⟩ : Writer).writeAll
        [⟨⟨"first.txt"⟩, "1"⟩, ⟨⟨"made/../kept.txt"⟩, "2"⟩]) = (.error e, t') ∧
      t'.itemAt? ["kept.txt"] = some (.file .empty true) ∧ lockedTree.OnlyDirectoriesAdded t' := by
  have hadded : lockedTree.OnlyDirectoriesAdded (lockedTree.put ["made"] (.directory [])) :=
    onlyDirectoriesAdded_makeDirectory (p := ⟨"made"⟩) rfl
  obtain ⟨r, t', h, hkept, hfails⟩ := readOnly_files_kept (w := ⟨true⟩) rfl
    [⟨⟨"first.txt"⟩, "1"⟩, ⟨⟨"made/../kept.txt"⟩, "2"⟩] lockedTree
  obtain ⟨⟨e, rfl⟩, honly⟩ := hfails ⟨⟨"made/../kept.txt"⟩, "2"⟩ (by simp) _ hadded ["kept.txt"] .empty rfl
  exact ⟨e, t', h, hkept ["kept.txt"] .empty rfl, honly⟩

end Writer

end Faceting
