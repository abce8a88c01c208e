import Faceting.Proofs.Writer.Batch

/-!
# What is in the files that were written

Files that are written one after the other may be meant for the same place, under paths that are spelled
differently. The last of them is the one that stays (`FileTree.lastAt?`).

* `FileTree.Written` says of two trees that the second has all files of a list in place: at each place
  the last file of the list that was meant for it, and everywhere else what was there.
* Writing a batch is such a change (`Writer.written_writeAll`), and so are two of them in a row
  (`FileTree.Written.append`).
* What is then read at a path is told by `FileTree.Written.read_of_mem` for paths of the list, and by
  `FileTree.Written.read` for paths at which something could be read before: the last file for the place
  of the path, or what was read before (`FileTree.replaced`).
-/

namespace Faceting

namespace FileTree

/-! ### The last file for a place -/

/-- The last file of a list whose path leads to a location. -/
def lastAt? (t : FileTree) (files : List PendingFile) (l : List String) : Option PendingFile :=
  files.reverse.find? fun f => decide (t.target f.path = .ok l)

section
variable {t t' : FileTree} {files later : List PendingFile} {f : PendingFile} {l : List String}

theorem lastAt?_append :
    t.lastAt? (files ++ later) l = (t.lastAt? later l).or (t.lastAt? files l) := by
  rw [lastAt?, List.reverse_append, List.find?_append]
  rfl

theorem lastAt?_singleton : t.lastAt? [f] l = if t.target f.path = .ok l then some f else none := by
  by_cases h : t.target f.path = .ok l <;> simp [lastAt?, h]

theorem lastAt?_eq_none : t.lastAt? files l = none ↔ ∀ f ∈ files, t.target f.path ≠ .ok l := by
  simp [lastAt?]

theorem lastAt?_eq_some (h : t.lastAt? files l = some f) : f ∈ files ∧ t.target f.path = .ok l :=
  ⟨List.mem_reverse.1 (List.mem_of_find?_eq_some h), by simpa using List.find?_some h⟩

/-- A file that has a place for itself is the last one there. -/
theorem lastAt?_of_unique (hf : f ∈ files) (hl : t.target f.path = .ok l)
    (hunique : ∀ g ∈ files, t.target g.path = .ok l → g = f) : t.lastAt? files l = some f := by
  cases hlast : t.lastAt? files l with
  | none => exact absurd hl (lastAt?_eq_none.1 hlast f hf)
  | some g =>
    obtain ⟨hg, hgl⟩ := lastAt?_eq_some hlast
    rw [hunique g hg hgl]

/-- Only the places of the paths of the list matter. -/
theorem lastAt?_congr (h : ∀ f ∈ files, t'.target f.path = t.target f.path) :
    t'.lastAt? files l = t.lastAt? files l := by
  unfold lastAt?
  rw [← List.head?_filter, ← List.head?_filter]
  refine congrArg List.head? (List.filter_congr fun f hf => ?_)
  rw [h f (List.mem_reverse.1 hf)]

end

/-- What is at the place of a path when files have been put in place, if it was `content` before: the
last file for the place, or what was there. -/
def replaced (t : FileTree) (files : List PendingFile) (p : Path) (content : ByteArray) : ByteArray :=
  match t.target p with
  | .ok l => (t.lastAt? files l).elim content fun f => f.content.toUTF8
  | .error _ => content

section
variable {t t' : FileTree} {files : List PendingFile} {p : Path} {content : ByteArray}

theorem replaced_of_target {l : List String} (hp : t.target p = .ok l) :
    t.replaced files p content = (t.lastAt? files l).elim content fun f => f.content.toUTF8 := by
  rw [replaced, hp]

/-- What is not at the place of one of the files stays. -/
theorem replaced_of_ne (h : ∀ f ∈ files, t.target f.path ≠ t.target p) :
    t.replaced files p content = content := by
  cases hp : t.target p with
  | error e => simp only [replaced, hp]
  | ok l =>
    rw [hp] at h
    rw [replaced_of_target hp, lastAt?_eq_none.2 h]
    rfl

theorem replaced_singleton {f : PendingFile} {l : List String} (hp : t.target p = .ok l) :
    t.replaced [f] p content
      = if t.target f.path = t.target p then f.content.toUTF8 else content := by
  rw [replaced_of_target hp, lastAt?_singleton, hp]
  split <;> rfl

/-- Only the places of the paths matter. -/
theorem replaced_congr (hfiles : ∀ f ∈ files, t'.target f.path = t.target f.path)
    (hp : t'.target p = t.target p) : t'.replaced files p content = t.replaced files p content := by
  cases hl : t.target p with
  | error e => simp only [replaced, hp, hl]
  | ok l => rw [replaced_of_target hl, replaced_of_target (hp.trans hl), lastAt?_congr hfiles]

end

/-! ### Files in place -/

/-- Where there is a file at the place of a path, the path leads to it for as long as the tree grows. -/
theorem Grows.target {t t' : FileTree} (h : t.Grows t') {p : Path} {l : List String}
    {content : ByteArray} {readOnly : Bool} (htarget : t.target p = .ok l)
    (hl : t.itemAt? l = some (.file content readOnly)) : t'.target p = .ok l := by
  obtain ⟨content', readOnly', hl'⟩ := h.root.file l content readOnly hl
  rw [FileTree.target, target_of_grows htarget h hl']

/-- What stands at the place of a path is the entry there. -/
theorem entry_of_target {t : FileTree} {p : Path} {l : List String} {content : ByteArray}
    {readOnly : Bool} (htarget : t.target p = .ok l)
    (hl : t.itemAt? l = some (.file content readOnly)) : t.entry p = .ok (.file content readOnly) := by
  rw [entry, target_of_grows htarget (.refl t) hl]

theorem read_of_entry {t : FileTree} {p : Path} {content : ByteArray} {readOnly : Bool}
    (h : t.entry p = .ok (.file content readOnly)) : t.read p = .ok content := by
  rw [read, h]

/-- What stands at the place of a path is what is read there. -/
theorem read_of_target {t : FileTree} {p : Path} {l : List String} {content : ByteArray}
    {readOnly : Bool} (htarget : t.target p = .ok l)
    (hl : t.itemAt? l = some (.file content readOnly)) : t.read p = .ok content :=
  read_of_entry (entry_of_target htarget hl)

/-- What can be read at a path stands at its place. -/
theorem target_of_read {t : FileTree} {p : Path} {content : ByteArray} (h : t.read p = .ok content) :
    ∃ l readOnly, t.target p = .ok l ∧ t.itemAt? l = some (.file content readOnly) := by
  obtain ⟨l, readOnly, hwalk⟩ := read_eq_ok.1 h
  have hat := walkFrom_found (walkSegments_eq_ok.1 hwalk).2
  exact ⟨l, readOnly, by rw [target, hwalk], by simp [itemAt?, Entry.itemAt?, hat, Entry.item]⟩

/-- Where something can be read, the path leads to the same place for as long as the tree grows. -/
theorem Grows.target_of_read {t t' : FileTree} (h : t.Grows t') {p : Path} {content : ByteArray}
    (hread : t.read p = .ok content) : t'.target p = t.target p := by
  obtain ⟨l, readOnly, htarget, hl⟩ := FileTree.target_of_read hread
  rw [htarget, h.target htarget hl]

/-- The second tree is the first with the files of a list put in place, in order; directories may have
been added. -/
structure Written (files : List PendingFile) (t t' : FileTree) : Prop where
  grows : t.Grows t'
  placed : ∀ f ∈ files, ∃ l content readOnly,
    t'.target f.path = .ok l ∧ t'.itemAt? l = some (.file content readOnly)
  file : ∀ l content readOnly, t'.itemAt? l = some (.file content readOnly) ↔
    match t'.lastAt? files l with
    | some f => content = f.content.toUTF8 ∧ readOnly = false
    | none => t.itemAt? l = some (.file content readOnly)

namespace Written

variable {files later : List PendingFile} {t t₁ t' : FileTree}

theorem of_onlyDirectoriesAdded (h : t.OnlyDirectoriesAdded t') : Written [] t t' where
  grows := h.grows
  placed f hf := by cases hf
  file := h.files

theorem singleton {f : PendingFile} {l : List String} (h : t.target f.path = .ok l) :
    Written [f] t (t.put l (.file f.content.toUTF8 false)) := by
  have hgrows := grows_put_target h f.content.toUTF8 false
  have hitem := itemAt?_put_target h f.content.toUTF8 false
  have htarget : (t.put l (.file f.content.toUTF8 false)).target f.path = .ok l := by
    rw [target, target_of_grows h hgrows ((hitem l).trans (if_pos rfl))]
  refine ⟨hgrows, fun g hg => ?_, fun m content readOnly => ?_⟩
  · obtain rfl := List.mem_singleton.1 hg
    exact ⟨l, _, _, htarget, (hitem l).trans (if_pos rfl)⟩
  · rw [hitem m, lastAt?_singleton, htarget]
    by_cases hml : m = l
    · simp [hml, eq_comm]
    · simp [hml, Ne.symm hml]

/-- Where a file was put in place, its path leads there for as long as the tree grows. -/
theorem target_of_mem (h : Written files t t₁) (hgrows : t₁.Grows t') {f : PendingFile}
    (hf : f ∈ files) : t'.target f.path = t₁.target f.path := by
  obtain ⟨l, content, readOnly, htarget, hl⟩ := h.placed f hf
  rw [htarget, hgrows.target htarget hl]

/-- Files can be put in place in two goes. -/
theorem append (h : Written files t t₁) (h' : Written later t₁ t') : Written (files ++ later) t t' := by
  refine ⟨h.grows.trans h'.grows, fun f hf => ?_, fun l content readOnly => ?_⟩
  · rcases List.mem_append.1 hf with hf | hf
    · obtain ⟨l, content, readOnly, htarget, hl⟩ := h.placed f hf
      obtain ⟨content', readOnly', hl'⟩ := h'.grows.root.file l content readOnly hl
      exact ⟨l, content', readOnly', h'.grows.target htarget hl, hl'⟩
    · exact h'.placed f hf
  · -- what is written later does not change where the paths of the earlier files lead
    rw [h'.file, lastAt?_append, lastAt?_congr fun f hf => h.target_of_mem h'.grows hf]
    cases t'.lastAt? later l with
    | some f => rfl
    | none => exact h.file l content readOnly

theorem of_placed (h : Placed files t t') : Written files t t' := by
  induction h with
  | nil t => exact .of_onlyDirectoriesAdded (.refl t)
  | cons htarget _ ih => exact (singleton htarget).append ih

/-- Where none of the files was put, files are what they were. -/
theorem file_of_ne (h : Written files t t') {l : List String} {content : ByteArray} {readOnly : Bool}
    (hl : ∀ f ∈ files, t'.target f.path ≠ .ok l) :
    t'.itemAt? l = some (.file content readOnly) ↔ t.itemAt? l = some (.file content readOnly) := by
  rw [h.file, lastAt?_eq_none.2 hl]

/-! ### Reading -/

/-- At the path of a file there is the last file for its place, and it can be written. -/
theorem entry_of_mem (h : Written files t t') {f : PendingFile} (hf : f ∈ files) :
    ∃ l g, t'.target f.path = .ok l ∧ t'.lastAt? files l = some g ∧
      t'.entry f.path = .ok (.file g.content.toUTF8 false) := by
  obtain ⟨l, content, readOnly, htarget, hl⟩ := h.placed f hf
  cases hlast : t'.lastAt? files l with
  | none => exact absurd htarget (lastAt?_eq_none.1 hlast f hf)
  | some g =>
    have hcontent := (h.file l content readOnly).1 hl
    rw [hlast] at hcontent
    rw [hcontent.1, hcontent.2] at hl
    exact ⟨l, g, htarget, hlast, entry_of_target htarget hl⟩

/-- At the path of a file the last file for its place is read. -/
theorem read_of_mem (h : Written files t t') {f : PendingFile} (hf : f ∈ files) :
    ∃ l g, t'.target f.path = .ok l ∧ t'.lastAt? files l = some g ∧
      t'.read f.path = .ok g.content.toUTF8 := by
  obtain ⟨l, g, htarget, hlast, hentry⟩ := h.entry_of_mem hf
  exact ⟨l, g, htarget, hlast, read_of_entry hentry⟩

theorem read_singleton {f : PendingFile} (h : Written [f] t t') :
    t'.read f.path = .ok f.content.toUTF8 := by
  obtain ⟨l, g, -, hlast, hread⟩ := h.read_of_mem List.mem_cons_self
  obtain rfl := List.mem_singleton.1 (lastAt?_eq_some hlast).1
  exact hread

/-- At a path at which something could be read, the last file for its place is read, or what was read
before. -/
theorem read (h : Written files t t') {p : Path} {content : ByteArray} (hread : t.read p = .ok content) :
    t'.read p = .ok (t'.replaced files p content) := by
  obtain ⟨l, readOnly, htarget, hl⟩ := target_of_read hread
  have htarget' := h.grows.target htarget hl
  rw [replaced_of_target htarget']
  cases hlast : t'.lastAt? files l with
  | none =>
    have hl' : t'.itemAt? l = some (.file content readOnly) := by
      rw [h.file, hlast]
      exact hl
    exact read_of_target htarget' hl'
  | some f =>
    have hl' : t'.itemAt? l = some (.file f.content.toUTF8 false) := by
      rw [h.file, hlast]
      exact ⟨rfl, rfl⟩
    exact read_of_target htarget' hl'

/-- What is read between two goes can be told from the places in the end. -/
theorem read_of_grows (h : Written files t t₁) (hgrows : t₁.Grows t') {p : Path} {content : ByteArray}
    (hread : t.read p = .ok content) : t₁.read p = .ok (t'.replaced files p content) := by
  have hread₁ := h.read hread
  rw [hread₁, replaced_congr (fun f hf => h.target_of_mem hgrows hf) (hgrows.target_of_read hread₁)]

end Written

end FileTree

open FileTree

/-- A batch that is done has its files in place. -/
theorem Writer.written_writeAll {w : Writer} {files : List PendingFile} {t t' : FileTree}
    {paths : List Path} (h : runOn t (w.writeAll files) = (.ok paths, t')) : Written files t t' := by
  obtain ⟨t₁, k, hend⟩ := writeAll_batchEnd h
  have hplaced := hend.placed
  rw [hend.eq_of_ok.1, List.take_length] at hplaced
  exact (Written.of_onlyDirectoriesAdded hend.directoriesMade.onlyDirectoriesAdded).append
    (.of_placed hplaced)

end Faceting
