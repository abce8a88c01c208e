import Faceting.Proofs.Files.Walk
import Faceting.Proofs.Path

/-!
# What the operations on a file tree do

Each operation is described by what it leaves at every location.

* `FileTree.OnlyDirectoriesAdded` relates a tree to one with the same files and perhaps more
  directories. Making a directory is such a change (`FileTree.onlyDirectoriesAdded_makeDirectory`), and
  the path then leads to a directory (`FileTree.leads_makeDirectory`).
* `FileTree.target_place` says where a file can be put, and `FileTree.itemAt?_put_target` what is seen
  after it has been put there.
-/

namespace Faceting.FileTree

/-! ### Looking at a tree -/

/-- The item at a location. -/
def itemAt? (t : FileTree) (l : List String) : Option Item :=
  t.root.itemAt? l

/-- Whether paths can be walked at all: there is no zero character, the path is not empty, and it
starts at a directory. -/
structure Walkable (t : FileTree) (p : Path) : Prop where
  noZero : p.text.toList.contains '\x00' = false
  nonempty : p.text ≠ ""
  origin : t.root.isDirectoryAt (t.origin p) = true

theorem walkSegments_of_walkable {t : FileTree} {p : Path} (h : t.Walkable p) (segments : List String) :
    t.walkSegments p segments = walkFrom t.root (t.origin p) segments := by
  unfold walkSegments
  rw [if_neg (by simp only [h.noZero]; decide), if_neg h.nonempty, if_pos h.origin]

theorem walkSegments_eq_ok {t : FileTree} {p : Path} {segments : List String} {place : Place} :
    t.walkSegments p segments = .ok place ↔
      t.Walkable p ∧ walkFrom t.root (t.origin p) segments = .ok place := by
  constructor
  · intro h
    have hw : t.Walkable p := by
      unfold walkSegments at h
      split at h
      · cases h
      split at h
      · cases h
      split at h
      · rename_i hzero hempty horigin
        exact ⟨by simpa using hzero, hempty, horigin⟩
      · cases h
    rw [walkSegments_of_walkable hw] at h
    exact ⟨hw, h⟩
  · rintro ⟨hw, h⟩
    rw [walkSegments_of_walkable hw, h]

/-- The path leads to a directory at a location. -/
def Leads (t : FileTree) (p : Path) (m : List String) : Prop :=
  t.Walkable p ∧ LeadsTo t.root (t.origin p) p.segments m

theorem leads_iff_walk {t : FileTree} {p : Path} {m : List String} :
    t.Leads p m ↔ ∃ entries, t.walk p = .ok (.found m (.directory entries)) := by
  simp only [Leads, LeadsTo, walk, walkSegments_eq_ok, exists_and_left]

theorem stat_eq_directory {t : FileTree} {p : Path} :
    t.stat p = .ok .directory ↔ ∃ m, t.Leads p m := by
  simp only [leads_iff_walk]
  unfold stat entry
  cases h : t.walk p with
  | error e => simp [Except.map]
  | ok place =>
    cases place with
    | vacant l slash => simp [Except.map]
    | found l e => cases e <;> simp [Except.map, Entry.stat]

theorem read_eq_ok {t : FileTree} {p : Path} {content : ByteArray} :
    t.read p = .ok content ↔ ∃ l readOnly, t.walk p = .ok (.found l (.file content readOnly)) := by
  unfold read entry
  cases h : t.walk p with
  | error e => simp
  | ok place =>
    cases place with
    | vacant l slash => simp
    | found l e => cases e <;> simp

/-! ### Changes of a tree -/

/-- The tree grows, and paths still start where they did. -/
structure Grows (t t' : FileTree) : Prop where
  root : t.root.Grows t'.root
  working : t'.working = t.working

theorem Grows.refl (t : FileTree) : t.Grows t :=
  ⟨.refl _, rfl⟩

theorem Grows.of_eq {t t' : FileTree} (hroot : t'.root = t.root) (hworking : t'.working = t.working) :
    t.Grows t' :=
  ⟨hroot ▸ .refl _, hworking⟩

theorem Grows.trans {t₁ t₂ t₃ : FileTree} (h₁ : t₁.Grows t₂) (h₂ : t₂.Grows t₃) : t₁.Grows t₃ :=
  ⟨h₁.root.trans h₂.root, h₂.working.trans h₁.working⟩

theorem Grows.origin {t t' : FileTree} (h : t.Grows t') (p : Path) : t'.origin p = t.origin p := by
  simp only [FileTree.origin, h.working]

theorem Grows.walkable {t t' : FileTree} (h : t.Grows t') {p : Path} (hp : t.Walkable p) :
    t'.Walkable p :=
  ⟨hp.noZero, hp.nonempty, by rw [h.origin]; exact h.root.isDirectoryAt hp.origin⟩

theorem Grows.leads {t t' : FileTree} (h : t.Grows t') {p : Path} {m : List String}
    (hp : t.Leads p m) : t'.Leads p m :=
  ⟨h.walkable hp.1, by rw [h.origin]; exact hp.2.of_grows h.root⟩

/-- **What could be read can still be read when the tree has grown.** -/
theorem Grows.read {t t' : FileTree} (h : t.Grows t') {p : Path} {content : ByteArray}
    (hread : t.read p = .ok content) : ∃ content', t'.read p = .ok content' := by
  obtain ⟨l, readOnly, hwalk⟩ := read_eq_ok.1 hread
  obtain ⟨hp, hfound⟩ := walkSegments_eq_ok.1 hwalk
  obtain ⟨e', hfound', hkind⟩ := walkFrom_found_of_grows h.root hfound
  cases e' with
  | directory entries => cases hkind
  | file content' readOnly' =>
    refine ⟨content', read_eq_ok.2 ⟨l, readOnly', walkSegments_eq_ok.2 ⟨h.walkable hp, ?_⟩⟩⟩
    rw [h.origin]
    exact hfound'

/-- The same files, with the same content and permission, and perhaps more directories. -/
structure OnlyDirectoriesAdded (t t' : FileTree) : Prop where
  files : ∀ l content readOnly,
    t'.itemAt? l = some (.file content readOnly) ↔ t.itemAt? l = some (.file content readOnly)
  directories : ∀ l, t.itemAt? l = some .directory → t'.itemAt? l = some .directory
  working : t'.working = t.working
  staged : t'.staged = t.staged

theorem OnlyDirectoriesAdded.refl (t : FileTree) : t.OnlyDirectoriesAdded t :=
  ⟨fun _ _ _ => Iff.rfl, fun _ h => h, rfl, rfl⟩

theorem OnlyDirectoriesAdded.trans {t₁ t₂ t₃ : FileTree} (h₁ : t₁.OnlyDirectoriesAdded t₂)
    (h₂ : t₂.OnlyDirectoriesAdded t₃) : t₁.OnlyDirectoriesAdded t₃ where
  files l content readOnly := (h₂.files l content readOnly).trans (h₁.files l content readOnly)
  directories l h := h₂.directories l (h₁.directories l h)
  working := h₂.working.trans h₁.working
  staged := h₂.staged.trans h₁.staged

theorem OnlyDirectoriesAdded.grows {t t' : FileTree} (h : t.OnlyDirectoriesAdded t') : t.Grows t' where
  root := ⟨h.directories, fun l content readOnly hl => ⟨content, readOnly, (h.files l _ _).2 hl⟩⟩
  working := h.working

/-! ### Making a directory -/

theorem makeDirectory_eq_ok {t t' : FileTree} {p : Path} (h : t.makeDirectory p = (.ok (), t')) :
    ∃ m slash, t.walkSegments p (Path.dropTrailing (· == "") p.segments) = .ok (.vacant m slash) ∧
      t' = t.put m (.directory []) := by
  unfold makeDirectory at h
  split at h
  · rename_i m slash hwalk
    exact ⟨m, slash, hwalk, (Prod.mk.inj h).2.symm⟩
  · cases h
  · cases h

theorem makeDirectory_eq_error {t t' : FileTree} {p : Path} {e : FileError}
    (h : t.makeDirectory p = (.error e, t')) : t' = t := by
  unfold makeDirectory at h
  split at h <;> cases h <;> rfl

/-- A new directory is seen at a location that was free, and nothing else has changed. -/
theorem itemAt?_makeDirectory {t t' : FileTree} {p : Path} (h : t.makeDirectory p = (.ok (), t')) :
    ∃ m slash, t.walkSegments p (Path.dropTrailing (· == "") p.segments) = .ok (.vacant m slash) ∧
      t.itemAt? m = none ∧
      ∀ l, t'.itemAt? l = if l = m then some .directory else t.itemAt? l := by
  obtain ⟨m, slash, hwalk, rfl⟩ := makeDirectory_eq_ok h
  obtain ⟨hp, hvacant⟩ := walkSegments_eq_ok.1 hwalk
  obtain ⟨hnone, parent, name, rfl, hparent⟩ := walkFrom_vacant hp.origin hvacant
  refine ⟨_, slash, hwalk, by simp [itemAt?, Entry.itemAt?, hnone], fun l => ?_⟩
  exact Entry.itemAt?_put_directory hparent hnone l

theorem onlyDirectoriesAdded_makeDirectory {t t' : FileTree} {p : Path}
    (h : t.makeDirectory p = (.ok (), t')) : t.OnlyDirectoriesAdded t' := by
  obtain ⟨m, slash, -, hfree, hitem⟩ := itemAt?_makeDirectory h
  obtain ⟨_, _, -, rfl⟩ := makeDirectory_eq_ok h
  refine ⟨fun l content readOnly => ?_, fun l hl => ?_, rfl, rfl⟩
  · rw [hitem l]
    by_cases hlm : l = m
    · simp [hlm, hfree]
    · simp [hlm]
  · rw [hitem l, hl]
    simp

/-- Slashes at the end do not matter on the way to a directory. -/
theorem leadsTo_dropTrailing {root : Entry} {l m segments : List String} :
    LeadsTo root l (Path.dropTrailing (· == "") segments) m ↔ LeadsTo root l segments m := by
  rw [← leadsTo_filter, Path.filter_dropTrailing, leadsTo_filter]
  intro x hx
  simp_all [Path.isIdle]

/-- The path of a new directory leads to it. -/
theorem leads_makeDirectory {t t' : FileTree} {p : Path} (h : t.makeDirectory p = (.ok (), t')) :
    ∃ m, t'.Leads p m := by
  have hgrows := (onlyDirectoriesAdded_makeDirectory h).grows
  obtain ⟨m, slash, hwalk, -, hitem⟩ := itemAt?_makeDirectory h
  obtain ⟨hp, hvacant⟩ := walkSegments_eq_ok.1 hwalk
  have hm : t'.root.isDirectoryAt m = true := by
    rw [Entry.isDirectoryAt_iff_itemAt?]
    simpa [itemAt?] using hitem m
  refine ⟨m, hgrows.walkable hp, ?_⟩
  rw [hgrows.origin, ← leadsTo_dropTrailing]
  exact leadsTo_of_vacant hgrows.root hm hvacant

/-- Where there is a directory already, none is made. -/
theorem makeDirectory_of_leads {t : FileTree} {p : Path} {m : List String} (h : t.Leads p m) :
    t.makeDirectory p = (.error .alreadyExists, t) := by
  obtain ⟨entries, hwalk⟩ := leadsTo_dropTrailing.2 h.2
  unfold makeDirectory
  rw [walkSegments_of_walkable h.1, hwalk]

/-! ### Putting a file in place -/

/-- A file is put below a directory, and not in place of one. -/
theorem target_place {t : FileTree} {p : Path} {l : List String} (h : t.target p = .ok l) :
    t.root.isDirectoryAt l = false ∧
      ∃ parent name, l = parent ++ [name] ∧ t.root.isDirectoryAt parent = true := by
  unfold target at h
  split at h
  · rename_i l' content readOnly hwalk
    cases h
    obtain ⟨hp, hfound⟩ := walkSegments_eq_ok.1 hwalk
    have hat := walkFrom_found hfound
    refine ⟨by simp [Entry.isDirectoryAt, hat, Entry.isDirectory], ?_⟩
    rcases List.eq_nil_or_concat l with rfl | ⟨parent, name, rfl⟩
    · -- the root is a directory, because the walk starts at one
      have hroot : t.root.isDirectoryAt [] = true := Entry.isDirectoryAt_of_append hp.origin
      simp [Entry.isDirectoryAt, hat, Entry.isDirectory] at hroot
    · rw [List.concat_eq_append] at hat ⊢
      exact ⟨parent, name, rfl, Entry.isDirectoryAt_of_at?_append hat⟩
  · cases h
  · rename_i l' hwalk
    cases h
    obtain ⟨hp, hvacant⟩ := walkSegments_eq_ok.1 hwalk
    obtain ⟨hnone, hparent⟩ := walkFrom_vacant hp.origin hvacant
    exact ⟨by simp [Entry.isDirectoryAt, hnone], hparent⟩
  · cases h
  · cases h

/-- **A file that is put in place is seen there, and nothing else has changed.** -/
theorem itemAt?_put_target {t : FileTree} {p : Path} {l : List String} (h : t.target p = .ok l)
    (content : ByteArray) (readOnly : Bool) (m : List String) :
    (t.put l (.file content readOnly)).itemAt? m
      = if m = l then some (.file content readOnly) else t.itemAt? m := by
  obtain ⟨hl, parent, name, rfl, hparent⟩ := target_place h
  exact Entry.itemAt?_put_file content readOnly hparent hl m

theorem itemAt?_target_ne_directory {t : FileTree} {p : Path} {l : List String}
    (h : t.target p = .ok l) : t.itemAt? l ≠ some .directory := by
  obtain ⟨hl, -⟩ := target_place h
  intro hdir
  rw [itemAt?, ← Entry.isDirectoryAt_iff_itemAt?, hl] at hdir
  contradiction

theorem grows_put_target {t : FileTree} {p : Path} {l : List String} (h : t.target p = .ok l)
    (content : ByteArray) (readOnly : Bool) : t.Grows (t.put l (.file content readOnly)) := by
  have hitem := itemAt?_put_target h content readOnly
  refine ⟨⟨fun m hm => ?_, fun m content' readOnly' hm => ?_⟩, rfl⟩
  · refine (hitem m).trans ?_
    rw [if_neg]
    · exact hm
    · rintro rfl
      exact itemAt?_target_ne_directory h hm
  · by_cases hml : m = l
    · exact ⟨content, readOnly, (hitem m).trans (if_pos hml)⟩
    · exact ⟨content', readOnly', (hitem m).trans ((if_neg hml).trans hm)⟩

/-- A path at which a file was put leads to a file there for as long as the tree grows. -/
theorem target_of_grows {t t' : FileTree} {p : Path} {l : List String} (h : t.target p = .ok l)
    (hgrows : t.Grows t') {content : ByteArray} {readOnly : Bool}
    (hl : t'.itemAt? l = some (.file content readOnly)) :
    t'.walk p = .ok (.found l (.file content readOnly)) := by
  have hat : t'.root.at? l = some (.file content readOnly) := Entry.itemAt?_eq_file.1 hl
  unfold target at h
  split at h
  · rename_i content' readOnly' hwalk
    cases h
    obtain ⟨hp, hfound⟩ := walkSegments_eq_ok.1 hwalk
    obtain ⟨e', hfound', -⟩ := walkFrom_found_of_grows hgrows.root hfound
    have he' := walkFrom_found hfound'
    rw [hat] at he'
    cases he'
    refine walkSegments_eq_ok.2 ⟨hgrows.walkable hp, ?_⟩
    rw [hgrows.origin]
    exact hfound'
  · cases h
  · rename_i hwalk
    cases h
    obtain ⟨hp, hvacant⟩ := walkSegments_eq_ok.1 hwalk
    refine walkSegments_eq_ok.2 ⟨hgrows.walkable hp, ?_⟩
    rw [hgrows.origin]
    exact walkFrom_found_of_vacant hgrows.root hat hvacant
  · cases h
  · cases h

end Faceting.FileTree
