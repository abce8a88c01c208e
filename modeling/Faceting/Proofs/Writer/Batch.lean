import Faceting.Proofs.Writer.Steps

/-!
# The effect of writing a batch

A batch ends in one of five ways (`Writer.BatchEnd`): two of its files have the same path, its
directories cannot be prepared, it cannot be staged, one of its files cannot be put in place, or all is
done. In each case the tree is the old one with directories added above the paths of the batch, and then
with the first files of the batch put at their paths (`Writer.writeAll_effect`).
-/

namespace Faceting.Writer

open FileTree

/-- How writing a batch ends: the result, the tree with the directories that were made, the number of
files that were put in place, and the tree in the end. -/
inductive BatchEnd (w : Writer) (files : List PendingFile) (t : FileTree) :
    Except OutputError (List Path) → FileTree → Nat → FileTree → Prop
  /-- Two files have the same path. -/
  | duplicate {p : Path} :
      repeated? [] (files.map PendingFile.path) = some p →
        BatchEnd w files t (.error (.duplicatePath p)) t 0 t
  /-- A directory cannot be made, or something stands in the way. -/
  | unprepared {t₁ : FileTree} {e : OutputError} :
      repeated? [] (files.map PendingFile.path) = none →
      runOn t (w.prepareAll files) = (.error e, t₁) →
        BatchEnd w files t (.error e) t₁ 0 t₁
  /-- A file cannot be staged. -/
  | unstaged {t₁ : FileTree} {e : OutputError} :
      repeated? [] (files.map PendingFile.path) = none →
      runOn t (w.prepareAll files) = (.ok (), t₁) →
      runOn t₁ (stageAll files) = (.error e, t₁) →
        BatchEnd w files t (.error e) t₁ 0 t₁
  /-- A file cannot be put in place; the files before it have been. -/
  | unplaced {t₁ t₂ t' : FileTree} {staged : List (Path × Staged)} {k : Nat} {f : PendingFile}
      {cause : FileError} :
      repeated? [] (files.map PendingFile.path) = none →
      runOn t (w.prepareAll files) = (.ok (), t₁) →
      runOn t₁ (stageAll files) = (.ok staged, t₂) →
      files[k]? = some f → Placed (files.take k) t₁ t' → t'.target f.path = .error cause →
        BatchEnd w files t (.error (.write f.path cause)) t₁ k t'
  /-- All files have been put in place. -/
  | done {t₁ t₂ t' : FileTree} {staged : List (Path × Staged)} :
      repeated? [] (files.map PendingFile.path) = none →
      runOn t (w.prepareAll files) = (.ok (), t₁) →
      runOn t₁ (stageAll files) = (.ok staged, t₂) → Placed files t₁ t' →
        BatchEnd w files t (.ok (files.map PendingFile.path)) t₁ files.length t'

namespace BatchEnd

variable {w : Writer} {files : List PendingFile} {t t₁ t' : FileTree} {k : Nat}
  {r : Except OutputError (List Path)}

theorem directoriesMade (h : BatchEnd w files t r t₁ k t') :
    DirectoriesMade (fun q => ∃ f ∈ files, q.Above f.path) t t₁ := by
  cases h with
  | duplicate => exact .refl t
  | unprepared _ hprepare => exact directoriesMade_prepareAll hprepare
  | unstaged _ hprepare => exact directoriesMade_prepareAll hprepare
  | unplaced _ hprepare => exact directoriesMade_prepareAll hprepare
  | done _ hprepare => exact directoriesMade_prepareAll hprepare

theorem placed (h : BatchEnd w files t r t₁ k t') : Placed (files.take k) t₁ t' := by
  cases h with
  | duplicate => exact .nil _
  | unprepared => exact .nil _
  | unstaged => exact .nil _
  | unplaced _ _ _ _ hplaced => exact hplaced
  | done _ _ _ hplaced =>
    rw [List.take_length]
    exact hplaced

theorem grows (h : BatchEnd w files t r t₁ k t') : t.Grows t' :=
  h.directoriesMade.grows.trans h.placed.grows

/-- No file is left staged. -/
theorem staged (h : BatchEnd w files t r t₁ k t') : t'.staged = t.staged :=
  h.placed.staged.trans h.directoriesMade.onlyDirectoriesAdded.staged

/-- A file at whose location nothing was put is what it was. -/
theorem itemAt?_file (h : BatchEnd w files t r t₁ k t') {l : List String} {content : ByteArray}
    {readOnly : Bool} (hl : ∀ f ∈ files.take k, t'.target f.path ≠ .ok l) :
    t'.itemAt? l = some (.file content readOnly) ↔ t.itemAt? l = some (.file content readOnly) := by
  rw [h.placed.itemAt?_of_ne hl]
  exact h.directoriesMade.onlyDirectoriesAdded.files l content readOnly

/-- Where no file was put in place, only directories were added. -/
theorem onlyDirectoriesAdded (h : BatchEnd w files t r t₁ 0 t') : t.OnlyDirectoriesAdded t' := by
  have hplaced := h.placed
  rw [List.take_zero] at hplaced
  cases hplaced
  exact h.directoriesMade.onlyDirectoriesAdded

theorem eq_of_ok {paths : List Path} (h : BatchEnd w files t (.ok paths) t₁ k t') :
    k = files.length ∧ paths = files.map PendingFile.path := by
  cases h
  exact ⟨rfl, rfl⟩

/-- Files have been put in place before a failure only if one of them cannot be, and then those before
it have. -/
theorem count_of_error {e : OutputError} (h : BatchEnd w files t (.error e) t₁ k t') :
    k = 0 ∨ ∃ f cause, files[k]? = some f ∧ t'.target f.path = .error cause ∧
      e = .write f.path cause := by
  cases h with
  | duplicate => exact .inl rfl
  | unprepared => exact .inl rfl
  | unstaged => exact .inl rfl
  | unplaced _ _ _ hk _ htarget => exact .inr ⟨_, _, hk, htarget, rfl⟩

/-- A batch that is prepared and staged is done, or fails at a file that cannot be put in place. -/
theorem done_or_unplaced (h : BatchEnd w files t r t₁ k t') {t₂ t₃ : FileTree}
    {staged : List (Path × Staged)} (hdistinct : repeated? [] (files.map PendingFile.path) = none)
    (hprepare : runOn t (w.prepareAll files) = (.ok (), t₂))
    (hstage : runOn t₂ (stageAll files) = (.ok staged, t₃)) :
    r = .ok (files.map PendingFile.path) ∧ Placed files t₂ t' ∨
      ∃ f cause, files[k]? = some f ∧ Placed (files.take k) t₂ t' ∧
        t'.target f.path = .error cause ∧ r = .error (.write f.path cause) := by
  cases h with
  | duplicate hrepeated =>
    rw [hdistinct] at hrepeated
    cases hrepeated
  | unprepared _ hfail =>
    rw [hprepare] at hfail
    cases hfail
  | unstaged _ hprepare' hfail =>
    rw [hprepare] at hprepare'
    cases hprepare'
    rw [hstage] at hfail
    cases hfail
  | unplaced _ hprepare' _ hk hplaced htarget =>
    rw [hprepare] at hprepare'
    cases hprepare'
    exact .inr ⟨_, _, hk, hplaced, htarget, rfl⟩
  | done _ hprepare' _ hplaced =>
    rw [hprepare] at hprepare'
    cases hprepare'
    exact .inl ⟨rfl, hplaced⟩

/-- A batch that was written has been prepared, staged and put in place. -/
theorem steps_of_ok {paths : List Path} (h : BatchEnd w files t (.ok paths) t₁ k t') :
    repeated? [] (files.map PendingFile.path) = none ∧
      paths = files.map PendingFile.path ∧ runOn t (w.prepareAll files) = (.ok (), t₁) ∧
      (∃ staged t₂, runOn t₁ (stageAll files) = (.ok staged, t₂)) ∧ Placed files t₁ t' := by
  cases h with
  | done hdistinct hprepare hstage hplaced =>
    exact ⟨hdistinct, rfl, hprepare, ⟨_, _, hstage⟩, hplaced⟩

theorem eq_of_duplicatePath {p : Path} (h : BatchEnd w files t (.error (.duplicatePath p)) t₁ k t') :
    t' = t := by
  cases h with
  | duplicate => rfl
  | unprepared _ hprepare => exact absurd hprepare (prepareAll_ne_duplicatePath p)
  | unstaged _ _ hstage =>
    obtain ⟨-, f, -, cause, he⟩ := stageAll_eq_error hstage
    cases he

end BatchEnd

/-- The end of a batch that was staged. -/
theorem batchEnd_of_staged {w : Writer} {files : List PendingFile} {t t₁ t₂ t' : FileTree}
    {staged : List (Path × Staged)} {r : Except OutputError Unit}
    (hdistinct : repeated? [] (files.map PendingFile.path) = none)
    (hprepare : runOn t (w.prepareAll files) = (.ok (), t₁))
    (hstage : runOn t₁ (stageAll files) = (.ok staged, t₂))
    (hcommit : runOn t₂ (commitAll staged) = (r, t')) :
    ∃ k, BatchEnd w files t (r.map fun _ => files.map PendingFile.path) t₁ k t' := by
  obtain ⟨hfiles, hroot, hworking, hleaves, -⟩ := stageAll_eq_ok hstage
  -- apart from what is staged, staging has left the tree alone
  have hsame : ({ t₂ with staged := t₁.staged } : FileTree) = t₁ := by
    obtain ⟨root, working, staged₁⟩ := t₁
    obtain ⟨root₂, working₂, staged₂⟩ := t₂
    cases hroot
    cases hworking
    rfl
  have hspec := commitAll_spec hleaves hcommit
  rw [hfiles, hsame] at hspec
  rcases hspec with ⟨rfl, hplaced⟩ | ⟨k, f, cause, hk, htarget, rfl, hplaced⟩
  · exact ⟨files.length, .done hdistinct hprepare hstage hplaced⟩
  · exact ⟨k, .unplaced hdistinct hprepare hstage hk hplaced htarget⟩

/-- Writing a batch ends in one of the ways described. -/
theorem writeAll_batchEnd {w : Writer} {files : List PendingFile} {t t' : FileTree}
    {r : Except OutputError (List Path)} (h : runOn t (w.writeAll files) = (r, t')) :
    ∃ t₁ k, BatchEnd w files t r t₁ k t' := by
  unfold writeAll at h
  cases hrepeated : repeated? [] (files.map PendingFile.path) with
  | some p =>
    simp only [hrepeated] at h
    cases h
    exact ⟨t, 0, .duplicate hrepeated⟩
  | none =>
    simp only [hrepeated] at h
    rw [runOn_bind] at h
    split at h
    · rename_i t₁ hprepare
      rw [runOn_bind] at h
      split at h
      · rename_i staged t₂ hstage
        rw [runOn_bind] at h
        split at h
        · rename_i t₃ hcommit
          cases h
          exact ⟨t₁, batchEnd_of_staged hrepeated hprepare hstage hcommit⟩
        · rename_i e t₃ hcommit
          cases h
          exact ⟨t₁, batchEnd_of_staged hrepeated hprepare hstage hcommit⟩
      · rename_i e t₂ hstage
        cases h
        obtain ⟨rfl, -⟩ := stageAll_eq_error hstage
        exact ⟨t', 0, .unstaged hrepeated hprepare hstage⟩
    · rename_i e t₁ hprepare
      cases h
      exact ⟨t', 0, .unprepared hrepeated hprepare⟩

/-- A batch is refused for a path if and only if the path is the first that is repeated. -/
theorem duplicatePath_iff {w : Writer} {files : List PendingFile} {t t' : FileTree}
    {r : Except OutputError (List Path)} (h : runOn t (w.writeAll files) = (r, t')) {p : Path} :
    r = .error (.duplicatePath p) ↔ repeated? [] (files.map PendingFile.path) = some p := by
  obtain ⟨t₁, k, hend⟩ := writeAll_batchEnd h
  cases hend with
  | duplicate hrepeated => simp [hrepeated]
  | unprepared hnone hprepare =>
    have hne : ∀ e, runOn t (w.prepareAll files) = (.error e, t') → e ≠ .duplicatePath p := by
      rintro _ hfail rfl
      exact prepareAll_ne_duplicatePath p hfail
    simp [hnone, hne _ hprepare]
  | unstaged hnone _ hstage =>
    obtain ⟨-, f, -, cause, rfl⟩ := stageAll_eq_error hstage
    simp [hnone]
  | unplaced hnone => simp [hnone]
  | done hnone => simp [hnone]

/-- **The effect of writing a batch.**  Whatever the batch and the tree, the tree in the end is the old
one with directories made above paths of the batch, and then with the first `k` files put at their paths,
in order. These are all files if all went well, none if a check or staging has failed, and the files
before the one that cannot be put in place otherwise; `BatchEnd` tells these cases apart. Nothing is left
staged, and every file that is not at the path of one of those `k` files is what it was. -/
theorem writeAll_effect (w : Writer) (files : List PendingFile) (t : FileTree) :
    ∃ r t' t₁ k, runOn t (w.writeAll files) = (r, t') ∧ BatchEnd w files t r t₁ k t' ∧
      DirectoriesMade (fun q => ∃ f ∈ files, q.Above f.path) t t₁ ∧ Placed (files.take k) t₁ t' ∧
      (∀ paths, r = .ok paths → k = files.length ∧ paths = files.map PendingFile.path) ∧
      (∀ e, r = .error e → k = 0 ∨ ∃ f cause, files[k]? = some f ∧
        t'.target f.path = .error cause ∧ e = .write f.path cause) ∧
      (∀ p, r = .error (.duplicatePath p) → t' = t) ∧
      t'.staged = t.staged ∧
      ∀ l content readOnly, (∀ f ∈ files.take k, t'.target f.path ≠ .ok l) →
        (t'.itemAt? l = some (.file content readOnly) ↔
          t.itemAt? l = some (.file content readOnly)) := by
  rcases h : runOn t (w.writeAll files) with ⟨r, t'⟩
  obtain ⟨t₁, k, hend⟩ := writeAll_batchEnd h
  refine ⟨r, t', t₁, k, rfl, hend, hend.directoriesMade, hend.placed, ?_, ?_, ?_, hend.staged,
    fun l content readOnly hl => hend.itemAt?_file hl⟩
  · rintro paths rfl
    exact hend.eq_of_ok
  · rintro e rfl
    exact hend.count_of_error
  · rintro p rfl
    exact hend.eq_of_duplicatePath

end Faceting.Writer
