import Faceting.Proofs.Files.Directories
import Faceting.Writer

/-!
# The steps of writing a batch

One law for each step of `Writer.writeAll`, told as what it gives and the tree that it leaves.

* A path is repeated unless the paths differ from each other (`Writer.repeated?_eq_none_iff`).
* Preparing makes directories above the paths of the batch and nothing else
  (`Writer.directoriesMade_prepareAll`).
* Staging gives a staged file for each file and leaves everything else alone; if it fails, the tree is
  what it was (`Writer.stageAll_eq_error`).
* Putting in place goes through the files in order, and stops at the first whose path has no place for
  a file (`Writer.commitAll_spec`). Either way no staged file is left.
-/

namespace Faceting

open FileTree

/-- Files are put at their paths, one after the other. -/
inductive FileTree.Placed : List PendingFile → FileTree → FileTree → Prop
  | nil (t : FileTree) : Placed [] t t
  | cons {f : PendingFile} {rest : List PendingFile} {t t' : FileTree} {l : List String} :
      t.target f.path = .ok l → Placed rest (t.put l (.file f.content.toUTF8 false)) t' →
        Placed (f :: rest) t t'

namespace FileTree.Placed

theorem staged {files : List PendingFile} {t t' : FileTree} (h : Placed files t t') :
    t'.staged = t.staged := by
  induction h with
  | nil => rfl
  | cons _ _ ih => exact ih

theorem grows {files : List PendingFile} {t t' : FileTree} (h : Placed files t t') : t.Grows t' := by
  induction h with
  | nil => exact .refl _
  | cons htarget _ ih => exact (grows_put_target htarget _ _).trans ih

/-- Directories neither come nor go. -/
theorem itemAt?_directory {files : List PendingFile} {t t' : FileTree} (h : Placed files t t')
    {l : List String} : t'.itemAt? l = some .directory ↔ t.itemAt? l = some .directory := by
  induction h with
  | nil => rfl
  | @cons f rest t t' m htarget _ ih =>
    rw [ih, itemAt?_put_target htarget]
    by_cases hlm : l = m
    · simp [hlm, itemAt?_target_ne_directory htarget]
    · rw [if_neg hlm]

/-- Where no file was put, everything is as it was. -/
theorem itemAt?_of_ne {files : List PendingFile} {t t' : FileTree} (h : Placed files t t')
    {l : List String} (hl : ∀ f ∈ files, t'.target f.path ≠ .ok l) : t'.itemAt? l = t.itemAt? l := by
  induction h with
  | nil => rfl
  | @cons f rest t t' m htarget hrest ih =>
    rw [ih fun g hg => hl g (List.mem_cons_of_mem f hg), itemAt?_put_target htarget]
    refine if_neg ?_
    rintro rfl
    -- the path of the first file still leads to the place where the file was put
    have hgrows := (grows_put_target htarget f.content.toUTF8 false).trans hrest.grows
    obtain ⟨content, readOnly, hfile⟩ := hrest.grows.root.file l _ _
      ((itemAt?_put_target htarget f.content.toUTF8 false l).trans (if_pos rfl))
    refine hl f List.mem_cons_self ?_
    unfold target
    rw [target_of_grows htarget hgrows hfile]

end FileTree.Placed

namespace Writer

/-! ### Comparing paths -/

/-- No path is repeated if and only if the paths differ from those seen before and from each other. -/
theorem repeated?_eq_none_iff {seen paths : List Path} :
    repeated? seen paths = none ↔
      (∀ p ∈ paths, ∀ q ∈ seen, q.same p = false) ∧ paths.Pairwise fun p q => p.same q = false := by
  induction paths generalizing seen with
  | nil => simp [repeated?]
  | cons p rest ih =>
    have hany : seen.any (·.same p) = true ↔ ¬∀ q ∈ seen, q.same p = false := by simp
    rw [repeated?]
    split
    · rename_i hseen
      have hne := hany.1 hseen
      simp only [reduceCtorEq, false_iff]
      exact fun hall => hne (hall.1 p List.mem_cons_self)
    · rename_i hseen
      have hfirst : ∀ q ∈ seen, q.same p = false := not_not.1 fun hne => hseen (hany.2 hne)
      rw [ih, List.pairwise_cons]
      constructor
      · intro h
        refine ⟨?_, fun q hq => h.1 q hq p List.mem_cons_self, h.2⟩
        intro q hq r hr
        rcases List.mem_cons.1 hq with rfl | hq
        · exact hfirst r hr
        · exact h.1 q hq r (List.mem_cons_of_mem p hr)
      · intro h
        obtain ⟨hold, hnew, hrest⟩ := h
        refine ⟨?_, hrest⟩
        intro q hq r hr
        rcases List.mem_cons.1 hr with rfl | hr
        · exact hnew q hq
        · exact hold q (List.mem_cons_of_mem p hq) r hr

/-! ### Preparing -/

theorem runOn_prepareDirectory (t : FileTree) (dir : Path) :
    runOn t (prepareDirectory dir) =
      if dir.text = "" then (.ok (), t)
      else match t.stat dir with
        | .ok (.file _) => (.error (.notADirectory dir), t)
        | _ => match (Files.createDirectories dir : FileM _) t with
          | (.ok (), t') => (.ok (), t')
          | (.error e, t') => (.error (.createDirectory dir e), t') := by
  unfold prepareDirectory
  split
  · rfl
  simp only [runOn_bind, runOn_lift, FileM.stat_apply]
  rcases t.stat dir with e | _ | readOnly
  · simp only [runOn_bind, runOn_lift]
    rcases (Files.createDirectories dir : FileM _) t with ⟨e | u, t'⟩ <;> rfl
  · simp only [runOn_bind, runOn_lift]
    rcases (Files.createDirectories dir : FileM _) t with ⟨e | u, t'⟩ <;> rfl
  · rfl

/-- Preparing a directory makes directories there and above, and afterwards, if all went well, there is
a directory. -/
theorem prepareDirectory_spec {t t' : FileTree} {dir : Path} {r : Except OutputError Unit}
    (h : runOn t (prepareDirectory dir) = (r, t')) :
    DirectoriesMade (fun q => q = dir ∨ q.Above dir) t t' ∧
      (r = .ok () → dir.text = "" ∨ ∃ m, t'.Leads dir m) := by
  rw [runOn_prepareDirectory] at h
  split at h
  · rename_i hempty
    cases h
    exact ⟨.refl t, fun _ => .inl hempty⟩
  rename_i hdir
  split at h
  · cases h
    exact ⟨.refl t, fun hok => by cases hok⟩
  split at h
  · rename_i t₁ hcreate
    cases h
    exact ⟨Files.directoriesMade_createDirectories hcreate,
      fun _ => .inr (Files.leads_createDirectories hcreate hdir)⟩
  · rename_i e t₁ hcreate
    cases h
    exact ⟨Files.directoriesMade_createDirectories hcreate, fun hok => by cases hok⟩

/-- A directory that is there needs no preparation. -/
theorem runOn_prepareDirectory_of_ready {t : FileTree} {dir : Path}
    (h : dir.text = "" ∨ ∃ m, t.Leads dir m) : runOn t (prepareDirectory dir) = (.ok (), t) := by
  rw [runOn_prepareDirectory]
  rcases h with hempty | ⟨m, hm⟩
  · rw [if_pos hempty]
  · rw [if_neg hm.1.nonempty, stat_eq_directory.2 ⟨m, hm⟩, Files.createDirectories_of_leads hm]

/-- The directories above a path are those of its parent, if it has one. -/
theorem above_of_directory {p q : Path} (hdir : p.directory.text ≠ "")
    (h : q = p.directory ∨ q.Above p.directory) : q.Above p := by
  unfold Path.directory at hdir h
  cases hparent : p.parent? with
  | none => simp [hparent] at hdir
  | some parent =>
    rw [hparent] at h
    rcases h with rfl | h
    · exact .parent hparent
    · exact h.trans (.parent hparent)

theorem directoriesMade_prepareDirectory {t t' : FileTree} {p : Path} {r : Except OutputError Unit}
    (h : runOn t (prepareDirectory p.directory) = (r, t')) : DirectoriesMade (·.Above p) t t' := by
  by_cases hdir : p.directory.text = ""
  · rw [runOn_prepareDirectory, if_pos hdir] at h
    cases h
    exact .refl t
  · exact (prepareDirectory_spec h).1.mono fun q hq => above_of_directory hdir hq

theorem runOn_checkTarget (w : Writer) (t : FileTree) (p : Path) :
    runOn t (w.checkTarget p) = match t.stat p with
      | .ok .directory => (.error (.write p .occupied), t)
      | .ok (.file true) => if w.respectReadOnly then (.error (.readOnly p), t) else (.ok (), t)
      | _ => (.ok (), t) := by
  unfold checkTarget
  simp only [runOn_bind, runOn_lift, FileM.stat_apply]
  rcases t.stat p with e | _ | _ | _
  · rfl
  · rfl
  · rfl
  · cases w.respectReadOnly <;> rfl

/-- Checking leaves the tree alone, and finds the directories that stand in the way. -/
theorem checkTarget_spec {w : Writer} {t t' : FileTree} {p : Path} {r : Except OutputError Unit}
    (h : runOn t (w.checkTarget p) = (r, t')) :
    t' = t ∧ (r = .ok () → t.stat p ≠ .ok .directory) := by
  rw [runOn_checkTarget] at h
  split at h
  · cases h
    exact ⟨rfl, fun hok => by cases hok⟩
  · rename_i hstat
    have hne : t.stat p ≠ .ok .directory := by simp [hstat]
    split at h <;> cases h <;> exact ⟨rfl, fun _ => hne⟩
  · rename_i hstat _
    cases h
    exact ⟨rfl, fun _ => hstat⟩

/-- **Preparing makes directories above the paths of the batch, and changes nothing else.** -/
theorem directoriesMade_prepareAll {w : Writer} {files : List PendingFile} {t t' : FileTree}
    {r : Except OutputError Unit} (h : runOn t (w.prepareAll files) = (r, t')) :
    DirectoriesMade (fun q => ∃ f ∈ files, q.Above f.path) t t' := by
  induction files generalizing t with
  | nil =>
    cases h
    exact .refl _
  | cons f rest ih =>
    have first {t₁ : FileTree} {r₁ : Except OutputError Unit}
        (hdir : runOn t (prepareDirectory f.path.directory) = (r₁, t₁)) :
        DirectoriesMade (fun q => ∃ g ∈ f :: rest, q.Above g.path) t t₁ :=
      (directoriesMade_prepareDirectory hdir).mono fun q hq => ⟨f, List.mem_cons_self, hq⟩
    rw [prepareAll, runOn_bind] at h
    split at h
    · rename_i t₁ hdir
      rw [runOn_bind] at h
      split at h
      · rename_i t₂ hcheck
        obtain ⟨rfl, -⟩ := checkTarget_spec hcheck
        refine (first hdir).trans ((ih h).mono ?_)
        rintro q ⟨g, hg, hq⟩
        exact ⟨g, List.mem_cons_of_mem f hg, hq⟩
      · rename_i e t₂ hcheck
        obtain ⟨rfl, -⟩ := checkTarget_spec hcheck
        cases h
        exact first hdir
    · rename_i e t₁ hdir
      cases h
      exact first hdir

/-- Where the directories are there already, preparing changes nothing and only looks for directories
that stand in the way. -/
theorem prepareAll_of_ready {w : Writer} {files : List PendingFile} {t t' : FileTree}
    (hready : ∀ f ∈ files, f.path.directory.text = "" ∨ ∃ m, t.Leads f.path.directory m)
    (h : runOn t (w.prepareAll files) = (.ok (), t')) :
    t' = t ∧ ∀ f ∈ files, t.stat f.path ≠ .ok .directory := by
  induction files with
  | nil =>
    cases h
    exact ⟨rfl, fun f hf => by cases hf⟩
  | cons f rest ih =>
    have hdir := runOn_prepareDirectory_of_ready (hready f List.mem_cons_self)
    rw [prepareAll, runOn_bind_of_ok hdir] at h
    obtain ⟨_, t₁, hcheck, hrest⟩ := runOn_bind_eq_ok h
    obtain ⟨rfl, hfree⟩ := checkTarget_spec hcheck
    obtain ⟨hsame, hothers⟩ := ih (fun g hg => hready g (List.mem_cons_of_mem f hg)) hrest
    refine ⟨hsame, fun g hg => ?_⟩
    rcases List.mem_cons.1 hg with rfl | hg
    · exact hfree rfl
    · exact hothers g hg

/-- Where the directories are there already and every path passes its check, preparing succeeds and
changes nothing. -/
theorem prepareAll_of_passed {w : Writer} {files : List PendingFile} {t : FileTree}
    (hready : ∀ f ∈ files, f.path.directory.text = "" ∨ ∃ m, t.Leads f.path.directory m)
    (hpassed : ∀ f ∈ files, runOn t (w.checkTarget f.path) = (.ok (), t)) :
    runOn t (w.prepareAll files) = (.ok (), t) := by
  induction files with
  | nil => rfl
  | cons f rest ih =>
    have hdir := runOn_prepareDirectory_of_ready (hready f List.mem_cons_self)
    rw [prepareAll, runOn_bind_of_ok hdir, runOn_bind_of_ok (hpassed f List.mem_cons_self)]
    exact ih (fun g hg => hready g (List.mem_cons_of_mem f hg))
      fun g hg => hpassed g (List.mem_cons_of_mem f hg)

/-- Where the directories are there already and nothing stands in the way, preparing succeeds. -/
theorem prepareAll_of_free {w : Writer} {files : List PendingFile} {t : FileTree}
    (hready : ∀ f ∈ files, f.path.directory.text = "" ∨ ∃ m, t.Leads f.path.directory m)
    (hfree : ∀ f ∈ files, ∀ found, t.stat f.path ≠ .ok found) :
    runOn t (w.prepareAll files) = (.ok (), t) := by
  refine prepareAll_of_passed hready fun f hf => ?_
  rw [runOn_checkTarget]
  cases hstat : t.stat f.path with
  | error e => rfl
  | ok found => exact absurd hstat (hfree f hf found)

/-- Preparing does not compare paths. -/
theorem prepareAll_ne_duplicatePath {w : Writer} {files : List PendingFile} {t t' : FileTree} (p : Path) :
    runOn t (w.prepareAll files) ≠ (.error (.duplicatePath p), t') := by
  induction files generalizing t with
  | nil => exact fun h => by cases h
  | cons f rest ih =>
    intro h
    rw [prepareAll] at h
    rcases runOn_bind_eq_error h with hdir | ⟨_, t₁, _, hnext⟩
    · rw [runOn_prepareDirectory] at hdir
      grind
    · rcases runOn_bind_eq_error hnext with hcheck | ⟨_, t₂, _, hrest⟩
      · rw [runOn_checkTarget] at hcheck
        grind
      · exact ih hrest

/-! ### Staging -/

/-- Giving up some staged files leaves others. -/
def Leaves (t : FileTree) (given : List (Path × Staged)) (others : List Staged) : Prop :=
  t.staged.filter (fun s => given.all (·.2.number != s.number)) = others

theorem leaves_nil {t : FileTree} {others : List Staged} :
    Leaves t [] others ↔ t.staged = others := by
  simp [Leaves]

theorem leaves_cons {t : FileTree} {p : Path} {s : Staged} {given : List (Path × Staged)}
    {others : List Staged} : Leaves t ((p, s) :: given) others ↔ Leaves (t.discard s) given others := by
  unfold Leaves FileTree.discard
  rw [List.filter_filter]
  have hpred : (fun x : Staged => ((p, s) :: given).all (·.2.number != x.number))
      = fun x => given.all (·.2.number != x.number) && (x.number != s.number) := by
    funext x
    rw [List.all_cons, Bool.and_comm, bne_comm]
  rw [hpred]

theorem number_lt_freshNumber {t : FileTree} {s : Staged} (h : s ∈ t.staged) :
    s.number < t.freshNumber := by
  have key : ∀ (ss : List Staged) (n : Nat),
      n ≤ ss.foldl (fun n s => max n (s.number + 1)) n ∧
        ∀ s ∈ ss, s.number < ss.foldl (fun n s => max n (s.number + 1)) n := by
    intro ss
    induction ss with
    | nil => intro n; simp
    | cons a ss ih =>
      intro n
      obtain ⟨hle, hlt⟩ := ih (max n (a.number + 1))
      rw [List.foldl_cons]
      refine ⟨by omega, fun s hs => ?_⟩
      rcases List.mem_cons.1 hs with rfl | hs
      · omega
      · exact hlt s hs
  exact (key t.staged 0).2 s h

/-- A file that is staged and given up leaves no trace. -/
theorem discard_fresh (t : FileTree) (content : String) :
    ({ t with staged := ⟨t.freshNumber, content⟩ :: t.staged } : FileTree).discard
      ⟨t.freshNumber, content⟩ = t := by
  have hkeep : t.staged.filter (·.number != t.freshNumber) = t.staged := by
    rw [List.filter_eq_self]
    intro s hs
    have hlt := number_lt_freshNumber hs
    simpa using Nat.ne_of_lt hlt
  simp [FileTree.discard, hkeep]

theorem stage_cases (t : FileTree) (dir : Path) (content : String) :
    (∃ m, t.Leads dir m) ∧ t.stage dir content
        = (.ok ⟨t.freshNumber, content⟩,
          { t with staged := ⟨t.freshNumber, content⟩ :: t.staged }) ∨
      ∃ e, t.stage dir content = (.error e, t) := by
  unfold stage
  cases hstat : t.stat dir with
  | error e => exact .inr ⟨e, rfl⟩
  | ok s =>
    cases s with
    | directory => exact .inl ⟨stat_eq_directory.1 hstat, rfl⟩
    | file readOnly => exact .inr ⟨.notADirectory, rfl⟩

/-- Staged files as the files that they were staged for. -/
def pendingOf (p : Path × Staged) : PendingFile :=
  ⟨p.1, p.2.content⟩

theorem runOn_stageAll_cons (t : FileTree) (f : PendingFile) (rest : List PendingFile) :
    runOn t (stageAll (f :: rest)) = match t.stage (stagingDirectory f.path) f.content with
      | (.error e, t₁) => (.error (.write f.path e), t₁)
      | (.ok s, t₁) => match runOn t₁ (stageAll rest) with
        | (.ok staged, t₂) => (.ok ((f.path, s) :: staged), t₂)
        | (.error e, t₂) => (.error e, t₂.discard s) := by
  rw [stageAll, runOn_bind, runOn_lift, FileM.stage_apply]
  rcases t.stage (stagingDirectory f.path) f.content with ⟨e | s, t₁⟩
  · rfl
  · simp only [runOn_bind, runOn_attempt]
    rcases runOn t₁ (stageAll rest) with ⟨e | staged, t₂⟩ <;> rfl

/-- **A batch that cannot be staged leaves the tree as it was.**  One of its files cannot be written. -/
theorem stageAll_eq_error {files : List PendingFile} {t t' : FileTree} {e : OutputError}
    (h : runOn t (stageAll files) = (.error e, t')) :
    t' = t ∧ ∃ f ∈ files, ∃ cause, e = .write f.path cause := by
  induction files generalizing t t' e with
  | nil => cases h
  | cons f rest ih =>
    rw [runOn_stageAll_cons] at h
    rcases stage_cases t (stagingDirectory f.path) f.content with ⟨-, hstage⟩ | ⟨cause, hstage⟩
    · simp only [hstage] at h
      split at h
      · cases h
      · rename_i e' t₂ hrest
        obtain ⟨rfl, g, hg, hcause⟩ := ih hrest
        cases h
        exact ⟨discard_fresh t f.content, g, List.mem_cons_of_mem f hg, hcause⟩
    · simp only [hstage] at h
      cases h
      exact ⟨rfl, f, List.mem_cons_self, cause, rfl⟩

/-- A batch that is staged stands beside the tree: giving it up would leave what was staged before, and
every file of it has a directory to be staged in. -/
theorem stageAll_eq_ok {files : List PendingFile} {t t' : FileTree} {staged : List (Path × Staged)}
    (h : runOn t (stageAll files) = (.ok staged, t')) :
    staged.map pendingOf = files ∧ t'.root = t.root ∧ t'.working = t.working ∧
      Leaves t' staged t.staged ∧ ∀ f ∈ files, ∃ m, t.Leads (stagingDirectory f.path) m := by
  induction files generalizing t t' staged with
  | nil =>
    cases h
    exact ⟨rfl, rfl, rfl, leaves_nil.2 rfl, fun f hf => by cases hf⟩
  | cons f rest ih =>
    rw [runOn_stageAll_cons] at h
    rcases stage_cases t (stagingDirectory f.path) f.content with ⟨hdir, hstage⟩ | ⟨e, hstage⟩
    · simp only [hstage] at h
      split at h
      · rename_i later t₂ hrest
        cases h
        obtain ⟨hfiles, hroot, hworking, hleaves, hdirs⟩ := ih hrest
        refine ⟨by rw [List.map_cons, hfiles]; rfl, hroot, hworking, ?_, fun g hg => ?_⟩
        · -- giving up the later files leaves this one, and giving up this one leaves no trace
          have hdiscard := congrArg FileTree.staged (discard_fresh t f.content)
          unfold Leaves at hleaves ⊢
          rw [← hdiscard, FileTree.discard, ← hleaves, List.filter_filter]
          congr 1
          funext x
          rw [List.all_cons, bne_comm]
        · rcases List.mem_cons.1 hg with rfl | hg
          · exact hdir
          · obtain ⟨m, hm⟩ := hdirs g hg
            have hsame : FileTree.Grows { t with staged := ⟨t.freshNumber, f.content⟩ :: t.staged } t :=
              .of_eq rfl rfl
            exact ⟨m, hsame.leads hm⟩
      · cases h
    · simp only [hstage] at h
      cases h

/-- Files are staged where there are directories to stage them in. -/
theorem exists_stageAll {files : List PendingFile} {t : FileTree}
    (h : ∀ f ∈ files, ∃ m, t.Leads (stagingDirectory f.path) m) :
    ∃ staged t', runOn t (stageAll files) = (.ok staged, t') := by
  induction files generalizing t with
  | nil => exact ⟨[], t, rfl⟩
  | cons f rest ih =>
    rw [runOn_stageAll_cons]
    obtain ⟨m, hm⟩ := h f List.mem_cons_self
    have hstage : t.stage (stagingDirectory f.path) f.content = (.ok ⟨t.freshNumber, f.content⟩,
        { t with staged := ⟨t.freshNumber, f.content⟩ :: t.staged }) := by
      rw [stage, stat_eq_directory.2 ⟨m, hm⟩]
    have hgrows : t.Grows { t with staged := ⟨t.freshNumber, f.content⟩ :: t.staged } := .of_eq rfl rfl
    obtain ⟨staged, t', hrest⟩ := ih fun g hg =>
      (h g (List.mem_cons_of_mem f hg)).imp fun m hm => hgrows.leads hm
    simp only [hstage, hrest]
    exact ⟨_, _, rfl⟩

/-! ### Putting in place -/

theorem discardAll_apply (given : List (Path × Staged)) (t : FileTree) {others : List Staged}
    (h : Leaves t given others) :
    (discardAll given : FileM Unit) t = ((), { t with staged := others }) := by
  induction given generalizing t with
  | nil =>
    rw [leaves_nil] at h
    subst h
    rfl
  | cons g rest ih =>
    obtain ⟨p, s⟩ := g
    rw [discardAll, FileM.bind_apply, FileM.discard_apply]
    exact ih (t.discard s) (leaves_cons.1 h)

/-- **Files are put in place in order, up to the first whose path has no place for a file; then no file
is staged any more.** -/
theorem commitAll_spec {given : List (Path × Staged)} {t t' : FileTree} {others : List Staged}
    {r : Except OutputError Unit} (hleaves : Leaves t given others)
    (h : runOn t (commitAll given) = (r, t')) :
    r = .ok () ∧ Placed (given.map pendingOf) { t with staged := others } t' ∨
      ∃ k f cause, (given.map pendingOf)[k]? = some f ∧ t'.target f.path = .error cause ∧
        r = .error (.write f.path cause) ∧
        Placed ((given.map pendingOf).take k) { t with staged := others } t' := by
  induction given generalizing t with
  | nil =>
    cases h
    rw [leaves_nil] at hleaves
    subst hleaves
    exact .inl ⟨rfl, .nil _⟩
  | cons g rest ih =>
    obtain ⟨p, s⟩ := g
    rw [commitAll, runOn_bind, runOn_lift, FileM.commit_apply] at h
    cases htarget : t.target p with
    | error cause =>
      have hcommit : t.commit s p = (.error cause, t) := by simp [commit, htarget]
      have hdiscard := discardAll_apply ((p, s) :: rest) t hleaves
      simp only [hcommit] at h
      rw [runOn_bind, runOn_lift, hdiscard] at h
      cases h
      exact .inr ⟨0, pendingOf (p, s), cause, rfl, htarget, rfl, .nil _⟩
    | ok l =>
      have hcommit : t.commit s p = (.ok (), (t.discard s).put l (.file s.content.toUTF8 false)) := by
        simp [commit, htarget]
      simp only [hcommit] at h
      have hrest := ih (t := (t.discard s).put l (.file s.content.toUTF8 false))
        (leaves_cons.1 hleaves) h
      rcases hrest with ⟨rfl, hplaced⟩ | ⟨k, f, cause, hk, hf, rfl, hplaced⟩
      · exact .inl ⟨rfl, .cons (f := pendingOf (p, s)) htarget hplaced⟩
      · exact .inr ⟨k + 1, f, cause, hk, hf, rfl, .cons (f := pendingOf (p, s)) htarget hplaced⟩

end Writer

end Faceting
