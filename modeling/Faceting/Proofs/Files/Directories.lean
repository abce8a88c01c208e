import Faceting.Proofs.Files.Operations
import Faceting.Proofs.Files.Run

/-!
# Making directories

`FileTree.DirectoriesMade` is the change of a tree by directories that are made one after the other, each
at one of some paths. That is all that `Files.createDirectories` does, whether it succeeds or not
(`Files.directoriesMade_createDirectories`), and when it succeeds the path leads to a directory
(`Files.leads_createDirectories`).
-/

namespace Faceting

/-! ### Paths above a path -/

/-- The first path stands above the second: it is the parent, or a parent of one above. -/
inductive Path.Above : Path → Path → Prop
  | parent {q p : Path} : p.parent? = some q → Above q p
  | beyond {r q p : Path} : Above q p → q.parent? = some r → Above r p

theorem Path.Above.trans {r q p : Path} (h : Above r q) (hqp : Above q p) : Above r p := by
  induction h with
  | parent hparent => exact .beyond hqp hparent
  | beyond _ hparent ih => exact .beyond (ih hqp) hparent

theorem Path.mem_ancestorsWithin {steps : Nat} {p q : Path} (h : q ∈ p.ancestorsWithin steps) :
    q = p ∨ q.Above p := by
  induction steps generalizing p with
  | zero =>
    rw [ancestorsWithin, List.mem_singleton] at h
    exact .inl h
  | succ steps ih =>
    rw [ancestorsWithin] at h
    split at h
    · rw [List.mem_singleton] at h
      exact .inl h
    · rename_i parent hparent
      rcases List.mem_cons.1 h with rfl | h
      · exact .inl rfl
      · rcases ih h with rfl | habove
        · exact .inr (.parent hparent)
        · exact .inr (habove.trans (.parent hparent))

theorem Path.mem_ancestors {p q : Path} (h : q ∈ p.ancestors) : q = p ∨ q.Above p :=
  mem_ancestorsWithin h

theorem Path.ancestors_eq_cons (p : Path) : ∃ above, p.ancestors = p :: above := by
  unfold ancestors
  cases p.segments.length with
  | zero => exact ⟨[], rfl⟩
  | succ steps =>
    rw [ancestorsWithin]
    cases p.parent? with
    | none => exact ⟨[], rfl⟩
    | some parent => exact ⟨_, rfl⟩

/-! ### Directories made one after the other -/

/-- Directories are made one after the other, each at one of some paths. -/
inductive FileTree.DirectoriesMade (allowed : Path → Prop) : FileTree → FileTree → Prop
  | refl (t : FileTree) : DirectoriesMade allowed t t
  | make {t t₁ t₂ : FileTree} {p : Path} : DirectoriesMade allowed t t₁ → allowed p →
      t₁.makeDirectory p = (.ok (), t₂) → DirectoriesMade allowed t t₂

namespace FileTree.DirectoriesMade

variable {allowed allowed' : Path → Prop} {t t₁ t₂ : FileTree}

theorem mono (himp : ∀ p, allowed p → allowed' p) (h : DirectoriesMade allowed t t₁) :
    DirectoriesMade allowed' t t₁ := by
  induction h with
  | refl => exact .refl _
  | make _ hp hmake ih => exact .make ih (himp _ hp) hmake

theorem trans (h₁ : DirectoriesMade allowed t t₁) (h₂ : DirectoriesMade allowed t₁ t₂) :
    DirectoriesMade allowed t t₂ := by
  induction h₂ with
  | refl => exact h₁
  | make _ hp hmake ih => exact .make ih hp hmake

theorem onlyDirectoriesAdded (h : DirectoriesMade allowed t t₁) : t.OnlyDirectoriesAdded t₁ := by
  induction h with
  | refl => exact .refl _
  | make _ _ hmake ih => exact ih.trans (onlyDirectoriesAdded_makeDirectory hmake)

theorem grows (h : DirectoriesMade allowed t t₁) : t.Grows t₁ :=
  h.onlyDirectoriesAdded.grows

end FileTree.DirectoriesMade

/-! ### Making a directory and those above it -/

namespace Files

open FileTree

theorem toOption_stat_eq_directory {t : FileTree} {p : Path} :
    ((t.stat p).toOption == some .directory) = true ↔ ∃ m, t.Leads p m := by
  rw [beq_iff_eq, ← stat_eq_directory]
  cases t.stat p with
  | error e => simp [Except.toOption]
  | ok s => simp [Except.toOption]

/-- Making a directory changes the tree only if it succeeds. -/
theorem directoriesMade_makeDirectory {t t' : FileTree} {p : Path} {r : Except FileError Unit}
    (h : t.makeDirectory p = (r, t')) : DirectoriesMade (· = p) t t' := by
  cases r with
  | error e =>
    rw [makeDirectory_eq_error h]
    exact .refl t
  | ok u => exact .make (.refl t) rfl h

theorem ensureDirectory_apply (t : FileTree) (p : Path) :
    (ensureDirectory p : FileM _) t = match t.makeDirectory p with
      | (.ok (), t₁) => (.ok (), t₁)
      | (.error e, t₁) =>
        if (t₁.stat p).toOption == some .directory then (.ok (), t₁) else (.error e, t₁) := by
  unfold ensureDirectory
  rw [FileM.bind_apply, FileM.makeDirectory_apply]
  rcases t.makeDirectory p with ⟨e | u, t₁⟩
  · show (isDirectory p >>= _ : FileM _) t₁ = _
    rw [FileM.bind_apply, FileM.ite_apply]
    rfl
  · rfl

theorem createFrom_cons_apply (t : FileTree) {p : Path} (hp : p.text ≠ "") (above : List Path) :
    (createFrom (p :: above) : FileM _) t = match t.makeDirectory p with
      | (.ok (), t₁) => (.ok (), t₁)
      | (.error .notFound, t₁) =>
        match (createFrom above : FileM _) t₁ with
        | (.ok (), t₂) => (ensureDirectory p : FileM _) t₂
        | (.error e, t₂) => (.error e, t₂)
      | (.error e, t₁) =>
        if (t₁.stat p).toOption == some .directory then (.ok (), t₁) else (.error e, t₁) := by
  rw [createFrom, if_neg hp, FileM.bind_apply, FileM.makeDirectory_apply]
  rcases t.makeDirectory p with ⟨e | u, t₁⟩
  · by_cases he : e = .notFound
    · subst he
      simp only [FileM.bind_apply]
      rcases (createFrom above : FileM _) t₁ with ⟨e' | u, t₂⟩ <;> rfl
    · have other : (isDirectory p >>= fun b => if b then pure (.ok ()) else pure (.error e) :
          FileM (Except FileError Unit)) t₁
          = if (t₁.stat p).toOption == some .directory then (.ok (), t₁) else (.error e, t₁) := by
        rw [FileM.bind_apply, FileM.ite_apply]
        rfl
      cases e with
      | notFound => exact absurd rfl he
      | _ => exact other
  · rfl

theorem ensureDirectory_spec {t t' : FileTree} {p : Path} {r : Except FileError Unit}
    (h : (ensureDirectory p : FileM _) t = (r, t')) :
    DirectoriesMade (· = p) t t' ∧ (r = .ok () → ∃ m, t'.Leads p m) := by
  rw [ensureDirectory_apply] at h
  rcases hmake : t.makeDirectory p with ⟨e | u, t₁⟩
  · simp only [hmake] at h
    have hmade := directoriesMade_makeDirectory hmake
    split_ifs at h with hdir
    · cases h
      exact ⟨hmade, fun _ => toOption_stat_eq_directory.1 hdir⟩
    · cases h
      exact ⟨hmade, fun hok => by cases hok⟩
  · rw [hmake] at h
    cases h
    exact ⟨directoriesMade_makeDirectory hmake, fun _ => leads_makeDirectory hmake⟩

/-- What making a directory and those above it leaves: directories at the paths given and nothing else,
and in the end, if all went well, a directory at the first. -/
theorem createFrom_spec {ps : List Path} {t t' : FileTree} {r : Except FileError Unit}
    (h : (createFrom ps : FileM _) t = (r, t')) :
    DirectoriesMade (· ∈ ps) t t' ∧
      (r = .ok () → ∀ p ∈ ps.head?, p.text ≠ "" → ∃ m, t'.Leads p m) := by
  induction ps generalizing t t' r with
  | nil =>
    cases h
    exact ⟨.refl t, fun _ p hp => by cases hp⟩
  | cons p above ih =>
    by_cases hempty : p.text = ""
    · rw [createFrom, if_pos hempty] at h
      cases h
      exact ⟨.refl t, fun _ q hq hne => by cases hq; exact absurd hempty hne⟩
    -- only the first path is in the way of the head, and all directories are made at paths of the list
    have headOnly {t₁ : FileTree} (hleads : r = .ok () → ∃ m, t₁.Leads p m) :
        r = .ok () → ∀ q ∈ (p :: above).head?, q.text ≠ "" → ∃ m, t₁.Leads q m := by
      intro hok q hq _
      cases hq
      exact hleads hok
    have first {t₁ t₂ : FileTree} (hmade : DirectoriesMade (· = p) t₁ t₂) :
        DirectoriesMade (· ∈ p :: above) t₁ t₂ := hmade.mono (fun q hq => by simp [hq])
    have later {t₁ t₂ : FileTree} (hmade : DirectoriesMade (· ∈ above) t₁ t₂) :
        DirectoriesMade (· ∈ p :: above) t₁ t₂ := hmade.mono (fun _ hq => List.mem_cons_of_mem p hq)
    rw [createFrom_cons_apply t hempty] at h
    split at h
    · rename_i t₁ hmake
      cases h
      exact ⟨first (directoriesMade_makeDirectory hmake), headOnly fun _ => leads_makeDirectory hmake⟩
    · -- a directory above is missing, so those above are made first
      rename_i t₁ hmake
      have hmade := first (directoriesMade_makeDirectory hmake)
      split at h
      · rename_i t₂ habove
        obtain ⟨hlast, hleads⟩ := ensureDirectory_spec h
        exact ⟨(hmade.trans (later (ih habove).1)).trans (first hlast), headOnly hleads⟩
      · rename_i e t₂ habove
        cases h
        exact ⟨hmade.trans (later (ih habove).1), headOnly fun hok => by cases hok⟩
    · rename_i e t₁ _ hmake
      have hmade := first (directoriesMade_makeDirectory hmake)
      split_ifs at h with hdir
      · cases h
        exact ⟨hmade, headOnly fun _ => toOption_stat_eq_directory.1 hdir⟩
      · cases h
        exact ⟨hmade, headOnly fun hok => by cases hok⟩

theorem directoriesMade_createDirectories {p : Path} {t t' : FileTree} {r : Except FileError Unit}
    (h : (createDirectories p : FileM _) t = (r, t')) :
    DirectoriesMade (fun q => q = p ∨ q.Above p) t t' :=
  (createFrom_spec h).1.mono fun _ hq => Path.mem_ancestors hq

theorem leads_createDirectories {p : Path} {t t' : FileTree}
    (h : (createDirectories p : FileM _) t = (.ok (), t')) (hp : p.text ≠ "") :
    ∃ m, t'.Leads p m := by
  obtain ⟨above, habove⟩ := p.ancestors_eq_cons
  exact (createFrom_spec h).2 rfl p (by simp [habove]) hp

/-- Where there is a directory already, none is made. -/
theorem createDirectories_of_leads {p : Path} {t : FileTree} {m : List String} (h : t.Leads p m) :
    (createDirectories p : FileM _) t = (.ok (), t) := by
  obtain ⟨above, habove⟩ := p.ancestors_eq_cons
  have hdir := toOption_stat_eq_directory.2 ⟨m, h⟩
  unfold createDirectories
  rw [habove, createFrom_cons_apply t h.1.nonempty, makeDirectory_of_leads h]
  exact if_pos hdir

end Files

end Faceting
