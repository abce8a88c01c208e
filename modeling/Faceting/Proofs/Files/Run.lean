import Faceting.Files.Monad
import Faceting.Proofs.Basic

/-!
# Running programs on a file tree

A program that may fail gives a result and leaves a tree (`runOn`). The laws here run a program step by
step, so that no proof has to look into the monads it is written in.
-/

namespace Faceting

/-- What a program gives, and the tree that it leaves. -/
def runOn {ε α : Type} (t : FileTree) (x : ExceptT ε FileM α) : Except ε α × FileTree :=
  x.run t

/-! ### Sequences -/

section
variable {ε ε' α β : Type} (t : FileTree)

@[simp]
theorem runOn_pure (a : α) : runOn t (pure a : ExceptT ε FileM α) = (.ok a, t) := rfl

@[simp]
theorem runOn_throw (e : ε) : runOn t (throw e : ExceptT ε FileM α) = (.error e, t) := rfl

@[simp]
theorem runOn_lift (x : FileM α) : runOn t (liftM x : ExceptT ε FileM α) = (.ok (x t).1, (x t).2) := rfl

@[simp]
theorem runOn_mk (x : FileM (Except ε α)) : runOn t (ExceptT.mk x) = x t := rfl

theorem exists_runOn_of_isOk {x : ExceptT ε FileM α} (h : (runOn t x).1.isOk = true) :
    ∃ a t', runOn t x = (.ok a, t') := by
  obtain ⟨a, ha⟩ := exists_of_isOk h
  exact ⟨a, (runOn t x).2, Prod.ext ha rfl⟩

/-- A program whose failure is looked at does not fail. -/
theorem runOn_attempt (x : ExceptT ε FileM α) :
    runOn t (ExceptT.lift x.run : ExceptT ε' FileM _) = (.ok (runOn t x).1, (runOn t x).2) := rfl

/-- A program goes on from where its first part succeeds. -/
theorem runOn_bind (x : ExceptT ε FileM α) (f : α → ExceptT ε FileM β) :
    runOn t (x >>= f) = match runOn t x with
      | (.ok a, t') => runOn t' (f a)
      | (.error e, t') => (.error e, t') := by
  unfold runOn
  show (ExceptT.bindCont f (x.run t).1) (x.run t).2 = _
  rcases x.run t with ⟨_ | _, _⟩ <;> rfl

theorem runOn_bind_of_ok {t t' : FileTree} {x : ExceptT ε FileM α} {a : α}
    (h : runOn t x = (.ok a, t')) (f : α → ExceptT ε FileM β) :
    runOn t (x >>= f) = runOn t' (f a) := by
  rw [runOn_bind, h]

theorem runOn_adapt (x : ExceptT ε FileM α) (f : ε → ε') :
    runOn t (x.adapt f) = ((runOn t x).1.mapError f, (runOn t x).2) := rfl

/-- A program that fails does so in its first part, or in what follows it. -/
theorem runOn_bind_eq_error {t t' : FileTree} {x : ExceptT ε FileM α} {f : α → ExceptT ε FileM β} {e : ε}
    (h : runOn t (x >>= f) = (.error e, t')) :
    runOn t x = (.error e, t') ∨
      ∃ a t₁, runOn t x = (.ok a, t₁) ∧ runOn t₁ (f a) = (.error e, t') := by
  rw [runOn_bind] at h
  split at h
  · rename_i a t₁ hx
    exact .inr ⟨a, t₁, hx, h⟩
  · rename_i e' t₁ hx
    cases h
    exact .inl hx

/-- A program that succeeds does so in both parts. -/
theorem runOn_bind_eq_ok {t t' : FileTree} {x : ExceptT ε FileM α} {f : α → ExceptT ε FileM β} {b : β}
    (h : runOn t (x >>= f) = (.ok b, t')) :
    ∃ a t₁, runOn t x = (.ok a, t₁) ∧ runOn t₁ (f a) = (.ok b, t') := by
  rw [runOn_bind] at h
  split at h
  · rename_i a t₁ hx
    exact ⟨a, t₁, hx, h⟩
  · cases h

end

/-! ### Operations -/

namespace FileM

variable {α β : Type} (t : FileTree)

@[simp]
theorem pure_apply (a : α) : (pure a : FileM α) t = (a, t) := rfl

@[simp]
theorem bind_apply (x : FileM α) (f : α → FileM β) : (x >>= f) t = f (x t).1 (x t).2 := rfl

@[simp]
theorem ite_apply (c : Prop) [Decidable c] (x y : FileM α) :
    (if c then x else y) t = if c then x t else y t := by
  split <;> rfl

@[simp]
theorem stat_apply (p : Path) : (MonadFiles.stat p : FileM _) t = (t.stat p, t) := rfl

@[simp]
theorem read_apply (p : Path) : (MonadFiles.read p : FileM _) t = (t.read p, t) := rfl

@[simp]
theorem makeDirectory_apply (p : Path) :
    (MonadFiles.makeDirectory p : FileM _) t = t.makeDirectory p := rfl

@[simp]
theorem filesBelow_apply (p : Path) :
    (MonadFiles.filesBelow p : FileM _) t = (t.filesBelow p, t) := rfl

@[simp]
theorem stage_apply (dir : Path) (content : String) :
    (MonadFiles.stage dir content : FileM _) t = t.stage dir content := rfl

@[simp]
theorem commit_apply (s : Staged) (p : Path) : (MonadFiles.commit s p : FileM _) t = t.commit s p := rfl

@[simp]
theorem discard_apply (s : Staged) : (MonadFiles.discard s : FileM _) t = ((), t.discard s) := rfl

@[simp]
theorem isPresent_apply (p : Path) :
    (Files.isPresent p : FileM _) t = ((t.stat p).toOption.isSome, t) := rfl

@[simp]
theorem isDirectory_apply (p : Path) :
    (Files.isDirectory p : FileM _) t = ((t.stat p).toOption == some .directory, t) := rfl

/-- Reading a text leaves the tree as it is. -/
@[simp]
theorem readText_apply_snd (p : Path) : ((Files.readText p : FileM _) t).2 = t := by
  unfold Files.readText
  rw [bind_apply, read_apply]
  cases h : t.read p with
  | error e => rfl
  | ok content => cases hc : String.fromUTF8? content <;> simp [hc]

/-- Reading a text depends on nothing but the content of the file. -/
theorem readText_apply_fst (p : Path) :
    ((Files.readText p : FileM _) t).1 = match t.read p with
      | .error e => .error e
      | .ok content => match String.fromUTF8? content with
        | some text => .ok text
        | none => .error .notText := by
  unfold Files.readText
  rw [bind_apply, read_apply]
  cases t.read p with
  | error e => rfl
  | ok content => cases hc : String.fromUTF8? content <;> simp [hc]

/-- A text that was written is read back. -/
theorem fromUTF8?_toUTF8 (text : String) : String.fromUTF8? text.toUTF8 = some text := by
  have hvalid : text.toUTF8.IsValidUTF8 := text.isValidUTF8
  unfold String.fromUTF8?
  rw [dif_pos hvalid]
  rfl

/-- What is read as text is the content of the file. -/
theorem readText_eq_ok {t : FileTree} {p : Path} {text : String}
    (h : ((Files.readText p : FileM _) t).1 = .ok text) :
    ∃ content, t.read p = .ok content ∧ String.fromUTF8? content = some text := by
  rw [readText_apply_fst] at h
  split at h
  · cases h
  · rename_i content hread
    split at h
    · rename_i text' htext
      cases h
      exact ⟨content, hread, htext⟩
    · cases h

end FileM

end Faceting
