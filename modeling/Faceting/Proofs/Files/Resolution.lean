import Faceting.Proofs.Files.Operations

/-!
# Where paths lead, in any tree

There are no links in a tree, so where a walk ends can be told from its segments alone: a name leads down,
a double dot leads up, and nothing else leads anywhere (`FileTree.resolve`). A tree only decides whether the
walk gets there (`FileTree.walkFrom_location`). Hence two trees in which a path has a place, and which start
from the same working directory, have the same place for it (`FileTree.target_unique`).
-/

namespace Faceting

/-- The location of a place. -/
def Place.location : Place → List String
  | .found l _ => l
  | .vacant l _ => l

namespace FileTree

/-- The location to which segments lead from another one, if they lead anywhere. -/
def resolve : List String → List String → List String
  | l, [] => l
  | l, segment :: rest =>
    if Path.isIdle segment then resolve l rest
    else if segment = ".." then resolve l.dropLast rest
    else resolve (l ++ [segment]) rest

theorem resolve_idle (l : List String) {segment : String} (rest : List String)
    (h : Path.isIdle segment = true) : resolve l (segment :: rest) = resolve l rest := by
  rw [resolve, if_pos h]

theorem resolve_up (l rest : List String) : resolve l (".." :: rest) = resolve l.dropLast rest := by
  rw [resolve, if_neg (by decide), if_pos rfl]

theorem resolve_name (l : List String) {segment : String} (rest : List String)
    (hidle : Path.isIdle segment = false) (hup : segment ≠ "..") :
    resolve l (segment :: rest) = resolve (l ++ [segment]) rest := by
  rw [resolve, if_neg (by simp [hidle]), if_neg hup]

/-- Slashes lead nowhere. -/
theorem resolve_slashes (l : List String) {segments : List String}
    (h : segments.all (· == "") = true) : resolve l segments = l := by
  induction segments with
  | nil => rfl
  | cons segment rest ih =>
    rw [List.all_cons, Bool.and_eq_true] at h
    obtain ⟨hsegment, hrest⟩ := h
    have hidle : Path.isIdle segment = true := by simp [Path.isIdle, hsegment]
    rw [resolve_idle l rest hidle]
    exact ih hrest

/-- **A walk that gets anywhere gets to where its segments lead.** -/
theorem walkFrom_location {root : Entry} {l segments : List String} {place : Place}
    (h : walkFrom root l segments = .ok place) : place.location = resolve l segments := by
  induction l, segments using walkInduction with
  | nil l =>
    rw [walkFrom_nil] at h
    split at h <;> cases h
    rfl
  | idle l segment rest hidle ih =>
    rw [walkFrom_idle _ _ _ hidle] at h
    rw [resolve_idle l rest hidle]
    exact ih h
  | up l rest ih =>
    rw [walkFrom_up] at h
    rw [resolve_up]
    exact ih h
  | name l segment rest hidle hup ih =>
    rw [resolve_name l rest hidle hup]
    obtain ⟨-, ⟨-, hslashes, hplace⟩ | ⟨content, readOnly, -, hend, hplace⟩ | ⟨-, hrest⟩⟩ :=
      walkFrom_name_cases hidle hup h
    · rw [hplace, resolve_slashes _ hslashes]
      rfl
    · rw [hplace, hend]
      rfl
    · exact ih hrest

theorem exists_walk_of_target {t : FileTree} {p : Path} {l : List String} (h : t.target p = .ok l) :
    ∃ place, t.walk p = .ok place ∧ place.location = l := by
  unfold target at h
  split at h <;> cases h
  · exact ⟨_, by assumption, rfl⟩
  · exact ⟨_, by assumption, rfl⟩

theorem target_eq_resolve {t : FileTree} {p : Path} {l : List String} (h : t.target p = .ok l) :
    l = resolve (t.origin p) p.segments := by
  obtain ⟨place, hwalk, rfl⟩ := exists_walk_of_target h
  exact walkFrom_location (walkSegments_eq_ok.1 hwalk).2

end FileTree

end Faceting
