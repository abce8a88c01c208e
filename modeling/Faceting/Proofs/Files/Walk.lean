import Faceting.Proofs.Files.Tree

/-!
# Walking paths

Where a walk ends, and what a change of the tree does to it. All proofs follow the walk by
`FileTree.walkInduction`: a segment is idle, leads up, or is a name.

* `FileTree.walkFrom_found` and `FileTree.walkFrom_vacant` say what stands where a walk ends.
* `FileTree.LeadsTo` is a walk that ends at a directory. Such walks do not depend on idle segments
  (`FileTree.leadsTo_filter`), and a longer walk goes on from where they end (`FileTree.walkFrom_append`).
* `Entry.Grows` is a change that keeps directories and keeps files as files. Walks keep their ends
  under it (`FileTree.walkFrom_found_of_grows`).
-/

namespace Faceting

/-! ### Changes that keep what is there -/

/-- Directories stay, and files stay files, though perhaps with another content. -/
structure Entry.Grows (e e' : Entry) : Prop where
  directory : ∀ l, e.itemAt? l = some .directory → e'.itemAt? l = some .directory
  file : ∀ l content readOnly, e.itemAt? l = some (.file content readOnly) →
    ∃ content' readOnly', e'.itemAt? l = some (.file content' readOnly')

namespace Entry.Grows

theorem refl (e : Entry) : e.Grows e :=
  ⟨fun _ h => h, fun _ content readOnly h => ⟨content, readOnly, h⟩⟩

theorem trans {e₁ e₂ e₃ : Entry} (h₁ : e₁.Grows e₂) (h₂ : e₂.Grows e₃) : e₁.Grows e₃ where
  directory l h := h₂.directory l (h₁.directory l h)
  file l content readOnly h := by
    obtain ⟨content', readOnly', h'⟩ := h₁.file l content readOnly h
    exact h₂.file l content' readOnly' h'

theorem isDirectoryAt {e e' : Entry} (h : e.Grows e') {l : List String}
    (hl : e.isDirectoryAt l = true) : e'.isDirectoryAt l = true := by
  rw [isDirectoryAt_iff_itemAt?] at hl ⊢
  exact h.directory l hl

/-- An entry becomes one of the same kind. -/
theorem at? {e e' x : Entry} (h : e.Grows e') {l : List String} (hx : e.at? l = some x) :
    ∃ x', e'.at? l = some x' ∧ x'.isDirectory = x.isDirectory := by
  cases x with
  | directory entries =>
    obtain ⟨entries', h'⟩ :=
      isDirectoryAt_iff.1 (h.isDirectoryAt (isDirectoryAt_iff.2 ⟨entries, hx⟩))
    exact ⟨_, h', rfl⟩
  | file content readOnly =>
    obtain ⟨content', readOnly', h'⟩ := h.file l content readOnly (itemAt?_eq_file.2 hx)
    exact ⟨_, itemAt?_eq_file.1 h', rfl⟩

end Entry.Grows

namespace FileTree

/-! ### Steps of a walk -/

theorem walkFrom_nil (root : Entry) (l : List String) :
    walkFrom root l [] = match root.at? l with
      | some e => .ok (.found l e)
      | none => .error .notFound :=
  walkFrom.eq_1 root l

theorem walkFrom_idle (root : Entry) (l : List String) {segment : String} (rest : List String)
    (h : Path.isIdle segment = true) : walkFrom root l (segment :: rest) = walkFrom root l rest := by
  rw [walkFrom, if_pos h]

theorem walkFrom_up (root : Entry) (l rest : List String) :
    walkFrom root l (".." :: rest) = walkFrom root l.dropLast rest := by
  rw [walkFrom, if_neg (by decide), if_pos rfl]

theorem walkFrom_name (root : Entry) (l : List String) {segment : String} (rest : List String)
    (hidle : Path.isIdle segment = false) (hup : segment ≠ "..") :
    walkFrom root l (segment :: rest) =
      if nameLimit < segment.utf8ByteSize then .error .invalidName
      else match root.at? (l ++ [segment]) with
        | none =>
          if rest.all (· == "") then .ok (.vacant (l ++ [segment]) !rest.isEmpty) else .error .notFound
        | some (.file content readOnly) =>
          if rest.isEmpty then .ok (.found (l ++ [segment]) (.file content readOnly))
          else .error .notADirectory
        | some (.directory _) => walkFrom root (l ++ [segment]) rest := by
  have hstep := walkFrom.eq_2 root l segment rest
  exact hstep.trans ((if_neg (by simp [hidle])).trans (if_neg hup))

/-- A walk to a name goes nowhere, ends there at a free name or a file, or goes on from a directory. -/
theorem walkFrom_name_cases {root : Entry} {l : List String} {segment : String} {rest : List String}
    (hidle : Path.isIdle segment = false) (hup : segment ≠ "..") {place : Place}
    (h : walkFrom root l (segment :: rest) = .ok place) :
    segment.utf8ByteSize ≤ nameLimit ∧
      (root.at? (l ++ [segment]) = none ∧ rest.all (· == "") = true ∧
          place = .vacant (l ++ [segment]) !rest.isEmpty ∨
        (∃ content readOnly, root.at? (l ++ [segment]) = some (.file content readOnly) ∧ rest = [] ∧
          place = .found (l ++ [segment]) (.file content readOnly)) ∨
        root.isDirectoryAt (l ++ [segment]) = true ∧ walkFrom root (l ++ [segment]) rest = .ok place) := by
  rw [walkFrom_name _ _ _ hidle hup] at h
  split at h
  · cases h
  rename_i hlimit
  refine ⟨Nat.le_of_not_lt hlimit, ?_⟩
  split at h
  · rename_i hnone
    split at h <;> cases h
    rename_i hrest
    exact .inl ⟨hnone, hrest, rfl⟩
  · rename_i content readOnly hfile
    split at h <;> cases h
    rename_i hrest
    exact .inr (.inl ⟨content, readOnly, hfile, List.isEmpty_iff.1 hrest, rfl⟩)
  · rename_i entries hdir
    exact .inr (.inr ⟨Entry.isDirectoryAt_iff.2 ⟨entries, hdir⟩, h⟩)

/-- A walk goes on from a directory. -/
theorem walkFrom_name_directory {root : Entry} {l : List String} {segment : String} (rest : List String)
    (hidle : Path.isIdle segment = false) (hup : segment ≠ "..")
    (hlimit : segment.utf8ByteSize ≤ nameLimit) (hdir : root.isDirectoryAt (l ++ [segment]) = true) :
    walkFrom root l (segment :: rest) = walkFrom root (l ++ [segment]) rest := by
  obtain ⟨entries, hentries⟩ := Entry.isDirectoryAt_iff.1 hdir
  rw [walkFrom_name _ _ _ hidle hup, if_neg (Nat.not_lt.2 hlimit), hentries]

/-- Induction along a walk: a segment is idle, leads up, or is a name. -/
theorem walkInduction {motive : List String → List String → Prop} (nil : ∀ l, motive l [])
    (idle : ∀ l segment rest, Path.isIdle segment = true → motive l rest → motive l (segment :: rest))
    (up : ∀ l rest, motive l.dropLast rest → motive l (".." :: rest))
    (name : ∀ l segment rest, Path.isIdle segment = false → segment ≠ ".." →
      motive (l ++ [segment]) rest → motive l (segment :: rest))
    (l segments : List String) : motive l segments := by
  induction segments generalizing l with
  | nil => exact nil l
  | cons segment rest ih =>
    by_cases hidle : Path.isIdle segment = true
    · exact idle l segment rest hidle (ih l)
    by_cases hup : segment = ".."
    · subst hup
      exact up l rest (ih l.dropLast)
    · exact name l segment rest (by simpa using hidle) hup (ih (l ++ [segment]))

/-! ### The ends of walks -/

theorem walkFrom_found {root e : Entry} {l m segments : List String}
    (h : walkFrom root l segments = .ok (.found m e)) : root.at? m = some e := by
  induction l, segments using walkInduction with
  | nil l =>
    rw [walkFrom_nil] at h
    split at h <;> cases h
    assumption
  | idle l segment rest hidle ih =>
    rw [walkFrom_idle _ _ _ hidle] at h
    exact ih h
  | up l rest ih =>
    rw [walkFrom_up] at h
    exact ih h
  | name l segment rest hidle hup ih =>
    obtain ⟨-, ⟨-, -, hplace⟩ | ⟨content, readOnly, hfile, -, hplace⟩ | ⟨-, hrest⟩⟩ :=
      walkFrom_name_cases hidle hup h
    · cases hplace
    · cases hplace
      exact hfile
    · exact ih hrest

/-- A walk that ends at a free name ends in a directory. -/
theorem walkFrom_vacant {root : Entry} {l m segments : List String} {slash : Bool}
    (hl : root.isDirectoryAt l = true) (h : walkFrom root l segments = .ok (.vacant m slash)) :
    root.at? m = none ∧ ∃ parent name, m = parent ++ [name] ∧ root.isDirectoryAt parent = true := by
  induction l, segments using walkInduction with
  | nil l =>
    rw [walkFrom_nil] at h
    split at h <;> cases h
  | idle l segment rest hidle ih =>
    rw [walkFrom_idle _ _ _ hidle] at h
    exact ih hl h
  | up l rest ih =>
    rw [walkFrom_up] at h
    exact ih (Entry.isDirectoryAt_dropLast hl) h
  | name l segment rest hidle hup ih =>
    obtain ⟨-, ⟨hnone, -, hplace⟩ | ⟨content, readOnly, -, -, hplace⟩ | ⟨hdir, hrest⟩⟩ :=
      walkFrom_name_cases hidle hup h
    · cases hplace
      exact ⟨hnone, l, segment, rfl, hl⟩
    · cases hplace
    · exact ih hdir hrest

/-! ### Walks to directories -/

/-- A walk that ends at a directory. -/
def LeadsTo (root : Entry) (l segments m : List String) : Prop :=
  ∃ entries, walkFrom root l segments = .ok (.found m (.directory entries))

theorem LeadsTo.isDirectoryAt {root : Entry} {l segments m : List String}
    (h : LeadsTo root l segments m) : root.isDirectoryAt m = true := by
  obtain ⟨entries, h⟩ := h
  exact Entry.isDirectoryAt_iff.2 ⟨entries, walkFrom_found h⟩

theorem leadsTo_nil {root : Entry} {l m : List String} :
    LeadsTo root l [] m ↔ m = l ∧ root.isDirectoryAt l = true := by
  unfold LeadsTo
  rw [walkFrom_nil, Entry.isDirectoryAt_iff]
  cases h : root.at? l with
  | none => simp
  | some e =>
    constructor
    · rintro ⟨entries, he⟩
      cases he
      exact ⟨rfl, entries, rfl⟩
    · rintro ⟨rfl, entries, he⟩
      cases he
      exact ⟨entries, rfl⟩

theorem leadsTo_idle {root : Entry} {l m rest : List String} {segment : String}
    (h : Path.isIdle segment = true) :
    LeadsTo root l (segment :: rest) m ↔ LeadsTo root l rest m := by
  unfold LeadsTo
  rw [walkFrom_idle _ _ _ h]

theorem leadsTo_up {root : Entry} {l m rest : List String} :
    LeadsTo root l (".." :: rest) m ↔ LeadsTo root l.dropLast rest m := by
  unfold LeadsTo
  rw [walkFrom_up]

/-- A step to a name leads on if there is a directory of that name. -/
theorem leadsTo_name {root : Entry} {l m rest : List String} {segment : String}
    (hidle : Path.isIdle segment = false) (hup : segment ≠ "..") :
    LeadsTo root l (segment :: rest) m ↔
      segment.utf8ByteSize ≤ nameLimit ∧ root.isDirectoryAt (l ++ [segment]) = true ∧
        LeadsTo root (l ++ [segment]) rest m := by
  constructor
  · rintro ⟨entries, h⟩
    obtain ⟨hlimit, ⟨-, -, hplace⟩ | ⟨content, readOnly, -, -, hplace⟩ | ⟨hdir, hrest⟩⟩ :=
      walkFrom_name_cases hidle hup h
    · cases hplace
    · cases hplace
    · exact ⟨hlimit, hdir, entries, hrest⟩
  · rintro ⟨hlimit, hdir, entries, hrest⟩
    exact ⟨entries, by rw [walkFrom_name_directory rest hidle hup hlimit hdir, hrest]⟩

/-- Idle segments do not matter on the way to a directory. -/
theorem leadsTo_filter {root : Entry} {l m segments : List String} :
    LeadsTo root l (segments.filter (!Path.isIdle ·)) m ↔ LeadsTo root l segments m := by
  induction l, segments using walkInduction with
  | nil l => rfl
  | idle l segment rest hidle ih =>
    rw [List.filter_cons_of_neg (by simp [hidle]), ih, leadsTo_idle hidle]
  | up l rest ih =>
    rw [List.filter_cons_of_pos (by decide), leadsTo_up, leadsTo_up, ih]
  | name l segment rest hidle hup ih =>
    rw [List.filter_cons_of_pos (by simp [hidle]), leadsTo_name hidle hup, leadsTo_name hidle hup, ih]

/-- A walk goes on from where its first part ends. -/
theorem walkFrom_append {root : Entry} {l m segments : List String} (h : LeadsTo root l segments m)
    (more : List String) : walkFrom root l (segments ++ more) = walkFrom root m more := by
  induction l, segments using walkInduction with
  | nil l =>
    obtain ⟨rfl, -⟩ := leadsTo_nil.1 h
    rfl
  | idle l segment rest hidle ih =>
    rw [List.cons_append, walkFrom_idle _ _ _ hidle]
    exact ih ((leadsTo_idle hidle).1 h)
  | up l rest ih =>
    rw [List.cons_append, walkFrom_up]
    exact ih (leadsTo_up.1 h)
  | name l segment rest hidle hup ih =>
    obtain ⟨hlimit, hdir, hrest⟩ := (leadsTo_name hidle hup).1 h
    rw [List.cons_append, walkFrom_name_directory _ hidle hup hlimit hdir]
    exact ih hrest

/-! ### Walks in a tree that grows -/

/-- **A walk keeps its end when the tree grows.** -/
theorem walkFrom_found_of_grows {root root' e : Entry} (hgrows : root.Grows root')
    {l m segments : List String} (h : walkFrom root l segments = .ok (.found m e)) :
    ∃ e', walkFrom root' l segments = .ok (.found m e') ∧ e'.isDirectory = e.isDirectory := by
  induction l, segments using walkInduction with
  | nil l =>
    rw [walkFrom_nil] at h ⊢
    split at h <;> cases h
    rename_i he
    obtain ⟨e', he', hkind⟩ := hgrows.at? he
    exact ⟨e', by rw [he'], hkind⟩
  | idle l segment rest hidle ih =>
    rw [walkFrom_idle _ _ _ hidle] at h ⊢
    exact ih h
  | up l rest ih =>
    rw [walkFrom_up] at h ⊢
    exact ih h
  | name l segment rest hidle hup ih =>
    obtain ⟨hlimit, ⟨-, -, hplace⟩ | ⟨content, readOnly, hfile, rfl, hplace⟩ | ⟨hdir, hrest⟩⟩ :=
      walkFrom_name_cases hidle hup h
    · cases hplace
    · cases hplace
      obtain ⟨e', he', hkind⟩ := hgrows.at? hfile
      cases e' with
      | directory entries => cases hkind
      | file content' readOnly' =>
        refine ⟨.file content' readOnly', ?_, rfl⟩
        rw [walkFrom_name _ _ _ hidle hup, if_neg (Nat.not_lt.2 hlimit), he']
        rfl
    · rw [walkFrom_name_directory rest hidle hup hlimit (hgrows.isDirectoryAt hdir)]
      exact ih hrest

theorem LeadsTo.of_grows {root root' : Entry} (hgrows : root.Grows root') {l segments m : List String}
    (h : LeadsTo root l segments m) : LeadsTo root' l segments m := by
  obtain ⟨entries, h⟩ := h
  obtain ⟨e', h', hkind⟩ := walkFrom_found_of_grows hgrows h
  cases e' with
  | file content readOnly => cases hkind
  | directory entries' => exact ⟨entries', h'⟩

/-- A directory made at the free name where a walk ends is where the walk ends from then on. -/
theorem leadsTo_of_vacant {root root' : Entry} (hgrows : root.Grows root') {l m segments : List String}
    {slash : Bool} (hm : root'.isDirectoryAt m = true)
    (h : walkFrom root l segments = .ok (.vacant m slash)) : LeadsTo root' l segments m := by
  induction l, segments using walkInduction with
  | nil l =>
    rw [walkFrom_nil] at h
    split at h <;> cases h
  | idle l segment rest hidle ih =>
    rw [walkFrom_idle _ _ _ hidle] at h
    exact (leadsTo_idle hidle).2 (ih h)
  | up l rest ih =>
    rw [walkFrom_up] at h
    exact leadsTo_up.2 (ih h)
  | name l segment rest hidle hup ih =>
    rw [leadsTo_name hidle hup]
    obtain ⟨hlimit, ⟨-, hslashes, hplace⟩ | ⟨content, readOnly, -, -, hplace⟩ | ⟨hdir, hrest⟩⟩ :=
      walkFrom_name_cases hidle hup h
    · cases hplace
      -- what follows the new directory is nothing but slashes
      have hnothing : rest.filter (!Path.isIdle ·) = [] := by
        rw [List.filter_eq_nil_iff]
        intro s hs
        have hs' := List.all_eq_true.1 hslashes s hs
        simp_all [Path.isIdle]
      refine ⟨hlimit, hm, ?_⟩
      rw [← leadsTo_filter, hnothing, leadsTo_nil]
      exact ⟨rfl, hm⟩
    · cases hplace
    · exact ⟨hlimit, hgrows.isDirectoryAt hdir, ih hrest⟩

/-- A file put at the free name where a walk ends is where the walk ends from then on. -/
theorem walkFrom_found_of_vacant {root root' : Entry} (hgrows : root.Grows root')
    {l m segments : List String} {content : ByteArray} {readOnly : Bool}
    (hm : root'.at? m = some (.file content readOnly))
    (h : walkFrom root l segments = .ok (.vacant m false)) :
    walkFrom root' l segments = .ok (.found m (.file content readOnly)) := by
  induction l, segments using walkInduction with
  | nil l =>
    rw [walkFrom_nil] at h
    split at h <;> cases h
  | idle l segment rest hidle ih =>
    rw [walkFrom_idle _ _ _ hidle] at h ⊢
    exact ih h
  | up l rest ih =>
    rw [walkFrom_up] at h ⊢
    exact ih h
  | name l segment rest hidle hup ih =>
    obtain ⟨hlimit, ⟨-, -, hplace⟩ | ⟨content, readOnly, -, -, hplace⟩ | ⟨hdir, hrest⟩⟩ :=
      walkFrom_name_cases hidle hup h
    · -- no slash follows the name, so the walk is at its end
      obtain ⟨rfl, rfl⟩ : m = l ++ [segment] ∧ rest = [] := by simpa using hplace
      rw [walkFrom_name _ _ _ hidle hup, if_neg (Nat.not_lt.2 hlimit), hm]
      rfl
    · cases hplace
    · rw [walkFrom_name_directory rest hidle hup hlimit (hgrows.isDirectoryAt hdir)]
      exact ih hrest

end FileTree

end Faceting
