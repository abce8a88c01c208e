import Faceting.Files.Tree
import Mathlib.Data.List.Infix

/-!
# What stands where in a file tree

A tree is looked at through its items: what stands at a location, without what is below it
(`Entry.itemAt?`). The central law is `Entry.itemAt?_put`: an entry that is put into a directory is seen
at its location and below, and nothing else changes. From it follow the two changes that programs make,

* `Entry.itemAt?_put_file` — a file put at a free name or in place of a file,
* `Entry.itemAt?_put_directory` — an empty directory put at a free name.

Items do not tell in which order the entries of a directory stand. Where something is put in place of an
entry the order stays, and so the tree itself is told by three laws: putting what is there already changes
nothing (`Entry.put_of_at?`), of two entries that are put at one location the second counts
(`Entry.put_put`), and files that are put in place of files can be put in any order
(`Entry.put_comm`).
-/

namespace Faceting

/-! ### Items -/

/-- A file or a directory, without what is below it. -/
inductive Item where
  | directory
  | file (content : ByteArray) (readOnly : Bool)

namespace Entry

/-- An entry without what is below it. -/
def item : Entry → Item
  | .directory _ => .directory
  | .file content readOnly => .file content readOnly

/-- The item at a location below. -/
def itemAt? (e : Entry) (location : List String) : Option Item :=
  (e.at? location).map item

@[simp]
theorem at?_nil (e : Entry) : e.at? [] = some e := rfl

@[simp]
theorem at?_directory_cons (entries : List (String × Entry)) (name : String) (rest : List String) :
    (Entry.directory entries).at? (name :: rest) = (entries.lookup name).bind (·.at? rest) := rfl

@[simp]
theorem at?_file_cons (content : ByteArray) (readOnly : Bool) (name : String) (rest : List String) :
    (Entry.file content readOnly).at? (name :: rest) = none := rfl

theorem at?_append (e : Entry) (l m : List String) : e.at? (l ++ m) = (e.at? l).bind (·.at? m) := by
  induction l generalizing e with
  | nil => rfl
  | cons name rest ih =>
    cases e with
    | file content readOnly => rfl
    | directory entries =>
      rw [List.cons_append, at?_directory_cons, at?_directory_cons, Option.bind_assoc]
      congr 1
      funext child
      exact ih child

theorem isDirectoryAt_iff {e : Entry} {l : List String} :
    e.isDirectoryAt l = true ↔ ∃ entries, e.at? l = some (.directory entries) := by
  unfold isDirectoryAt
  cases h : e.at? l with
  | none => simp
  | some x => cases x <;> simp [isDirectory]

theorem isDirectoryAt_iff_itemAt? {e : Entry} {l : List String} :
    e.isDirectoryAt l = true ↔ e.itemAt? l = some .directory := by
  unfold isDirectoryAt itemAt?
  cases h : e.at? l with
  | none => simp
  | some x => cases x <;> simp [isDirectory, item]

/-- A file has nothing below it, so its item is all there is. -/
theorem itemAt?_eq_file {e : Entry} {l : List String} {content : ByteArray} {readOnly : Bool} :
    e.itemAt? l = some (.file content readOnly) ↔ e.at? l = some (.file content readOnly) := by
  unfold itemAt?
  cases h : e.at? l with
  | none => simp
  | some x => cases x <;> simp [item]

/-- Whatever has something below it is a directory. -/
theorem isDirectoryAt_of_at?_append {e x : Entry} {l : List String} {name : String}
    {rest : List String} (h : e.at? (l ++ name :: rest) = some x) : e.isDirectoryAt l = true := by
  rw [at?_append, Option.bind_eq_some_iff] at h
  obtain ⟨y, hy, hx⟩ := h
  cases y with
  | file content readOnly => simp at hx
  | directory entries => exact isDirectoryAt_iff.2 ⟨entries, hy⟩

/-- A directory stands below directories only. -/
theorem isDirectoryAt_of_append {e : Entry} {l m : List String}
    (h : e.isDirectoryAt (l ++ m) = true) : e.isDirectoryAt l = true := by
  cases m with
  | nil => simpa using h
  | cons name rest =>
    obtain ⟨entries, hentries⟩ := isDirectoryAt_iff.1 h
    exact isDirectoryAt_of_at?_append hentries

theorem isDirectoryAt_dropLast {e : Entry} {l : List String} (h : e.isDirectoryAt l = true) :
    e.isDirectoryAt l.dropLast = true := by
  rcases List.eq_nil_or_concat l with rfl | ⟨m, name, rfl⟩
  · exact h
  · rw [List.concat_eq_append, List.dropLast_concat]
    rw [List.concat_eq_append] at h
    exact isDirectoryAt_of_append h

/-- Nothing stands below a location that is no directory. -/
theorem itemAt?_append_of_not_directory {e : Entry} {l : List String} {name : String}
    {rest : List String} (h : e.isDirectoryAt l = false) : e.itemAt? (l ++ name :: rest) = none := by
  cases hx : e.at? (l ++ name :: rest) with
  | none => simp [itemAt?, hx]
  | some x =>
    rw [isDirectoryAt_of_at?_append hx] at h
    contradiction

/-! ### Putting entries into a directory -/

@[simp]
theorem lookup_setIn_self (name : String) (new : Entry) (entries : List (String × Entry)) :
    (setIn name new entries).lookup name = some new := by
  induction entries with
  | nil => simp [setIn]
  | cons pair rest ih =>
    obtain ⟨key, old⟩ := pair
    by_cases hkey : key = name
    · simp [setIn, hkey]
    · have hne : (name == key) = false := by simpa using fun h => hkey h.symm
      simp [setIn, hkey, List.lookup_cons, hne, ih]

theorem lookup_setIn_ne {name other : String} (h : other ≠ name) (new : Entry)
    (entries : List (String × Entry)) : (setIn name new entries).lookup other = entries.lookup other := by
  induction entries with
  | nil => simp [setIn, h]
  | cons pair rest ih =>
    obtain ⟨key, old⟩ := pair
    by_cases hkey : key = name
    · have hne : (other == name) = false := by simpa using h
      simp [setIn, hkey, List.lookup_cons, hne]
    · simp [setIn, hkey, List.lookup_cons, ih]

theorem put_singleton (new : Entry) (name : String) (entries : List (String × Entry)) :
    put new [name] (.directory entries) = .directory (setIn name new entries) := by
  simp [put]

/-- What is put below an entry of a directory is put into that entry. -/
theorem put_cons (new : Entry) {name : String} (rest : List String) {entries : List (String × Entry)}
    {child : Entry} (h : entries.lookup name = some child) :
    put new (name :: rest) (.directory entries) = .directory (setIn name (put new rest child) entries) := by
  cases rest with
  | nil => simp [put]
  | cons second rest => simp [put, h]

/-- **An entry that is put into a directory is seen at its location and below; all other locations show
what they showed before.** -/
theorem itemAt?_put (new : Entry) {parent : List String} (name : String) {e : Entry}
    (h : e.isDirectoryAt parent = true) (l : List String) :
    (put new (parent ++ [name]) e).itemAt? l
      = if parent ++ [name] <+: l then new.itemAt? (l.drop (parent.length + 1)) else e.itemAt? l := by
  induction parent generalizing e l with
  | nil =>
    obtain ⟨entries, he⟩ := isDirectoryAt_iff.1 h
    obtain rfl : e = .directory entries := by simpa using he
    rw [List.nil_append, put_singleton]
    cases l with
    | nil => simp [itemAt?, item]
    | cons first rest =>
      by_cases hfirst : first = name
      · simp [hfirst, itemAt?]
      · have hne : ¬ name = first := fun hn => hfirst hn.symm
        simp [itemAt?, lookup_setIn_ne hfirst, hne]
  | cons above parent ih =>
    cases e with
    | file content readOnly => simp [isDirectoryAt] at h
    | directory entries =>
      -- the directory above holds the child that the entry is put into
      obtain ⟨inner, hinner⟩ := isDirectoryAt_iff.1 h
      rw [at?_directory_cons, Option.bind_eq_some_iff] at hinner
      obtain ⟨child, hchild, hat⟩ := hinner
      have hput : put new (above :: parent ++ [name]) (.directory entries)
          = .directory (setIn above (put new (parent ++ [name]) child) entries) :=
        put_cons new (parent ++ [name]) hchild
      rw [hput]
      cases l with
      | nil => simp [itemAt?, item]
      | cons first rest =>
        by_cases hfirst : first = above
        · have hih := ih (isDirectoryAt_iff.2 ⟨inner, hat⟩) rest
          simp only [itemAt?] at hih
          simp [hfirst, itemAt?, hchild, hih]
        · have hne : ¬ above = first := fun hn => hfirst hn.symm
          simp [itemAt?, lookup_setIn_ne hfirst, hne]

/-- Below a location that is no directory, an entry without anything below it changes nothing. -/
theorem itemAt?_put_leaf {new : Entry} {parent : List String} {name : String} {e : Entry}
    (hparent : e.isDirectoryAt parent = true) (hname : e.isDirectoryAt (parent ++ [name]) = false)
    (hnew : ∀ first rest, new.itemAt? (first :: rest) = none) (l : List String) :
    (put new (parent ++ [name]) e).itemAt? l
      = if l = parent ++ [name] then some new.item else e.itemAt? l := by
  rw [itemAt?_put new name hparent l]
  by_cases hprefix : parent ++ [name] <+: l
  · obtain ⟨rest, rfl⟩ := hprefix
    have hdrop : (parent ++ [name] ++ rest).drop (parent.length + 1) = rest := by
      rw [← List.length_singleton (a := name), ← List.length_append, List.drop_left]
    rw [if_pos (List.prefix_append _ _), hdrop]
    cases rest with
    | nil => simp [itemAt?]
    | cons first rest =>
      rw [hnew first rest, itemAt?_append_of_not_directory hname]
      simp
  · rw [if_neg hprefix, if_neg]
    rintro rfl
    exact hprefix (List.prefix_refl _)

theorem itemAt?_put_file {parent : List String} {name : String} {e : Entry} (content : ByteArray)
    (readOnly : Bool) (hparent : e.isDirectoryAt parent = true)
    (hname : e.isDirectoryAt (parent ++ [name]) = false) (l : List String) :
    (put (.file content readOnly) (parent ++ [name]) e).itemAt? l
      = if l = parent ++ [name] then some (.file content readOnly) else e.itemAt? l :=
  itemAt?_put_leaf hparent hname (fun _ _ => rfl) l

theorem itemAt?_put_directory {parent : List String} {name : String} {e : Entry}
    (hparent : e.isDirectoryAt parent = true) (hname : e.at? (parent ++ [name]) = none)
    (l : List String) :
    (put (.directory []) (parent ++ [name]) e).itemAt? l
      = if l = parent ++ [name] then some .directory else e.itemAt? l := by
  refine itemAt?_put_leaf hparent ?_ (fun _ _ => rfl) l
  simp [isDirectoryAt, hname]

/-! ### Putting entries in place of others -/

theorem setIn_of_lookup {name : String} {e : Entry} {entries : List (String × Entry)}
    (h : entries.lookup name = some e) : setIn name e entries = entries := by
  induction entries with
  | nil => cases h
  | cons pair rest ih =>
    obtain ⟨key, old⟩ := pair
    by_cases hkey : key = name
    · subst hkey
      simp only [List.lookup_cons, beq_self_eq_true, Option.some.injEq] at h
      simp [setIn, h]
    · have hne : (name == key) = false := by simpa using fun hn => hkey hn.symm
      rw [List.lookup_cons, hne] at h
      simp [setIn, hkey, ih h]

theorem setIn_setIn (name : String) (new old : Entry) (entries : List (String × Entry)) :
    setIn name new (setIn name old entries) = setIn name new entries := by
  induction entries with
  | nil => simp [setIn]
  | cons pair rest ih =>
    obtain ⟨key, e⟩ := pair
    by_cases hkey : key = name
    · simp [setIn, hkey]
    · simp [setIn, hkey, ih]

/-- Entries can be set in any order, if one of them is there: the others are added at the end. -/
theorem setIn_comm {name other : String} (hne : name ≠ other) (new new' : Entry)
    {entries : List (String × Entry)} (h : entries.lookup name ≠ none) :
    setIn name new (setIn other new' entries) = setIn other new' (setIn name new entries) := by
  induction entries with
  | nil => exact absurd rfl h
  | cons pair rest ih =>
    obtain ⟨key, e⟩ := pair
    by_cases hname : key = name
    · subst hname
      simp [setIn, hne]
    · by_cases hother : key = other
      · subst hother
        simp [setIn, hname]
      · have hkey : (name == key) = false := by simpa using fun hn => hname hn.symm
        rw [List.lookup_cons, hkey] at h
        simp [setIn, hname, hother, ih h]

theorem exists_child_of_at? {e x : Entry} {name : String} {rest : List String}
    (h : e.at? (name :: rest) = some x) :
    ∃ entries child, e = .directory entries ∧ entries.lookup name = some child ∧
      child.at? rest = some x := by
  cases e with
  | file content readOnly => cases h
  | directory entries =>
    rw [at?_directory_cons, Option.bind_eq_some_iff] at h
    obtain ⟨child, hchild, hat⟩ := h
    exact ⟨entries, child, rfl, hchild, hat⟩

/-- Putting what is there already changes nothing. -/
theorem put_of_at? {e x : Entry} {l : List String} (h : e.at? l = some x) : put x l e = e := by
  induction l generalizing e with
  | nil =>
    rw [at?_nil, Option.some.injEq] at h
    rw [h, put]
  | cons name rest ih =>
    obtain ⟨entries, child, rfl, hchild, hat⟩ := exists_child_of_at? h
    rw [put_cons x rest hchild, ih hat, setIn_of_lookup hchild]

/-- Of two entries that are put at a location where something is the second counts. -/
theorem put_put (new old : Entry) {e x : Entry} {l : List String} (h : e.at? l = some x) :
    put new l (put old l e) = put new l e := by
  induction l generalizing e with
  | nil => simp [put]
  | cons name rest ih =>
    obtain ⟨entries, child, rfl, hchild, hat⟩ := exists_child_of_at? h
    rw [put_cons old rest hchild, put_cons new rest hchild,
      put_cons new rest (lookup_setIn_self name _ entries), setIn_setIn, ih hat]

/-- **What is put in place of different files can be put in any order.** -/
theorem put_comm (new new' : Entry) {e : Entry} {l m : List String} (hne : l ≠ m)
    {content content' : ByteArray} {readOnly readOnly' : Bool}
    (hl : e.at? l = some (.file content readOnly)) (hm : e.at? m = some (.file content' readOnly')) :
    put new l (put new' m e) = put new' m (put new l e) := by
  induction l generalizing m e with
  | nil =>
    rw [at?_nil, Option.some.injEq] at hl
    subst hl
    cases m with
    | nil => exact absurd rfl hne
    | cons name rest => cases hm
  | cons name rest ih =>
    obtain ⟨entries, child, rfl, hchild, hat⟩ := exists_child_of_at? hl
    cases m with
    | nil => cases hm
    | cons name' rest' =>
      obtain ⟨_, child', heq, hchild', hat'⟩ := exists_child_of_at? hm
      cases heq
      rw [put_cons new' rest' hchild', put_cons new rest hchild]
      by_cases hname : name = name'
      · subst hname
        obtain rfl : child = child' := Option.some.inj (hchild.symm.trans hchild')
        have hrest : rest ≠ rest' := fun hrest => hne (congrArg (name :: ·) hrest)
        rw [put_cons new rest (lookup_setIn_self name _ entries),
          put_cons new' rest' (lookup_setIn_self name _ entries), setIn_setIn, setIn_setIn,
          ih hrest hat hat']
      · rw [put_cons new rest ((lookup_setIn_ne hname _ entries).trans hchild),
          put_cons new' rest' ((lookup_setIn_ne (Ne.symm hname) _ entries).trans hchild'),
          setIn_comm hname _ _ (by simp [hchild])]

end Entry

end Faceting
