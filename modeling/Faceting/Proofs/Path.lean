import Faceting.Path
import Faceting.Proofs.Basic

/-!
# Spellings of paths

A path is walked segment by segment, and idle segments do not count. So two spellings lead to the same
place if they start at the same place and have the same segments that count (`Path.Alike`).

* A file below a directory has one segment more than the directory (`Path.exists_segments_join`), and the
  directory that holds it is spelled like that directory (`Path.directory_steps`,
  `Path.alike_directory_join`).
* Spellings with the same components are alike (`Path.alike_of_same`).
-/

namespace Faceting

/-! ### Segments -/

namespace Path

theorem toList_segments (p : Path) : p.segments.map String.toList = Text.splitOn '/' p.text.toList := by
  simp [segments, Function.comp_def]

theorem segments_eq_iff {p : Path} {segments : List String} :
    p.segments = segments ↔ Text.splitOn '/' p.text.toList = segments.map String.toList := by
  rw [← toList_segments]
  exact (List.map_inj_right fun _ _ h => String.toList_inj.1 h).symm

theorem segments_joinWith {segments : List String} (hne : segments ≠ [])
    (h : ∀ segment ∈ segments, '/' ∉ segment.toList) :
    (⟨Text.joinWith "/" segments⟩ : Path).segments = segments :=
  segments_eq_iff.2 (Text.splitOn_joinWith hne h)

theorem notMem_of_mem_segments {p : Path} {segment : String} (h : segment ∈ p.segments) :
    '/' ∉ segment.toList := by
  obtain ⟨piece, hpiece, rfl⟩ := List.mem_map.1 h
  rw [String.toList_ofList]
  exact Text.notMem_of_mem_splitOn hpiece

theorem segments_of_notMem {p : Path} (h : '/' ∉ p.text.toList) : p.segments = [p.text] :=
  segments_eq_iff.2 (Text.splitOn_of_notMem h)

theorem segments_ne_nil (p : Path) : p.segments ≠ [] := by
  simpa [segments] using Text.splitOn_ne_nil '/' p.text.toList

/-- A path starts at the root if and only if something stands behind an empty first segment. -/
theorem isAbsolute_iff {p : Path} :
    p.isAbsolute = true ↔ ∃ rest, rest ≠ [] ∧ p.segments = "" :: rest := by
  unfold isAbsolute
  cases htext : p.text.toList with
  | nil =>
    have hsegments : p.segments = [""] := segments_eq_iff.2 (by rw [htext]; rfl)
    simp [hsegments]
  | cons c cs =>
    by_cases hc : c = '/'
    · subst hc
      refine ⟨fun _ => ⟨(Text.splitOn '/' cs).map String.ofList, ?_, ?_⟩, fun _ => by simp⟩
      · simpa using Text.splitOn_ne_nil '/' cs
      · refine segments_eq_iff.2 ?_
        rw [htext, Text.splitOn]
        simp [Function.comp_def]
    · have hhead : ∀ rest, p.segments ≠ "" :: rest := by
        intro rest hrest
        rw [segments_eq_iff, htext, Text.splitOn, if_neg hc] at hrest
        split at hrest <;> simp at hrest
      simp [hc, hhead]

theorem text_eq_empty_iff {p : Path} : p.text = "" ↔ p.segments = [""] := by
  constructor
  · intro h
    exact segments_eq_iff.2 (by rw [h]; rfl)
  · intro h
    rw [segments_eq_iff] at h
    cases htext : p.text.toList with
    | nil => exact String.toList_eq_nil_iff.1 htext
    | cons c cs =>
      rw [htext, Text.splitOn] at h
      split at h
      · have hcs := Text.splitOn_ne_nil '/' cs
        simp_all
      · split at h <;> simp at h

/-! ### Spellings -/

/-- The segments of a path that count. -/
def steps (p : Path) : List String :=
  p.segments.filter (!isIdle ·)

/-- Two spellings that start at the same place and have the same segments that count. -/
structure Alike (p q : Path) : Prop where
  empty : p.text = "" ↔ q.text = ""
  absolute : p.isAbsolute = q.isAbsolute
  steps : p.steps = q.steps

theorem Alike.symm {p q : Path} (h : p.Alike q) : q.Alike p :=
  ⟨h.empty.symm, h.absolute.symm, h.steps.symm⟩

/-- A zero character stands in a segment that counts. -/
theorem mem_zero_iff {p : Path} : '\x00' ∈ p.text.toList ↔ ∃ step ∈ p.steps, '\x00' ∈ step.toList := by
  rw [Text.mem_iff_mem_splitOn (by decide : '\x00' ≠ '/'), ← toList_segments]
  constructor
  · rintro ⟨piece, hpiece, hzero⟩
    obtain ⟨segment, hsegment, rfl⟩ := List.mem_map.1 hpiece
    refine ⟨segment, List.mem_filter.2 ⟨hsegment, ?_⟩, hzero⟩
    cases hidle : isIdle segment with
    | false => rfl
    | true =>
      have hsegment : segment = "" ∨ segment = "." := by simpa [isIdle] using hidle
      rcases hsegment with rfl | rfl <;> simp at hzero
  · rintro ⟨step, hstep, hzero⟩
    exact ⟨step.toList, List.mem_map_of_mem (List.mem_filter.1 hstep).1, hzero⟩

/-- The segment that a component stands for, if it counts. -/
def Component.step? : Component → Option String
  | .root => none
  | .here => none
  | .up => some ".."
  | .name text => some text

theorem Component.step?_ofSegment (segment : String) : (ofSegment segment).step? = some segment := by
  unfold ofSegment
  split
  · rename_i h
    rw [h]
    rfl
  · rfl

theorem Component.filterMap_step? (segments : List String) :
    (segments.map ofSegment).filterMap step? = segments := by
  have hstep : step? ∘ ofSegment = some := funext step?_ofSegment
  rw [List.filterMap_map, hstep, List.filterMap_some]

/-- The components of a path tell which of its segments count, and where it starts. -/
theorem components_spec (p : Path) :
    p.steps = p.components.filterMap Component.step? ∧
      (p.isAbsolute = true ↔ p.components.head? = some .root) ∧ (p.text = "" ↔ p.components = []) := by
  cases hsegments : p.segments with
  | nil => exact absurd hsegments p.segments_ne_nil
  | cons first rest =>
    have hempty : p.text = "" ↔ first = "" ∧ rest = [] := by
      rw [text_eq_empty_iff, hsegments]
      simp
    have habsolute : p.isAbsolute = true ↔ first = "" ∧ rest ≠ [] := by
      rw [isAbsolute_iff, hsegments]
      grind
    rw [hempty]
    unfold steps components
    rw [hsegments]
    by_cases hfirst : first = ""
    · subst hfirst
      by_cases hrest : rest = []
      · have hrelative : p.isAbsolute = false := by simpa [hrest] using habsolute
        simp [hrest, hrelative, isIdle]
      · have hroot : p.isAbsolute = true := habsolute.2 ⟨rfl, hrest⟩
        simp only [if_true, hroot, List.filterMap_cons, Component.step?, Component.filterMap_step?]
        simp [hrest, isIdle]
    · have hrelative : p.isAbsolute = false := by simpa [hfirst] using habsolute
      by_cases hdot : first = "."
      · subst hdot
        simp only [if_neg hfirst, if_true, hrelative, List.filterMap_cons, Component.step?,
          Component.filterMap_step?]
        simp [isIdle]
      · have hne : Component.ofSegment first ≠ .root := by
          unfold Component.ofSegment
          split <;> simp
        simp only [if_neg hfirst, if_neg hdot, hrelative, List.filterMap_cons, Component.step?_ofSegment,
          Component.filterMap_step?]
        simp [hfirst, hdot, hne, isIdle]

theorem alike_of_same {p q : Path} (h : p.same q = true) : p.Alike q := by
  have hcomponents : p.components = q.components := by simpa [same] using h
  obtain ⟨hp, hpa, hpe⟩ := p.components_spec
  obtain ⟨hq, hqa, hqe⟩ := q.components_spec
  rw [hcomponents] at hp hpa hpe
  exact ⟨hpe.trans hqe.symm, Bool.eq_iff_iff.2 (hpa.trans hqa.symm), hp.trans hq.symm⟩

/-! ### Files below a directory -/

theorem filter_dropTrailing {α : Type} {test keep : α → Bool} (h : ∀ x, test x = true → keep x = false)
    (xs : List α) : (dropTrailing test xs).filter keep = xs.filter keep := by
  have key : ∀ ys : List α, (ys.dropWhile test).filter keep = ys.filter keep := by
    intro ys
    induction ys with
    | nil => rfl
    | cons y ys ih =>
      by_cases hy : test y = true
      · rw [List.dropWhile_cons_of_pos hy, ih, List.filter_cons_of_neg (by simp [h y hy])]
      · rw [List.dropWhile_cons_of_neg hy]
  rw [dropTrailing, List.filter_reverse, key, ← List.filter_reverse, List.reverse_reverse]

theorem dropTrailing_concat {α : Type} {test : α → Bool} (xs : List α) {x : α} (h : test x = false) :
    dropTrailing test (xs ++ [x]) = xs ++ [x] := by
  simp [dropTrailing, h]

theorem dropTrailing_subset {α : Type} {test : α → Bool} {xs : List α} {x : α}
    (h : x ∈ dropTrailing test xs) : x ∈ xs := by
  have := (List.dropWhile_sublist test).subset (List.mem_reverse.1 h)
  exact List.mem_reverse.1 this

/-- A name that is one segment of a path and counts as such. -/
structure Plain (name : String) : Prop where
  noSlash : '/' ∉ name.toList
  noZero : '\x00' ∉ name.toList
  notIdle : isIdle name = false
  notUp : name ≠ ".."

theorem Plain.ne_empty {name : String} (h : Plain name) : name ≠ "" := by
  rintro rfl
  exact absurd h.notIdle (by decide)

theorem Plain.segments {name : String} (h : Plain name) : (⟨name⟩ : Path).segments = [name] :=
  segments_of_notMem h.noSlash

theorem Plain.isAbsolute {name : String} (h : Plain name) : (⟨name⟩ : Path).isAbsolute = false := by
  cases habs : (⟨name⟩ : Path).isAbsolute with
  | false => rfl
  | true =>
    obtain ⟨rest, -, hrest⟩ := isAbsolute_iff.1 habs
    rw [h.segments] at hrest
    exact absurd (List.cons.inj hrest).1 h.ne_empty

section
variable {dir : Path} {name : String}

theorem join_of_empty (hdir : dir.text = "") : dir.join ⟨name⟩ = ⟨name⟩ := by
  simp [join, hdir]

/-- A file below a directory has the segments of the directory, but perhaps for a slash at its end, and
its own name. -/
theorem exists_segments_join (hdir : dir.text ≠ "") (hname : Plain name) :
    ∃ first more, (dir.join ⟨name⟩).segments = first :: (more ++ [name]) ∧
      (first :: more).filter (!isIdle ·) = dir.steps := by
  have hjoin : dir.join ⟨name⟩ =
      if dir.text.toList.getLast? = some '/' then ⟨dir.text ++ name⟩ else ⟨dir.text ++ "/" ++ name⟩ := by
    simp [join, hdir, hname.isAbsolute]
  have hpieces := Text.splitOn_of_notMem hname.noSlash
  split at hjoin
  · rename_i hlast
    obtain ⟨cs, hcs⟩ := List.getLast?_eq_some_iff.1 hlast
    obtain ⟨first, more, hmore⟩ := List.exists_cons_of_ne_nil
      (fun h => Text.splitOn_ne_nil '/' cs (List.map_eq_nil_iff.1 h) :
        (Text.splitOn '/' cs).map String.ofList ≠ [])
    have hsegments : dir.segments = first :: (more ++ [""]) := by
      rw [← List.cons_append, ← hmore, segments, hcs, Text.splitOn_append_sep]
      simp [Text.splitOn]
    refine ⟨first, more, ?_, ?_⟩
    · rw [hjoin, segments, String.toList_append, hcs, List.append_assoc, List.singleton_append,
        Text.splitOn_append_sep, hpieces, List.map_append, hmore]
      simp
    · rw [steps, hsegments, ← List.cons_append, List.filter_append]
      simp [isIdle]
  · obtain ⟨first, more, hmore⟩ := List.exists_cons_of_ne_nil dir.segments_ne_nil
    refine ⟨first, more, ?_, by rw [steps, hmore]⟩
    rw [hjoin, segments, String.toList_append, String.toList_append, List.append_assoc]
    show (Text.splitOn '/' (dir.text.toList ++ '/' :: name.toList)).map String.ofList = _
    rw [Text.splitOn_append_sep, hpieces, List.map_append, ← List.cons_append, ← hmore, segments]
    simp

theorem isAbsolute_join (hdir : dir.text ≠ "") (hname : Plain name) :
    (dir.join ⟨name⟩).isAbsolute = dir.isAbsolute := by
  have hcs : dir.text.toList ≠ [] := fun h => hdir (String.toList_eq_nil_iff.1 h)
  obtain ⟨c, cs, hcs⟩ := List.exists_cons_of_ne_nil hcs
  unfold join
  rw [if_neg (by simp [hdir, hname.isAbsolute])]
  split <;> simp [isAbsolute, hcs]

/-- A file that is not below a directory has no directory. -/
theorem directory_plain (hname : Plain name) : (⟨name⟩ : Path).directory.text = "" := by
  simp [directory, parent?, hname.segments, dropTrailing, hname.ne_empty]

/-- The directory of a file, as it is spelled: idle segments at its end are gone. -/
theorem directory_of_segments {p : Path} {first : String} {more : List String} (hname : Plain name)
    (h : p.segments = first :: (more ++ [name])) :
    p.directory = if p.isAbsolute then ⟨"/" ++ Text.joinWith "/" (dropTrailing isIdle more)⟩
      else ⟨Text.joinWith "/" (first :: dropTrailing isIdle more)⟩ := by
  unfold directory parent?
  simp only [h, dropTrailing_concat more hname.notIdle, List.dropLast_concat]
  cases hempty : (more ++ [name]).isEmpty with
  | true => simp at hempty
  | false =>
    simp only [Bool.false_eq_true, if_false]
    split <;> rfl

theorem steps_root {segments : List String} (h : ∀ segment ∈ segments, '/' ∉ segment.toList) :
    (⟨"/" ++ Text.joinWith "/" segments⟩ : Path).steps = segments.filter (!isIdle ·) := by
  have hroot : (⟨"/" ++ Text.joinWith "/" segments⟩ : Path).segments
      = "" :: (⟨Text.joinWith "/" segments⟩ : Path).segments := by
    unfold Path.segments
    rw [String.toList_append]
    show (Text.splitOn '/' ('/' :: (Text.joinWith "/" segments).toList)).map String.ofList = _
    rw [Text.splitOn, if_pos rfl]
    rfl
  rw [steps, hroot, List.filter_cons_of_neg (by decide)]
  cases segments with
  | nil => rfl
  | cons segment rest => rw [segments_joinWith (List.cons_ne_nil _ _) h]

/-- The directory of a file starts where the file does, and has its segments that count but for the last. -/
theorem directory_steps {p : Path} {first : String} {more : List String} (hname : Plain name)
    (h : p.segments = first :: (more ++ [name])) :
    p.directory.text ≠ "" ∧ p.directory.isAbsolute = p.isAbsolute ∧
      p.directory.steps = (first :: more).filter (!isIdle ·) := by
  have hslash : ∀ segment ∈ first :: dropTrailing isIdle more, '/' ∉ segment.toList := by
    intro segment hsegment
    refine notMem_of_mem_segments (p := p) ?_
    rw [h]
    rcases List.mem_cons.1 hsegment with rfl | hmore
    · exact List.mem_cons_self
    · exact List.mem_cons_of_mem _ (List.mem_append_left _ (dropTrailing_subset hmore))
  have hkept : (dropTrailing isIdle more).filter (!isIdle ·) = more.filter (!isIdle ·) :=
    filter_dropTrailing (fun segment hidle => by simp [hidle]) more
  rw [directory_of_segments hname h]
  cases habsolute : p.isAbsolute with
  | true =>
    obtain ⟨rest, -, hroot⟩ := isAbsolute_iff.1 habsolute
    rw [h] at hroot
    obtain rfl : first = "" := (List.cons.inj hroot).1
    simp only [if_true]
    refine ⟨by simp, by simp [isAbsolute], ?_⟩
    rw [steps_root, List.filter_cons_of_neg (by decide), ← hkept]
    exact fun segment hsegment => hslash segment (List.mem_cons_of_mem _ hsegment)
  | false =>
    have hne : first ≠ "" := by
      rintro rfl
      have hroot := isAbsolute_iff.2 ⟨more ++ [name], by simp, h⟩
      simp [habsolute] at hroot
    have hq : (⟨Text.joinWith "/" (first :: dropTrailing isIdle more)⟩ : Path).segments
        = first :: dropTrailing isIdle more := segments_joinWith (List.cons_ne_nil _ _) hslash
    simp only [Bool.false_eq_true, if_false]
    refine ⟨?_, ?_, ?_⟩
    · intro hempty
      rw [text_eq_empty_iff, hq] at hempty
      exact hne (List.cons.inj hempty).1
    · rw [← Bool.not_eq_true, isAbsolute_iff, hq]
      simp [hne]
    · rw [steps, hq, List.filter_cons, List.filter_cons, hkept]

/-- **The directory that holds a file below a directory is spelled like that directory.** -/
theorem alike_directory_join (hdir : dir.text ≠ "") (hname : Plain name) :
    (dir.join ⟨name⟩).directory.Alike dir := by
  obtain ⟨first, more, hsegments, hsteps⟩ := exists_segments_join hdir hname
  obtain ⟨hne, habsolute, hkept⟩ := directory_steps hname hsegments
  exact ⟨by simp [hne, hdir], habsolute.trans (isAbsolute_join hdir hname), hkept.trans hsteps⟩

/-- The last component of a file below a directory is its name. -/
theorem fileName?_join (dir : Path) (hname : Plain name) : (dir.join ⟨name⟩).fileName? = some name := by
  have hcomponent : Component.ofSegment name = .name name := if_neg hname.notUp
  have hidle : (!isIdle name) = true := by simp [hname.notIdle]
  have hlast : ∃ before, (dir.join ⟨name⟩).components = before ++ [.name name] := by
    by_cases hdir : dir.text = ""
    · have hdot : name ≠ "." := by
        rintro rfl
        exact absurd hname.notIdle (by decide)
      refine ⟨[], ?_⟩
      rw [join_of_empty hdir, components, hname.segments]
      simp [hname.ne_empty, hdot, hcomponent]
    · obtain ⟨first, more, hsegments, -⟩ := exists_segments_join hdir hname
      rw [components, hsegments]
      simp only [List.filter_append, List.filter_cons, hidle, if_true, List.filter_nil, List.map_append,
        List.map_cons, List.map_nil, hcomponent]
      split
      · split
        · exact ⟨_ :: _, rfl⟩
        · exact ⟨_, rfl⟩
      · split <;> exact ⟨_ :: _, rfl⟩
  obtain ⟨before, hbefore⟩ := hlast
  simp [fileName?, hbefore]

end

end Path

end Faceting
