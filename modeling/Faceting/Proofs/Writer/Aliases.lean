import Faceting.Proofs.Files.Resolution
import Faceting.Proofs.Writer.Written
import Mathlib.Data.List.Pairwise

/-!
# Paths of a batch that lead to the same place

The paths of a batch are compared by their components, but files are put where the paths lead. There are
no links in a tree, so where a path leads can be told from its components (`Path.destination`), and the
two ways of comparing paths can be set side by side.

* Paths with the same components lead to the same place. The converse holds for paths that start at the
  same place and go straight down (`Path.same_of_destination_eq`), and not for others: a dot at the
  beginning is a component of its own, and a double dot takes back the name before it.
* At the path of a file that was put in place the last file of the batch for that place is read
  (`FileTree.Written.exists_last`), and so files of a batch are lost exactly if different contents are
  meant for one place (`FileTree.Written.read_iff`).

The main statement is `Writer.writeAll_readBack`. It has no exception: what is read at the paths of a batch
is told also where files are lost, as in `Writer.writeAll_dotted_lost`.
-/

namespace Faceting

/-! ### Destinations -/

namespace Path

/-- Where a component leads from a location. -/
def Component.follow (l : List String) : Component → List String
  | .root => []
  | .here => l
  | .up => l.dropLast
  | .name text => l ++ [text]

/-- The location that a path stands for, where paths start at a working directory. -/
def destination (working : List String) (p : Path) : List String :=
  p.components.foldl Component.follow working

/-- Segments and the components that they stand for lead to the same location. -/
theorem foldl_follow_ofSegment (l segments : List String) :
    ((segments.filter (!isIdle ·)).map Component.ofSegment).foldl Component.follow l
      = FileTree.resolve l segments := by
  induction l, segments using FileTree.walkInduction with
  | nil l => rfl
  | idle l segment rest hidle ih =>
    rw [FileTree.resolve_idle l rest hidle, List.filter_cons_of_neg (by simp [hidle])]
    exact ih
  | up l rest ih =>
    rw [FileTree.resolve_up, List.filter_cons_of_pos (by decide)]
    exact ih
  | name l segment rest hidle hup ih =>
    have hname : Component.ofSegment segment = .name segment := if_neg hup
    rw [FileTree.resolve_name l rest hidle hup, List.filter_cons_of_pos (by simp [hidle]),
      List.map_cons, hname]
    exact ih

/-- Only a path whose first segment is empty starts at the root. -/
theorem isAbsolute_of_segments {p : Path} {first : String} {rest : List String}
    (h : p.segments = first :: rest) (hfirst : first ≠ "") : p.isAbsolute = false := by
  rw [← Bool.not_eq_true, isAbsolute_iff, h]
  simp [hfirst]

/-! ### Straight paths -/

/-- A path that only goes down: it does not begin with a dot and has no double dot. -/
def IsStraight (p : Path) : Prop :=
  .here ∉ p.components ∧ .up ∉ p.components

/-- Segments that do not lead up are names. -/
theorem map_ofSegment {segments : List String} (h : .up ∉ segments.map Component.ofSegment) :
    segments.map Component.ofSegment = segments.map Component.name := by
  apply List.map_congr_left
  intro segment hsegment
  apply if_neg
  intro hup
  apply h
  rw [List.mem_map]
  exact ⟨segment, hsegment, if_pos hup⟩

/-- A straight path is told by where it starts and the names that follow. -/
theorem IsStraight.components {p : Path} (h : p.IsStraight) :
    p.components = (if p.isAbsolute then [.root] else []) ++ p.steps.map Component.name := by
  obtain ⟨hhere, hup⟩ := h
  revert hhere hup
  unfold Path.components steps
  cases hsegments : p.segments with
  | nil => exact absurd hsegments p.segments_ne_nil
  | cons first rest =>
    intro hhere hup
    by_cases hempty : first = ""
    · subst hempty
      rw [List.filter_cons_of_neg (by decide)]
      cases habsolute : p.isAbsolute with
      | true =>
        simp only [habsolute, if_true, List.mem_cons, not_or] at hup
        simp [map_ofSegment hup.2]
      | false =>
        simp only [habsolute, if_true, Bool.false_eq_true, if_false] at hup
        simp [map_ofSegment hup]
    · have hrelative := isAbsolute_of_segments hsegments hempty
      by_cases hdot : first = "."
      · simp [hdot] at hhere
      · have hidle : isIdle first = false := by simp [isIdle, hempty, hdot]
        simp only [hempty, hdot, if_false] at hup ⊢
        rw [← List.map_cons] at hup ⊢
        rw [map_ofSegment hup, hrelative, List.filter_cons_of_pos (by simp [hidle])]
        rfl

theorem foldl_follow_name (l names : List String) :
    (names.map Component.name).foldl Component.follow l = l ++ names := by
  induction names generalizing l with
  | nil => simp
  | cons name rest ih =>
    rw [List.map_cons, List.foldl_cons, ih]
    simp [Component.follow]

theorem IsStraight.destination {p : Path} (h : p.IsStraight) (working : List String) :
    p.destination working = (if p.isAbsolute then [] else working) ++ p.steps := by
  unfold Path.destination
  rw [h.components, List.foldl_append, foldl_follow_name]
  split <;> rfl

/-- **Straight paths that start at the same place have the same components if they lead to the same
place.** -/
theorem same_of_destination_eq {p q : Path} (hp : p.IsStraight) (hq : q.IsStraight)
    (habsolute : p.isAbsolute = q.isAbsolute) {working : List String}
    (h : p.destination working = q.destination working) : p.same q = true := by
  rw [hp.destination, hq.destination, habsolute] at h
  have hsteps : p.steps = q.steps := List.append_cancel_left h
  unfold same
  rw [hp.components, hq.components, habsolute, hsteps]
  exact beq_self_eq_true _

end Path

namespace FileTree

/-- Where a walk along a path ends can be told from the components of the path. -/
theorem resolve_origin (t : FileTree) (p : Path) :
    resolve (t.origin p) p.segments = p.destination t.working := by
  unfold Path.destination Path.components origin
  cases hsegments : p.segments with
  | nil => exact absurd hsegments p.segments_ne_nil
  | cons first rest =>
    have hrest := Path.foldl_follow_ofSegment t.working rest
    by_cases hempty : first = ""
    · subst hempty
      rw [resolve_idle _ rest (by decide)]
      cases p.isAbsolute with
      | true => exact (Path.foldl_follow_ofSegment [] rest).symm
      | false => exact hrest.symm
    · have hrelative := Path.isAbsolute_of_segments hsegments hempty
      by_cases hdot : first = "."
      · subst hdot
        rw [hrelative, resolve_idle _ rest (by decide)]
        exact hrest.symm
      · have hidle : Path.isIdle first = false := by simp [Path.isIdle, hempty, hdot]
        have hall := Path.foldl_follow_ofSegment t.working (first :: rest)
        rw [List.filter_cons_of_pos (by simp [hidle])] at hall
        simp only [hrelative, hempty, hdot, if_false]
        exact hall.symm

theorem target_eq_destination {t : FileTree} {p : Path} {l : List String} (h : t.target p = .ok l) :
    l = p.destination t.working := by
  rw [← resolve_origin]
  exact target_eq_resolve h

namespace Written

variable {files : List PendingFile} {t t' : FileTree} {f : PendingFile}

/-- A file is put at the destination of its path. -/
theorem target_destination (h : Written files t t') (hf : f ∈ files) :
    t'.target f.path = .ok (f.path.destination t.working) := by
  obtain ⟨l, -, -, htarget, -⟩ := h.placed f hf
  rw [htarget, ← h.grows.working, ← target_eq_destination htarget]

/-- **At the place of a file is the last file for that place.** -/
theorem exists_last (h : Written files t t') (hf : f ∈ files) :
    ∃ before g after, files = before ++ g :: after ∧
      g.path.destination t.working = f.path.destination t.working ∧
      (∀ x ∈ after, x.path.destination t.working ≠ f.path.destination t.working) ∧
      t'.itemAt? (f.path.destination t.working) = some (.file g.content.toUTF8 false) := by
  have hplace : ∀ x ∈ files, t'.target x.path = .ok (f.path.destination t.working) ↔
      x.path.destination t.working = f.path.destination t.working := by
    intro x hx
    rw [h.target_destination hx]
    simp
  cases hlast : t'.lastAt? files (f.path.destination t.working) with
  | none => exact absurd (h.target_destination hf) (lastAt?_eq_none.1 hlast f hf)
  | some g =>
    have hitem : t'.itemAt? (f.path.destination t.working) = some (.file g.content.toUTF8 false) := by
      rw [h.file, hlast]
      exact ⟨rfl, rfl⟩
    obtain ⟨hg, hgl⟩ := lastAt?_eq_some hlast
    unfold lastAt? at hlast
    rw [List.find?_eq_some_iff_append] at hlast
    obtain ⟨-, later, earlier, hfiles, hlater⟩ := hlast
    have hsplit : files = earlier.reverse ++ g :: later.reverse := by
      rw [← List.reverse_reverse files, hfiles]
      simp
    refine ⟨earlier.reverse, g, later.reverse, hsplit, (hplace g hg).1 hgl, ?_, hitem⟩
    intro x hx hxl
    have hmem : x ∈ files := by simp [hsplit, List.mem_reverse.1 hx]
    have hne := hlater x (List.mem_reverse.1 hx)
    simp [(hplace x hmem).2 hxl] at hne

/-- **All files can be read back if and only if files for the same place have the same content.** -/
theorem read_iff (h : Written files t t') :
    (∀ f ∈ files, t'.read f.path = .ok f.content.toUTF8) ↔
      ∀ f ∈ files, ∀ g ∈ files, f.path.destination t.working = g.path.destination t.working →
        f.content = g.content := by
  constructor
  · intro hread f hf g hg hfg
    obtain ⟨_, x, _, -, -, -, hitem⟩ := h.exists_last hf
    have hfirst := read_of_target (h.target_destination hf) hitem
    have hsecond := read_of_target (h.target_destination hg) (hfg ▸ hitem)
    rw [hread f hf, ← hsecond, hread g hg] at hfirst
    exact String.toByteArray_inj.1 (Except.ok.inj hfirst)
  · intro hcontent f hf
    obtain ⟨before, g, after, hfiles, hdestination, -, hitem⟩ := h.exists_last hf
    have hg : g ∈ files := by simp [hfiles]
    rw [read_of_target (h.target_destination hf) hitem, hcontent g hg f hf hdestination]

end Written

end FileTree

/-! ### Batches -/

namespace Writer

open FileTree

/-- Files with paths that differ, which start at the same place and only go down, are meant for different
places. -/
theorem content_eq_of_straight {files : List PendingFile}
    (hdistinct : files.Pairwise fun f g => f.path.same g.path = false)
    (hstraight : ∀ f ∈ files, f.path.IsStraight)
    (hstart : ∀ f ∈ files, ∀ g ∈ files, f.path.isAbsolute = g.path.isAbsolute) {working : List String} :
    ∀ f ∈ files, ∀ g ∈ files, f.path.destination working = g.path.destination working →
      f.content = g.content := by
  intro f hf g hg hfg
  by_contra hne
  have hsame := Path.same_of_destination_eq (hstraight f hf) (hstraight g hg) (hstart f hf g hg) hfg
  have hsymm : Std.Symm fun f g : PendingFile => f.path.same g.path = false := by
    constructor
    intro a b hab
    rw [Path.same, BEq.comm]
    exact hab
  have hfalse := hdistinct.forall hf hg fun heq => hne (congrArg PendingFile.content heq)
  rw [hsame] at hfalse
  cases hfalse

/-- **What a batch leaves at its paths.**  A batch is refused for its paths if and only if two of them have
the same components. When it is written, there is at the path of each file the last file of the batch that
is meant for the same place. So every file can be read back at its path if and only if files for the same
place have the same content. It is so where all paths start at the same place and only go down. -/
theorem writeAll_readBack (w : Writer) (files : List PendingFile) (t : FileTree) :
    ∃ r t', runOn t (w.writeAll files) = (r, t') ∧
      ((∃ p, r = .error (.duplicatePath p)) ↔ ¬files.Pairwise fun f g => f.path.same g.path = false) ∧
      ∀ paths, r = .ok paths →
        (∀ f ∈ files, ∃ before g after, files = before ++ g :: after ∧
          g.path.destination t.working = f.path.destination t.working ∧
          (∀ x ∈ after, x.path.destination t.working ≠ f.path.destination t.working) ∧
          t'.itemAt? (f.path.destination t.working) = some (.file g.content.toUTF8 false) ∧
          t'.read f.path = .ok g.content.toUTF8) ∧
        ((∀ f ∈ files, t'.read f.path = .ok f.content.toUTF8) ↔
          ∀ f ∈ files, ∀ g ∈ files, f.path.destination t.working = g.path.destination t.working →
            f.content = g.content) ∧
        ((∀ f ∈ files, f.path.IsStraight) →
          (∀ f ∈ files, ∀ g ∈ files, f.path.isAbsolute = g.path.isAbsolute) →
          ∀ f ∈ files, t'.read f.path = .ok f.content.toUTF8) := by
  rcases h : runOn t (w.writeAll files) with ⟨r, t'⟩
  have hrepeated : repeated? [] (files.map PendingFile.path) = none ↔
      files.Pairwise fun f g => f.path.same g.path = false := by
    rw [repeated?_eq_none_iff, List.pairwise_map]
    simp
  have hrefused : (∃ p, r = .error (.duplicatePath p)) ↔
      ¬files.Pairwise fun f g => f.path.same g.path = false := by
    simp only [duplicatePath_iff h]
    rw [← hrepeated, ← Option.isSome_iff_exists, ← Option.not_isSome_iff_eq_none, not_not]
  refine ⟨r, t', rfl, hrefused, ?_⟩
  intro paths hok
  subst hok
  have hwritten := written_writeAll h
  have hdistinct : files.Pairwise fun f g => f.path.same g.path = false := by
    by_contra hne
    obtain ⟨p, hp⟩ := hrefused.2 hne
    cases hp
  refine ⟨?_, hwritten.read_iff, ?_⟩
  · intro f hf
    obtain ⟨before, g, after, hfiles, hg, hafter, hitem⟩ := hwritten.exists_last hf
    have hread := read_of_target (hwritten.target_destination hf) hitem
    exact ⟨before, g, after, hfiles, hg, hafter, hitem, hread⟩
  · intro hstraight hstart
    exact hwritten.read_iff.2 (content_eq_of_straight hdistinct hstraight hstart)

/-- Two files for one place, the second named with a dot in front. -/
def dottedFiles : List PendingFile :=
  [⟨⟨"a.txt"⟩, "1"⟩, ⟨⟨"./a.txt"⟩, "2"⟩]

/-- **A file of a batch can be lost.**  A path and the same path behind a dot have different components and
lead to the same place. The batch is written, and what is read at the first path is the second file. -/
theorem writeAll_dotted_lost :
    ∃ t', runOn {} ((⟨true⟩ : Writer).writeAll dottedFiles)
        = (.ok (dottedFiles.map PendingFile.path), t') ∧
      t'.read ⟨"a.txt"⟩ = .ok "2".toUTF8 ∧ t'.read ⟨"a.txt"⟩ ≠ .ok "1".toUTF8 := by
  have hok : (runOn {} ((⟨true⟩ : Writer).writeAll dottedFiles)).1
      = .ok (dottedFiles.map PendingFile.path) := by
    decide +kernel
  rw [← hok]
  refine ⟨_, (Prod.eta _).symm, ?_, ?_⟩
  all_goals decide +kernel

end Writer

end Faceting
