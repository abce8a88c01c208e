import Faceting.Artifact.Render
import Faceting.Proofs.Basic
import Faceting.Proofs.Files.Run
import Faceting.Proofs.Template.Queries

/-!
# Which template a library has under a name

A library is looked at through `Library.find?` only. What each way of making a library does to it is said by
one law:

* a template that is inserted is found under its name, and nothing else changes (`find?_insert`);
* a library that is filled from another has its own templates first (`find?_fillFrom`);
* a library from a directory has under each name the template in the file of that name, if the directory
  has one, and the built-in template otherwise (`find?_of_ofDirectory`). The order in which the files are
  listed does not matter, because a template is named by the path of its file.

An artifact is rendered from the template of its name. So two renderers with the same formatter render it
alike if they find the same template, and give the same answers to what that asks
(`Renderer.artifact_congr`). Built-in templates ask for nothing (`nodesQueries_of_builtin`). A library whose
templates do not ask for the surroundings renders the same artifacts everywhere (`Library.Steady`).
-/

namespace Faceting

namespace Template.Library

/-! ### Libraries -/

theorem find?_insert (l : Library) (name other : String) (nodes : List Node) :
    (l.insert name nodes).find? other = if other = name then some nodes else l.find? other := by
  have hlookup : (l.insert name nodes).find? other
      = ((l.templates.filter fun pair => pair.1 != name).lookup other).or ([(name, nodes)].lookup other) :=
    List.lookup_append
  rw [hlookup, lookup_filter_key (· != name)]
  by_cases hname : other = name
  · simp [hname]
  · have hne : (other == name) = false := beq_eq_false_iff_ne.2 hname
    have hkeep : (other != name) = true := bne_iff_ne.2 hname
    rw [if_pos hkeep, if_neg hname, List.lookup_cons, hne]
    exact Option.or_none

theorem find?_fillFrom (l other : Library) (name : String) :
    (l.fillFrom other).find? name = (l.find? name).or (other.find? name) := by
  have hlookup : (l.fillFrom other).find? name
      = (l.find? name).or ((other.templates.filter fun pair => !l.has pair.1).lookup name) :=
    List.lookup_append
  rw [hlookup, lookup_filter_key (!l.has ·)]
  cases hfind : l.find? name with
  | some nodes => rfl
  | none =>
    have hlacks : (!l.has name) = true := by simp [has, hfind]
    rw [if_pos hlacks]
    rfl

/-! ### Libraries from directories -/

/-- The template in a file below a directory, if there is one. -/
def templateAt? (e : Engine) (t : FileTree) (dir : Path) (name : String) : Option (List Node) :=
  ((Files.readText (dir.join ⟨name⟩) : FileM _) t).1.toOption.bind (e.template? name)

variable {e : Engine} {dir : Path} {t t' : FileTree}

/-- Adding files to a library starts with the template in the first. -/
theorem addFiles_cons_eq_ok {p : Path} {rest : List Path} {l own : Library}
    (h : runOn t (addFiles e dir (p :: rest) l) = (.ok own, t')) :
    ∃ nodes, templateAt? e t dir p.text = some nodes ∧
      runOn t (addFiles e dir rest (l.insert p.text nodes)) = (.ok own, t') := by
  rw [addFiles, runOn_bind, runOn_lift, FileM.readText_apply_snd] at h
  rcases hread : ((Files.readText (dir.join p) : FileM _) t).1 with fault | source
  · simp only [hread] at h
    cases h
  · cases htemplate : e.template? p.text source with
    | none =>
      simp only [hread, htemplate] at h
      cases h
    | some nodes =>
      simp only [hread, htemplate] at h
      refine ⟨nodes, ?_, h⟩
      rw [templateAt?, hread]
      exact htemplate

/-- A library from a directory is made of the template files below it, and filled up. -/
theorem ofDirectory_eq_ok {l : Library} (h : runOn t (ofDirectory e dir) = (.ok l, t')) :
    ∃ own, runOn t (addFiles e dir ((t.filesBelow dir).filter isTemplatePath) ⟨[]⟩) = (.ok own, t') ∧
      l = own.fillFrom builtin := by
  unfold ofDirectory at h
  rw [runOn_bind, runOn_lift, FileM.isDirectory_apply] at h
  cases hdir : (t.stat dir).toOption == some .directory with
  | false =>
    simp only [hdir] at h
    cases h
  | true =>
    simp only [hdir, if_true, runOn_bind, runOn_lift, FileM.filesBelow_apply] at h
    split at h
    · rename_i own t₁ hown
      cases hfits : own.fits e && (own.fillFrom builtin).fits e with
      | false =>
        simp only [hfits] at h
        cases h
      | true =>
        simp only [hfits] at h
        cases h
        exact ⟨own, hown, rfl⟩
    · cases h

/-- Built-in templates ask for nothing. -/
theorem nodesQueries_of_builtin {name : String} {nodes : List Node} (h : builtin.find? name = some nodes) :
    nodesQueries nodes = [] := by
  have hall : ∀ entry ∈ builtin.templates, nodesQueries entry.2 = [] := by decide +kernel
  exact forall_lookup (P := fun _ nodes => nodesQueries nodes = []) hall name nodes h

/-- No template of an artifact asks for the surroundings, nor does the engine for it. -/
def Steady (e : Engine) (l : Library) : Prop :=
  ∀ (kind : ArtifactKind) (nodes : List Node), l.find? kind.template = some nodes →
    ∀ q ∈ nodesQueries nodes, ∃ name source, q = .engine name source ∧
      ∀ (formatter : Formatter) (around around' : Surroundings) (s : Scope),
        e.writes l.find? formatter around name source s = e.writes l.find? formatter around' name source s

/-- A library whose templates ask for nothing is steady. -/
theorem steady_of_nodesQueries {l : Library} (e : Engine)
    (h : ∀ name nodes, l.find? name = some nodes → nodesQueries nodes = []) : l.Steady e := by
  intro kind nodes hnodes q hq
  rw [h kind.template nodes hnodes] at hq
  cases hq

theorem steady_builtin (e : Engine) : builtin.Steady e :=
  steady_of_nodesQueries e fun _ _ => nodesQueries_of_builtin

end Template.Library

/-! ### Rendering -/

namespace Renderer

variable {r r' : Renderer}

/-- Renderers with the same formatter that find the same template, and give the same answers to what it asks,
render the same artifact. -/
theorem artifact_congr {a : Artifact} (hformatter : r.formatter = r'.formatter)
    (hfind : r.library.find? a.template = r'.library.find? a.template)
    (hanswers : ∀ nodes, r.library.find? a.template = some nodes →
      ∀ q ∈ Template.nodesQueries nodes, q.SameAnswer r r') (shared : Template.Context) :
    r.artifact shared a = r'.artifact shared a := by
  unfold artifact render
  rw [← hfind]
  cases hnodes : r.library.find? a.template with
  | none => rfl
  | some nodes =>
    simp only [Template.render,
      Template.renderNodes_congr hformatter _ nodes ⟨[{}], a.context shared⟩ (hanswers nodes hnodes)]

end Renderer

end Faceting
