import Faceting.Proofs.Artifact.Totality
import Faceting.Proofs.Template.Library
import Mathlib.Data.List.Nodup

/-!
# Templates that take the place of built-in ones

Templates can be given as texts, one after the other, or as the files of a directory. Either way a library
comes to the same (`overrides_isolated`): its names are the built-in ones and those that were given, an
artifact whose template was given is rendered from the last text that was given for it, and all other
artifacts are rendered as with the built-in library. The engine of the language may be any: which texts are
templates, whether they find each other, and what they write is up to it.

Both ways of making a library put the texts in one after the other (`insertAll`), once on top of the built-in
templates (`eq_insertAll_of_addAll`) and once in an empty library that is then filled
(`exists_insertAll_of_addFiles`, `find?_fillFrom`). What there is to know about the result is which templates
it finds (`find?_insertAll`, `overrides_of_find?`). A template that is given may look at any other. A built-in
one cannot, because it asks for nothing outside of itself, its variables and the formatter.
-/

namespace Faceting.Template.Library

/-! ### Texts that are given -/

/-- The text that was given last under a name. -/
def lastSource? (provided : List (String × String)) (name : String) : Option String :=
  provided.reverse.lookup name

theorem lastSource?_cons (first source name : String) (rest : List (String × String)) :
    lastSource? ((first, source) :: rest) name
      = (lastSource? rest name).or (if name = first then some source else none) := by
  have hlookup : lastSource? ((first, source) :: rest) name
      = (lastSource? rest name).or ([(first, source)].lookup name) := by
    rw [lastSource?, List.reverse_cons]
    exact List.lookup_append
  rw [hlookup, List.lookup_cons]
  by_cases hname : name = first
  · rw [if_pos hname, beq_iff_eq.2 hname]
  · rw [if_neg hname, beq_false_of_ne hname]
    rfl

/-- There is a last text for the names under which any was given. -/
theorem isSome_lastSource?_iff {provided : List (String × String)} {name : String} :
    (lastSource? provided name).isSome = true ↔ name ∈ provided.map Prod.fst := by
  rw [lastSource?, isSome_lookup_iff, List.map_reverse, List.mem_reverse]

/-- What is given last is given. -/
theorem mem_of_lastSource? {provided : List (String × String)} {name source : String}
    (h : lastSource? provided name = some source) : (name, source) ∈ provided := by
  obtain ⟨before, after, hprovided, -⟩ := List.lookup_eq_some_iff.1 h
  rw [← List.mem_reverse, hprovided]
  exact List.mem_append_right _ List.mem_cons_self

/-! ### Libraries with texts added -/

variable {e : Engine} {l l' : Library} {provided : List (String × String)}

/-- A text that is added is that of a template. -/
theorem add_eq_ok {name source : String} (h : l.add e name source = .ok l') :
    ∃ nodes, e.template? name source = some nodes ∧ l' = l.insert name nodes := by
  unfold add at h
  split at h
  · cases h
  · rename_i nodes htemplate
    split at h
    · cases h
      exact ⟨nodes, htemplate, rfl⟩
    · cases h

/-- Texts are added one after the other. -/
theorem addAll_cons_eq_ok {name source : String} {rest : List (String × String)}
    (h : l.addAll e ((name, source) :: rest) = .ok l') :
    ∃ nodes, e.template? name source = some nodes ∧ (l.insert name nodes).addAll e rest = .ok l' := by
  rw [addAll] at h
  cases hadd : l.add e name source with
  | error fault =>
    rw [hadd] at h
    cases h
  | ok next =>
    obtain ⟨nodes, htemplate, rfl⟩ := add_eq_ok hadd
    rw [hadd] at h
    exact ⟨nodes, htemplate, h⟩

/-- All texts are those of templates. -/
def AllTemplates (e : Engine) (provided : List (String × String)) : Prop :=
  ∀ entry ∈ provided, ∃ nodes, e.template? entry.1 entry.2 = some nodes

theorem allTemplates_of_addAll (h : l.addAll e provided = .ok l') : AllTemplates e provided := by
  induction provided generalizing l with
  | nil =>
    intro entry hentry
    cases hentry
  | cons entry rest ih =>
    obtain ⟨nodes, htemplate, hrest⟩ := addAll_cons_eq_ok h
    unfold AllTemplates
    rw [List.forall_mem_cons]
    exact ⟨⟨nodes, htemplate⟩, ih hrest⟩

/-- Texts are put in one after the other, whether they find each other or not. -/
def insertAll (e : Engine) (l : Library) : List (String × String) → Library
  | [] => l
  | (name, source) :: rest => insertAll e (l.insert name ((e.template? name source).getD [])) rest

theorem eq_insertAll_of_addAll (h : l.addAll e provided = .ok l') : l' = insertAll e l provided := by
  induction provided generalizing l with
  | nil =>
    cases h
    rfl
  | cons entry rest ih =>
    obtain ⟨name, source⟩ := entry
    obtain ⟨nodes, htemplate, hrest⟩ := addAll_cons_eq_ok h
    rw [ih hrest, insertAll, htemplate, Option.getD_some]

/-- **A library to which texts were added has the templates of the last texts, and else those it had.** -/
theorem find?_insertAll (hall : AllTemplates e provided) (l : Library) (name : String) :
    (insertAll e l provided).find? name
      = ((lastSource? provided name).bind (e.template? name)).or (l.find? name) := by
  induction provided generalizing l with
  | nil => rfl
  | cons entry rest ih =>
    obtain ⟨first, source⟩ := entry
    unfold AllTemplates at hall
    rw [List.forall_mem_cons] at hall
    obtain ⟨⟨nodes, htemplate⟩, hrest⟩ := hall
    simp only at htemplate
    rw [insertAll, ih hrest, find?_insert, lastSource?_cons, htemplate, Option.getD_some]
    cases hlast : lastSource? rest name with
    | none =>
      by_cases hname : name = first
      · subst hname
        simp [htemplate]
      · simp [hname]
    | some last =>
      -- a later text counts, and it is one of a template
      obtain ⟨nodes', htemplate'⟩ := hrest _ (mem_of_lastSource? hlast)
      simp only at htemplate'
      simp [htemplate']

/-! ### Names -/

theorem mem_names_iff {name : String} : name ∈ l.names ↔ (l.find? name).isSome = true := by
  rw [names, List.mem_mergeSort, find?, isSome_lookup_iff]

theorem pairwise_names (l : Library) : l.names.Pairwise (· ≤ ·) := by
  have hsorted := @List.pairwise_mergeSort _ (fun a b : String => decide (a ≤ b))
    (by simpa using fun a b c => String.le_trans) (by simpa using String.le_total)
    (l.templates.map fun entry => entry.1)
  simpa [names] using hsorted

/-- No name stands twice. -/
def NamesOnce (l : Library) : Prop :=
  (l.templates.map Prod.fst).Nodup

theorem NamesOnce.nodup_names (h : l.NamesOnce) : l.names.Nodup :=
  List.nodup_mergeSort.2 h

theorem NamesOnce.filter (h : l.NamesOnce) (keep : String × List Node → Bool) :
    ((l.templates.filter keep).map Prod.fst).Nodup :=
  h.sublist (List.filter_sublist.map Prod.fst)

theorem NamesOnce.insert (h : l.NamesOnce) (name : String) (nodes : List Node) :
    (l.insert name nodes).NamesOnce := by
  have hkept := h.filter fun entry => entry.1 != name
  have hother : name ∉ (l.templates.filter fun entry => entry.1 != name).map Prod.fst := by
    simp [List.mem_filter]
  unfold NamesOnce Library.insert
  rw [List.map_append, List.map_singleton, List.nodup_append']
  exact ⟨hkept, List.nodup_singleton name, List.disjoint_singleton.2 hother⟩

theorem NamesOnce.insertAll (hl : l.NamesOnce) (e : Engine) (provided : List (String × String)) :
    (insertAll e l provided).NamesOnce := by
  induction provided generalizing l with
  | nil => exact hl
  | cons entry rest ih => exact ih (hl.insert entry.1 _)

theorem NamesOnce.fillFrom (hl : l.NamesOnce) (hl' : l'.NamesOnce) : (l.fillFrom l').NamesOnce := by
  have hfilled := hl'.filter fun entry => !l.has entry.1
  unfold NamesOnce Library.fillFrom
  rw [List.map_append, List.nodup_append']
  refine ⟨hl, hfilled, ?_⟩
  intro name hown hother
  obtain ⟨entry, hentry, rfl⟩ := List.mem_map.1 hother
  have hlacks : (l.find? entry.1).isSome = false := by simpa [has] using (List.mem_filter.1 hentry).2
  have hhas : (l.find? entry.1).isSome = true := mem_names_iff.1 (List.mem_mergeSort.2 hown)
  rw [hlacks] at hhas
  cases hhas

theorem namesOnce_builtin : builtin.NamesOnce := by
  unfold NamesOnce
  decide

/-! ### Libraries from directories -/

/-- The template files below a directory, each by its path below it and with its text. -/
def Provides (t : FileTree) (dir : Path) (provided : List (String × String)) : Prop :=
  List.Forall₂ (fun p entry => entry.1 = p.text ∧ ((Files.readText (dir.join p) : FileM _) t).1 = .ok entry.2)
    ((t.filesBelow dir).filter isTemplatePath) provided

variable {dir : Path} {t t' : FileTree}

/-- Adding files is putting in their texts. -/
theorem exists_insertAll_of_addFiles {files : List Path} {own : Library}
    (h : runOn t (addFiles e dir files l) = (.ok own, t')) :
    ∃ provided, AllTemplates e provided ∧ own = insertAll e l provided ∧
      List.Forall₂
        (fun p entry => entry.1 = p.text ∧ ((Files.readText (dir.join p) : FileM _) t).1 = .ok entry.2)
        files provided := by
  induction files generalizing l with
  | nil =>
    cases h
    exact ⟨[], fun entry hentry => (nomatch hentry), rfl, .nil⟩
  | cons p rest ih =>
    obtain ⟨nodes, htemplate, hrest⟩ := addFiles_cons_eq_ok h
    obtain ⟨source, hsource, hnodes⟩ := Option.bind_eq_some_iff.1 htemplate
    obtain ⟨provided, hall, hown, hprovided⟩ := ih hrest
    have hread : ((Files.readText (dir.join p) : FileM _) t).1 = .ok source := by
      cases hresult : ((Files.readText (dir.join p) : FileM _) t).1 with
      | error fault =>
        rw [hresult] at hsource
        cases hsource
      | ok text =>
        rw [hresult] at hsource
        cases hsource
        rfl
    refine ⟨(p.text, source) :: provided, ?_, ?_, .cons ⟨rfl, hread⟩ hprovided⟩
    · unfold AllTemplates
      rw [List.forall_mem_cons]
      exact ⟨⟨nodes, hnodes⟩, hall⟩
    · rw [hown, insertAll, hnodes, Option.getD_some]

/-! ### Overrides -/

/-- A library is the built-in one with templates that were given in order, for an engine. -/
structure Overrides (e : Engine) (provided : List (String × String)) (l : Library) : Prop where
  /-- Its names are listed in ascending order, each once. -/
  sorted : l.names.Pairwise (· ≤ ·)
  once : l.names.Nodup
  /-- They are the built-in names and those that were given. -/
  names : ∀ name, name ∈ l.names ↔ name ∈ builtin.names ∨ name ∈ provided.map Prod.fst
  /-- An artifact whose template was given is rendered from the last text that was given for it. -/
  given : ∀ a : Artifact, a.template ∈ provided.map Prod.fst →
    ∃ source nodes, lastSource? provided a.template = some source ∧
      e.template? a.template source = some nodes ∧
      ∀ (formatter : Formatter) (around : Surroundings) (shared : Context),
        (⟨l, formatter, ⟨e, around⟩⟩ : Renderer).artifact shared a
          = ((Template.render ⟨l, formatter, ⟨e, around⟩⟩ false nodes (a.context shared)).mapError
              (.render a.template)).map (⟨a, ·⟩)
  /-- Any other artifact is rendered as with the built-in library, whatever it is rendered in and wherever. -/
  kept : ∀ a : Artifact, a.template ∉ provided.map Prod.fst →
    ∀ (formatter : Formatter) (host host' : Host) (shared : Context),
      (⟨l, formatter, host⟩ : Renderer).artifact shared a
        = (⟨builtin, formatter, host'⟩ : Renderer).artifact shared a
  /-- For the artifacts of a facet this is a text. -/
  texts : ∀ (s : Schema) (provenance : Provenance) (formatter : Formatter) (profile : Profile)
    (layout : Layout), ∀ a ∈ (Plan.ofFacet (Facet.ofSchema s) profile layout).artifacts,
      a.template ∉ provided.map Prod.fst →
      ∃ text, ∀ host host' : Host,
        (⟨l, formatter, host⟩ : Renderer).artifact ((Facet.ofSchema s).context provenance) a
          = .ok ⟨a, text⟩ ∧
        (⟨builtin, formatter, host'⟩ : Renderer).artifact ((Facet.ofSchema s).context provenance) a
          = .ok ⟨a, text⟩

/-- A library is what it finds. -/
theorem overrides_of_find? (honce : l.NamesOnce) (hall : AllTemplates e provided)
    (hfind : ∀ name,
      l.find? name = ((lastSource? provided name).bind (e.template? name)).or (builtin.find? name)) :
    l.Overrides e provided := by
  have hgiven : ∀ name ∈ provided.map Prod.fst, ∃ source nodes, lastSource? provided name = some source ∧
      e.template? name source = some nodes ∧ l.find? name = some nodes := by
    intro name hname
    obtain ⟨source, hsource⟩ := Option.isSome_iff_exists.1 (isSome_lastSource?_iff.2 hname)
    obtain ⟨nodes, hnodes⟩ := hall _ (mem_of_lastSource? hsource)
    refine ⟨source, nodes, hsource, hnodes, ?_⟩
    rw [hfind, hsource, Option.bind_some, hnodes, Option.some_or]
  have hkept : ∀ name ∉ provided.map Prod.fst, l.find? name = builtin.find? name := by
    intro name hname
    have hnone : lastSource? provided name = none := by
      rwa [← isSome_lastSource?_iff, Option.not_isSome_iff_eq_none] at hname
    rw [hfind, hnone, Option.bind_none, Option.none_or]
  have hsame : ∀ a : Artifact, a.template ∉ provided.map Prod.fst →
      ∀ (formatter : Formatter) (host host' : Host) (shared : Context),
        (⟨l, formatter, host⟩ : Renderer).artifact shared a
          = (⟨builtin, formatter, host'⟩ : Renderer).artifact shared a := by
    intro a ha formatter host host' shared
    apply Renderer.artifact_congr
    · rfl
    · exact hkept a.template ha
    · -- the template is a built-in one, so there is nothing that the renderers could answer differently
      intro nodes hnodes q hq
      rw [nodesQueries_of_builtin ((hkept a.template ha).symm.trans hnodes)] at hq
      cases hq
  refine ⟨pairwise_names l, honce.nodup_names, ?_, ?_, hsame, ?_⟩
  · intro name
    rw [mem_names_iff, mem_names_iff]
    by_cases hname : name ∈ provided.map Prod.fst
    · obtain ⟨_, nodes, -, -, hnodes⟩ := hgiven name hname
      simp [hnodes, hname]
    · rw [hkept name hname, or_iff_left hname]
  · intro a ha
    obtain ⟨source, nodes, hsource, hnodes, hfound⟩ := hgiven a.template ha
    refine ⟨source, nodes, hsource, hnodes, ?_⟩
    intro formatter around shared
    have hmarkup : isMarkup a.template = false := a.kind.isMarkup_template
    unfold Renderer.artifact Renderer.render
    simp only [hfound, hmarkup]
  · intro s provenance formatter profile layout a ha hname
    obtain ⟨text, htext⟩ :=
      (defined_builtin s provenance (r := ⟨builtin, formatter, default⟩) rfl (consistent_of_mem_plan ha)).2
    refine ⟨text, fun host host' => ⟨(hsame a hname formatter host default _).trans htext, ?_⟩⟩
    have hbuiltin := (hsame a hname formatter default host' ((Facet.ofSchema s).context provenance)).symm
    exact hbuiltin.trans ((hsame a hname formatter default default _).trans htext)

/-- **Overrides are isolated.**  Whatever the engine, templates that are added to the built-in library, in any
number and order, and templates that are taken from a directory, change the artifacts rendered with them and
no others. -/
theorem overrides_isolated (e : Engine) :
    (∀ (provided : List (String × String)) (l : Library), builtin.addAll e provided = .ok l →
      l.Overrides e provided) ∧
    ∀ (dir : Path) (t t' : FileTree) (l : Library), runOn t (ofDirectory e dir) = (.ok l, t') →
      ∃ provided, Provides t dir provided ∧ l.Overrides e provided := by
  constructor
  · intro provided l h
    have hall := allTemplates_of_addAll h
    rw [eq_insertAll_of_addAll h]
    exact overrides_of_find? (namesOnce_builtin.insertAll e provided) hall (find?_insertAll hall builtin)
  · intro dir t t' l h
    obtain ⟨own, hown, rfl⟩ := ofDirectory_eq_ok h
    obtain ⟨provided, hall, rfl, hprovided⟩ := exists_insertAll_of_addFiles hown
    have hempty : NamesOnce ⟨[]⟩ := List.nodup_nil
    refine ⟨provided, hprovided,
      overrides_of_find? ((hempty.insertAll e provided).fillFrom namesOnce_builtin) hall ?_⟩
    intro name
    rw [find?_fillFrom, find?_insertAll hall]
    congr 1
    exact Option.or_none

/-- An engine with one more construct: a text that starts with an at sign is the template of the name behind
it. -/
def referring : Engine where
  reads source := source.toList.head? == some '@'
  links find? := (find? "notes/a.tera").isSome
  writes find? _ _ _ source _ :=
    match find? (String.ofList source.toList.tail) with
    | some [.text value] => .ok value
    | _ => .error .dangling

/-- Texts for a template, and for one built-in template that is given twice and then refers to it. -/
def notedSources : List (String × String) :=
  [("abstract_facet.hpp.tera", "old"), ("notes/a.tera", "noted"), ("abstract_facet.hpp.tera", "@notes/a.tera")]

/-- A tree with a directory of templates. -/
def notedTree : FileTree :=
  { root := .directory [("templates", .directory
      [("facet_router.hpp.tera", .file "// \x7b\x7b facet \x7d\x7d".toUTF8 false),
       ("notes", .directory [("a.tera", .file "".toUTF8 false), ("a.txt", .file "x".toUTF8 false)])])] }

/-- The text of the abstract interface with some texts given. -/
def notedText? (sources : List (String × String)) : Option String :=
  (builtin.addAll referring sources).toOption.bind fun l =>
    ((⟨l, ({} : SignatureStyle), ⟨referring, default⟩⟩ : Renderer).artifact []
      ⟨.abstractHeader, "AA.hpp", ⟨"AA.hpp"⟩, none⟩).toOption.map RenderedArtifact.content

theorem overrides_isolated_noted :
    (∃ l, builtin.addAll referring notedSources = .ok l ∧ "notes/a.tera" ∈ l.names ∧
      notedText? notedSources = some "noted" ∧
      ∀ (path : Path) (formatter : Formatter) (host host' : Host) (shared : Context),
        (⟨l, formatter, host⟩ : Renderer).artifact shared ⟨.routerHeader, "RA.hpp", path, none⟩
          = (⟨builtin, formatter, host'⟩ : Renderer).artifact shared ⟨.routerHeader, "RA.hpp", path, none⟩) ∧
    ∃ l t', runOn notedTree (ofDirectory {} ⟨"templates"⟩) = (.ok l, t') ∧
      ∃ provided, Provides notedTree ⟨"templates"⟩ provided ∧ l.Overrides {} provided := by
  constructor
  · have htext : notedText? notedSources = some "noted" := by decide +kernel
    cases hadd : builtin.addAll referring notedSources with
    | error fault =>
      rw [notedText?, hadd] at htext
      cases htext
    | ok l =>
      have hl := (overrides_isolated referring).1 notedSources l hadd
      refine ⟨l, rfl, (hl.names _).2 (.inr (by decide)), htext, ?_⟩
      intro path formatter host host' shared
      refine hl.kept _ ?_ formatter host host' shared
      show ArtifactKind.template .routerHeader ∉ _
      decide
  · have hok : (runOn notedTree (ofDirectory {} ⟨"templates"⟩)).1.isOk = true := by decide +kernel
    obtain ⟨l, t', hload⟩ := exists_runOn_of_isOk _ hok
    exact ⟨l, t', hload, (overrides_isolated {}).2 _ _ _ l hload⟩

end Faceting.Template.Library
