import Faceting.Artifact.Plan
import Faceting.Proofs.Schema.WellFormed
import Faceting.Proofs.Writer.Steps
import Mathlib.Data.List.Nodup

/-!
# Names of files

The files of a plan have names of their own. If the names of the schema are fit for it
(`Schema.WellNamed`), the name of each file is one segment of a path (`plain_fileName`) and no two files
have the same name (`nodup_fileNames`), so their paths differ in every layout (`pairwise_paths`).
-/

namespace Faceting

/-! ### Plain names -/

/-- Whether a character can stand in the name of a file. -/
def isFileNamePart (c : Char) : Bool :=
  Text.isIdentifierPart c || c == '.'

/-- A name that starts like an identifier and goes on with characters of identifiers and dots. -/
structure IsFileName (name : String) : Prop where
  start : ∃ c, name.toList.head? = some c ∧ Text.isIdentifierStart c = true
  parts : ∀ c ∈ name.toList, isFileNamePart c = true

namespace IsFileName

/-- A character that is no part of names of files is not in one. -/
theorem notMem {name : String} (h : IsFileName name) {c : Char} (hc : isFileNamePart c = false) :
    c ∉ name.toList := by
  intro hmem
  rw [h.parts c hmem] at hc
  cases hc

theorem plain {name : String} (h : IsFileName name) : Path.Plain name := by
  obtain ⟨c, hhead, hc⟩ := h.start
  have hdot : name.toList.head? ≠ some '.' := by
    rw [hhead]
    intro hsome
    cases hsome
    exact absurd hc (by decide)
  refine ⟨h.notMem (by decide), h.notMem (by decide), ?_, ?_⟩
  · cases hidle : Path.isIdle name with
    | false => rfl
    | true =>
      have hname : name = "" ∨ name = "." := by simpa [Path.isIdle] using hidle
      rcases hname with rfl | rfl
      · cases hhead
      · exact absurd rfl hdot
  · rintro rfl
    exact absurd rfl hdot

end IsFileName

/-! ### Names around the name of the facet -/

/-- What stands before and behind the name of the facet in the name of a file. -/
def ArtifactKind.affixes? : ArtifactKind → Option (Char × String)
  | .abstractHeader => some ('A', ".hpp")
  | .anyHeader => some ('I', "_Any.hpp")
  | .anyBody => some ('I', "_Any.cpp")
  | .xferHeader => some ('I', "_Xfer.hpp")
  | .xferBody => some ('I', "_Xfer.cpp")
  | .routerHeader => some ('R', ".hpp")
  | .implementationHeader => none

theorem ArtifactKind.affixes?_inj {kind kind' : ArtifactKind} :
    kind.affixes? = kind'.affixes? → kind = kind' := by
  cases kind <;> cases kind' <;> decide

/-- What stands behind the name of the facet in the header for a representation. -/
def headerTail (representation : String) : String :=
  "_" ++ representation ++ ".hpp"

section
variable {facet : String}

theorem ArtifactKind.toList_fileName? {kind : ArtifactKind} {name : String}
    (h : kind.fileName? (Names.ofFacet facet) = some name) :
    ∃ first tail, kind.affixes? = some (first, tail) ∧
      name.toList = first :: (facet.toList ++ tail.toList) := by
  cases kind <;> cases h <;> exact ⟨_, _, rfl, by simp [Names.ofFacet]⟩

theorem toList_headerFor (facet representation : String) :
    ((Names.ofFacet facet).headerFor representation).toList
      = 'I' :: (facet.toList ++ (headerTail representation).toList) := by
  simp [Names.headerFor, Names.implFor, Names.ofFacet, headerTail, String.toList_append]

theorem isFileName_of_affixes (hfacet : Text.isIdentifier facet = true) {name tail : String} {first : Char}
    (hname : name.toList = first :: (facet.toList ++ tail.toList))
    (hfirst : Text.isIdentifierStart first = true) (htail : tail.toList.all isFileNamePart = true) :
    IsFileName name := by
  refine ⟨⟨first, by rw [hname]; rfl, hfirst⟩, ?_⟩
  rw [hname]
  intro c hc
  rcases List.mem_cons.1 hc with rfl | hc
  · simp [isFileNamePart, Text.isIdentifierPart, hfirst]
  · rcases List.mem_append.1 hc with hc | hc
    · simp [isFileNamePart, Text.isIdentifierPart_of_isIdentifier hfacet hc]
    · exact List.all_eq_true.1 htail c hc

theorem ArtifactKind.isFileName_fileName? (hfacet : Text.isIdentifier facet = true) {kind : ArtifactKind}
    {name : String} (h : kind.fileName? (Names.ofFacet facet) = some name) : IsFileName name := by
  obtain ⟨first, tail, haffixes, hname⟩ := kind.toList_fileName? h
  have hparts : Text.isIdentifierStart first = true ∧ tail.toList.all isFileNamePart = true := by
    cases kind <;> cases haffixes <;> exact ⟨rfl, rfl⟩
  exact isFileName_of_affixes hfacet hname hparts.1 hparts.2

theorem isFileName_headerFor {representation : String} (hfacet : Text.isIdentifier facet = true)
    (hrepresentation : Text.isIdentifier representation = true) :
    IsFileName ((Names.ofFacet facet).headerFor representation) := by
  have hparts : representation.toList.all isFileNamePart = true := by
    rw [List.all_eq_true]
    intro c hc
    simp [isFileNamePart, Text.isIdentifierPart_of_isIdentifier hrepresentation hc]
  have hlead : "_".toList.all isFileNamePart = true := rfl
  have hending : ".hpp".toList.all isFileNamePart = true := rfl
  refine isFileName_of_affixes hfacet (toList_headerFor facet representation) rfl ?_
  rw [headerTail, String.toList_append, String.toList_append, List.all_append, List.all_append, hlead,
    hparts, hending]
  rfl

/-- Two kinds of artifacts have different file names. -/
theorem ArtifactKind.fileName?_inj {kind kind' : ArtifactKind} {name : String}
    (h : kind.fileName? (Names.ofFacet facet) = some name)
    (h' : kind'.fileName? (Names.ofFacet facet) = some name) : kind = kind' := by
  obtain ⟨first, tail, haffixes, hname⟩ := kind.toList_fileName? h
  obtain ⟨first', tail', haffixes', hname'⟩ := kind'.toList_fileName? h'
  rw [hname, List.cons.injEq, List.append_cancel_left_eq, String.toList_inj] at hname'
  rw [hname'.1, hname'.2, ← haffixes'] at haffixes
  exact affixes?_inj haffixes

theorem headerFor_inj {r r' : String}
    (h : (Names.ofFacet facet).headerFor r = (Names.ofFacet facet).headerFor r') : r = r' := by
  have hlist := congrArg String.toList h
  rw [toList_headerFor, toList_headerFor, List.cons.injEq, List.append_cancel_left_eq] at hlist
  exact String.toList_inj.1 (by simpa [headerTail, String.toList_append] using hlist.2)

/-- The ending of a file name is known from its length. -/
theorem eq_of_headerTail_eq {r stem ending : String} (hlength : ending.toList.length = 4)
    (h : headerTail r = "_" ++ stem ++ ending) : r = stem ∧ ending = ".hpp" := by
  have hlist := congrArg String.toList h
  simp only [headerTail, String.toList_append, List.append_assoc, List.append_cancel_left_eq] at hlist
  obtain ⟨hstem, hending⟩ := List.append_inj' hlist (by rw [hlength]; rfl)
  exact ⟨String.toList_inj.1 hstem, (String.toList_inj.1 hending).symm⟩

/-- No header of a representation has the name of another artifact. -/
theorem fileName?_ne_headerFor {kind : ArtifactKind} {r : String} (hr : r ∉ Schema.reservedNames) :
    kind.fileName? (Names.ofFacet facet) ≠ some ((Names.ofFacet facet).headerFor r) := by
  intro h
  obtain ⟨first, tail, haffixes, hname⟩ := kind.toList_fileName? h
  rw [toList_headerFor, List.cons.injEq, List.append_cancel_left_eq, String.toList_inj] at hname
  obtain ⟨rfl, rfl⟩ := hname
  have hother (stem ending : String) (hlength : ending.toList.length = 4)
      (htail : some ("_" ++ stem ++ ending) = some (headerTail r)) : r = stem ∧ ending = ".hpp" :=
    eq_of_headerTail_eq hlength (Option.some.inj htail).symm
  have htail := congrArg (Option.map Prod.snd) haffixes
  cases kind with
  | abstractHeader => cases congrArg (Option.map Prod.fst) haffixes
  | routerHeader => cases congrArg (Option.map Prod.fst) haffixes
  | implementationHeader => cases haffixes
  | anyHeader => exact hr ((hother "Any" ".hpp" rfl htail).1 ▸ by decide)
  | xferHeader => exact hr ((hother "Xfer" ".hpp" rfl htail).1 ▸ by decide)
  | anyBody => exact absurd (hother "Any" ".cpp" rfl htail).2 (by decide)
  | xferBody => exact absurd (hother "Xfer" ".cpp" rfl htail).2 (by decide)

end

/-! ### Files of a plan -/

/-- The names of the files for a facet, in the order in which they are made. -/
def Facet.fileNames (f : Facet) (profile : Profile) : List String :=
  profile.kinds.filterMap (ArtifactKind.fileName? f.names) ++ f.implementations.map Implementation.header

theorem map_fileName (f : Facet) (profile : Profile) (layout : Layout) :
    (Plan.ofFacet f profile layout).artifacts.map Artifact.fileName = f.fileNames profile := by
  have hfacet : (Plan.facetArtifacts f.names profile layout).map Artifact.fileName
      = profile.kinds.filterMap (ArtifactKind.fileName? f.names) := by
    rw [Plan.facetArtifacts, List.map_filterMap]
    congr 1
    funext kind
    rw [Option.map_map]
    exact Option.map_id'
  rw [Plan.ofFacet, List.map_append, hfacet, Facet.fileNames]
  simp [Plan.implementationArtifacts, Plan.artifact]

/-- The file of the abstract interface comes first. -/
theorem fileNames_eq_cons (f : Facet) (profile : Profile) :
    ∃ rest, f.fileNames profile = f.names.abstractHeader :: rest := by
  cases profile <;> exact ⟨_, rfl⟩

section
variable {s : Schema} (hs : s.WellNamed) (profile : Profile) (layout : Layout)

/-- An artifact of a plan is the one of its kind, or the header of a representation. -/
theorem mem_plan_cases {a : Artifact}
    (ha : a ∈ (Plan.ofFacet (Facet.ofSchema s) profile layout).artifacts) :
    (a.kind.fileName? (Names.ofFacet s.facet) = some a.fileName ∨
        ∃ r ∈ s.representations, a.fileName = (Names.ofFacet s.facet).headerFor r.name) ∧
      a.path = (layout.directoryFor a.kind).join ⟨a.fileName⟩ := by
  rcases List.mem_append.1 ha with hfacet | himplementation
  · obtain ⟨kind, -, hname⟩ := List.mem_filterMap.1 hfacet
    obtain ⟨fileName, hfileName, rfl⟩ := Option.map_eq_some_iff.1 hname
    exact ⟨.inl hfileName, rfl⟩
  · obtain ⟨i, hi, rfl⟩ := List.mem_map.1 himplementation
    obtain ⟨r, hr, rfl⟩ := List.mem_map.1 hi
    exact ⟨.inr ⟨r, hr, rfl⟩, rfl⟩

include hs

theorem isFileName_fileName {a : Artifact}
    (ha : a ∈ (Plan.ofFacet (Facet.ofSchema s) profile layout).artifacts) : IsFileName a.fileName := by
  rcases (mem_plan_cases profile layout ha).1 with hname | ⟨r, hr, hname⟩
  · exact ArtifactKind.isFileName_fileName? hs.facet hname
  · rw [hname]
    exact isFileName_headerFor hs.facet (hs.representations r hr)

/-- The name of a file is one segment of a path. -/
theorem plain_fileName {a : Artifact}
    (ha : a ∈ (Plan.ofFacet (Facet.ofSchema s) profile layout).artifacts) : Path.Plain a.fileName :=
  (isFileName_fileName hs profile layout ha).plain

/-- **The files for a facet have different names.** -/
theorem nodup_fileNames : ((Facet.ofSchema s).fileNames profile).Nodup := by
  have hheaders : (Facet.ofSchema s).implementations.map Implementation.header
      = (s.representations.map Representation.name).map (Names.ofFacet s.facet).headerFor := by
    simp [Facet.ofSchema, Representation.complete]
  have hkinds : profile.kinds.Nodup := by cases profile <;> decide
  rw [Facet.fileNames, hheaders, List.nodup_append']
  refine ⟨hkinds.filterMap fun kind kind' name h h' => ArtifactKind.fileName?_inj h h',
    hs.distinct.map fun r r' h => headerFor_inj h, ?_⟩
  intro name hname hheader
  obtain ⟨kind, -, hkind⟩ := List.mem_filterMap.1 hname
  obtain ⟨r, hr, rfl⟩ := List.mem_map.1 hheader
  obtain ⟨representation, hrepresentation, rfl⟩ := List.mem_map.1 hr
  exact fileName?_ne_headerFor (hs.notReserved representation hrepresentation) hkind

/-- **The paths of a plan differ, whatever its layout.** -/
theorem pairwise_paths :
    (Plan.ofFacet (Facet.ofSchema s) profile layout).paths.Pairwise fun p q => p.same q = false := by
  have hnodup := nodup_fileNames hs profile
  rw [← map_fileName _ profile layout, List.Nodup, List.pairwise_map] at hnodup
  rw [Plan.paths, List.pairwise_map]
  refine hnodup.imp_of_mem fun {a b} ha hb hne => ?_
  rw [(mem_plan_cases profile layout ha).2, (mem_plan_cases profile layout hb).2]
  cases hsame : ((layout.directoryFor a.kind).join ⟨a.fileName⟩).same
      ((layout.directoryFor b.kind).join ⟨b.fileName⟩) with
  | false => rfl
  | true =>
    -- paths that are the same have the same last component
    have hcomponents : ((layout.directoryFor a.kind).join ⟨a.fileName⟩).components
        = ((layout.directoryFor b.kind).join ⟨b.fileName⟩).components := by
      simpa [Path.same] using hsame
    have ha' := Path.fileName?_join (layout.directoryFor a.kind) (plain_fileName hs profile layout ha)
    have hb' := Path.fileName?_join (layout.directoryFor b.kind) (plain_fileName hs profile layout hb)
    rw [Path.fileName?, hcomponents] at ha'
    rw [Path.fileName?, ha'] at hb'
    exact absurd (Option.some.inj hb') hne

/-- No path of a plan is found to be repeated. -/
theorem repeated?_paths :
    Writer.repeated? [] (Plan.ofFacet (Facet.ofSchema s) profile layout).paths = none :=
  Writer.repeated?_eq_none_iff.2 ⟨by simp, pairwise_paths hs profile layout⟩

end

end Faceting
