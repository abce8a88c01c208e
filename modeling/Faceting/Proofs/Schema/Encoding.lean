import Faceting.Artifact.Render
import Faceting.Document.Format
import Faceting.Proofs.Document.Json
import Faceting.Schema.Encoding
import Mathlib.Data.List.Forall2
import Mathlib.Data.List.Nodup
import Mathlib.Data.List.Perm.Basic

/-!
# Schemas are read back from their documents

A schema that is written as a document is read back (`Schema.document_roundTrip`), whatever its texts are and
however long its lists, so whatever is made of it can be made from the document.

The members of a mapping have no order of their own: a format may sort them by their keys. So a document
stands for all documents that differ from it in the order of members, at any depth (`Document.Reordered`),
and the canonical form is one of them (`Document.Distinct.canonical`). A reader takes back what a writer
wrote if it reads the value from all of these (`Document.Decodes`). That goes from the fields of a record
to the record (`Document.Reordered.fields?`) and from items to lists (`Document.Decodes.list`), up to the
whole schema. What is left to know about the documents of schemas is that no key stands twice in them and
that they do not nest too deep for JSON (`Document.Storable`).
-/

namespace Faceting

namespace Document

/-! ### Order of members -/

/-- No mapping in the document has a key twice. -/
inductive Distinct : Document → Prop
  | null : Distinct .null
  | bool (value : Bool) : Distinct (.bool value)
  | int (value : Int) : Distinct (.int value)
  | float (bits : UInt64) : Distinct (.float bits)
  | string (text : String) : Distinct (.string text)
  | list {items : List Document} : (∀ item ∈ items, Distinct item) → Distinct (.list items)
  | mapping {members : List (String × Document)} :
      (members.map Prod.fst).Nodup → (∀ member ∈ members, Distinct member.2) → Distinct (.mapping members)

/-- The first document is the second, in which no key stands twice, with members of mappings in another
order. -/
inductive Reordered : Document → Document → Prop
  | null : Reordered .null .null
  | bool (value : Bool) : Reordered (.bool value) (.bool value)
  | int (value : Int) : Reordered (.int value) (.int value)
  | float (bits : UInt64) : Reordered (.float bits) (.float bits)
  | string (text : String) : Reordered (.string text) (.string text)
  | list {items items' : List Document} : List.Forall₂ Reordered items items' →
      Reordered (.list items) (.list items')
  | mapping {members members' : List (String × Document)} :
      (members.map Prod.fst).Perm (members'.map Prod.fst) → (members'.map Prod.fst).Nodup →
      (∀ key d d', (key, d) ∈ members → (key, d') ∈ members' → Reordered d d') →
      Reordered (.mapping members) (.mapping members')

theorem value_unique {members : List (String × Document)} (h : (members.map Prod.fst).Nodup)
    {key : String} {d d' : Document} (hd : (key, d) ∈ members) (hd' : (key, d') ∈ members) : d = d' :=
  congrArg Prod.snd (List.inj_on_of_nodup_map h hd hd' rfl)

/-! ### The canonical form -/

theorem canonicalItems_eq_map (items : List Document) : canonicalItems items = items.map canonical := by
  induction items with
  | nil => rfl
  | cons item rest ih => rw [canonicalItems, ih, List.map_cons]

theorem canonicalMembers_eq_map (members : List (String × Document)) :
    canonicalMembers members = members.map fun member => (member.1, member.2.canonical) := by
  induction members with
  | nil => rfl
  | cons member rest ih => rw [canonicalMembers, ih, List.map_cons]

/-- A member with a new key is put between the others. -/
theorem insertMember_perm {key : String} {sorted : List (String × Document)}
    (h : key ∉ sorted.map Prod.fst) (value : Document) :
    (insertMember key value sorted).Perm ((key, value) :: sorted) := by
  induction sorted with
  | nil => exact .refl _
  | cons first rest ih =>
    obtain ⟨k, v⟩ := first
    rw [List.map_cons, List.mem_cons, not_or] at h
    unfold insertMember
    by_cases hlt : key < k
    · rw [if_pos hlt]
    · rw [if_neg hlt, if_neg h.1]
      exact ((ih h.2).cons (k, v)).trans (List.Perm.swap _ _ _)

/-- Members that are put in order one after the other stand with those that were in order before. -/
theorem foldl_insertMember_perm {rest sorted : List (String × Document)}
    (h : ((sorted ++ rest).map Prod.fst).Nodup) :
    (rest.foldl (fun sorted member => insertMember member.1 member.2 sorted) sorted).Perm
      (sorted ++ rest) := by
  induction rest generalizing sorted with
  | nil => rw [List.foldl_nil, List.append_nil]
  | cons member rest ih =>
    have hmiddle : (member :: sorted ++ rest).Perm (sorted ++ member :: rest) := List.perm_middle.symm
    have hnodup : ((member :: sorted ++ rest).map Prod.fst).Nodup :=
      (hmiddle.map Prod.fst).nodup_iff.2 h
    have hnew : member.1 ∉ sorted.map Prod.fst := by
      intro hmem
      rw [List.cons_append, List.map_cons, List.nodup_cons, List.map_append] at hnodup
      exact hnodup.1 (List.mem_append_left _ hmem)
    have hstep : (insertMember member.1 member.2 sorted ++ rest).Perm (member :: sorted ++ rest) :=
      (insertMember_perm hnew member.2).append_right rest
    exact (ih ((hstep.map Prod.fst).nodup_iff.2 hnodup)).trans (hstep.trans hmiddle)

/-- Members with different keys are all kept. -/
theorem collapse_perm {members : List (String × Document)} (h : (members.map Prod.fst).Nodup) :
    (collapse members).Perm members := by
  have hnodup : (([] ++ members).map Prod.fst).Nodup := h
  exact foldl_insertMember_perm hnodup

/-- A document in which no key stands twice differs from itself in nothing. -/
theorem Distinct.refl {d : Document} (h : d.Distinct) : d.Reordered d := by
  induction h with
  | null => exact .null
  | bool value => exact .bool value
  | int value => exact .int value
  | float bits => exact .float bits
  | string text => exact .string text
  | list _ ih => exact .list (List.forall₂_same.2 ih)
  | @mapping members hnodup _ ih =>
    refine .mapping (.refl _) hnodup ?_
    intro key d d' hd hd'
    obtain rfl := value_unique hnodup hd hd'
    exact ih _ hd

/-- **The canonical form differs in the order of members only**, if no key stands twice. -/
theorem Distinct.canonical {d : Document} (h : d.Distinct) : d.canonical.Reordered d := by
  induction h with
  | null => exact .null
  | bool value => exact .bool value
  | int value => exact .int value
  | float bits => exact .float bits
  | string text => exact .string text
  | @list items _ ih =>
    rw [Document.canonical, canonicalItems_eq_map]
    exact .list (List.forall₂_map_left_iff.2 (List.forall₂_same.2 ih))
  | @mapping members hnodup _ ih =>
    rw [Document.canonical, canonicalMembers_eq_map]
    have hkeys : (members.map fun member => (member.1, member.2.canonical)).map Prod.fst
        = members.map Prod.fst := List.map_map
    have hnodup' : ((members.map fun member => (member.1, member.2.canonical)).map Prod.fst).Nodup := by
      rwa [hkeys]
    have hperm := collapse_perm hnodup'
    refine .mapping (hkeys ▸ hperm.map Prod.fst) hnodup ?_
    intro key d d' hd hd'
    obtain ⟨member, hmember, heq⟩ := List.mem_map.1 (hperm.mem_iff.1 hd)
    cases heq
    obtain rfl := value_unique hnodup hmember hd'
    exact ih _ hmember

/-! ### Fields -/

/-- A key that stands once has the value that stands with it. -/
theorem single?_of_mem {members : List (String × Document)} (h : (members.map Prod.fst).Nodup)
    {key : String} {value : Document} (hmem : (key, value) ∈ members) :
    single? key members = some (some value) := by
  have hfilter : members.filter (·.1 == key) = [(key, value)] := by
    have hnodup : (members.filter (·.1 == key)).Nodup := (List.Nodup.of_map _ h).filter _
    refine List.perm_singleton.1 ((List.perm_ext_iff_of_nodup hnodup (List.nodup_singleton _)).2 ?_)
    intro member
    rw [List.mem_filter, List.mem_singleton, beq_iff_eq]
    constructor
    · intro hmember
      obtain ⟨hmember, rfl⟩ := hmember
      exact List.inj_on_of_nodup_map h hmember hmem rfl
    · rintro rfl
      exact ⟨hmem, rfl⟩
  rw [single?, hfilter]

/-- Fields that are each found among the members are found together. -/
theorem exists_mapM_single? {own fields : List (String × Document)} {R : Document → Document → Prop}
    (h : ∀ field ∈ fields, ∃ value, single? field.1 own = some (some value) ∧ R value field.2) :
    ∃ values, (fields.map Prod.fst).mapM (single? · own) = some (values.map some) ∧
      List.Forall₂ R values (fields.map Prod.snd) := by
  induction fields with
  | nil => exact ⟨[], rfl, .nil⟩
  | cons field rest ih =>
    rw [List.forall_mem_cons] at h
    obtain ⟨⟨value, hvalue, hR⟩, hrest⟩ := h
    obtain ⟨values, hvalues, hRs⟩ := ih hrest
    refine ⟨value :: values, ?_, .cons hR hRs⟩
    rw [List.map_cons, List.mapM_cons, hvalue, hvalues]
    rfl

/-- The fields of a record are found in whatever order its members stand. -/
theorem Reordered.fields? {d : Document} {members : List (String × Document)}
    (h : d.Reordered (.mapping members)) :
    ∃ values, d.fields? (members.map Prod.fst) = some (values.map some) ∧
      List.Forall₂ Reordered values (members.map Prod.snd) := by
  cases h with
  | @mapping own _ hperm hnodup hvalues =>
    have hown : (own.map Prod.fst).Nodup := hperm.nodup_iff.2 hnodup
    have hfield : ∀ field ∈ members, ∃ value,
        single? field.1 own = some (some value) ∧ value.Reordered field.2 := by
      intro field hmem
      have hkey : field.1 ∈ own.map Prod.fst := hperm.mem_iff.2 (List.mem_map_of_mem hmem)
      obtain ⟨⟨key, value⟩, hvalue, rfl⟩ := List.mem_map.1 hkey
      exact ⟨value, single?_of_mem hown hvalue, hvalues _ _ _ hvalue hmem⟩
    exact exists_mapM_single? hfield

/-! ### Readers and writers -/

/-- A reader takes back what a writer wrote, whatever the order of members. -/
def Decodes {α : Type} (read : Document → Option α) (write : α → Document) : Prop :=
  ∀ a d, d.Reordered (write a) → read d = some a

theorem decodes_string : Decodes string? .string := by
  intro text d h
  cases h
  rfl

theorem decodes_bool : Decodes bool? .bool := by
  intro value d h
  cases h
  rfl

theorem Decodes.list {α : Type} {read : Document → Option α} {write : α → Document}
    (h : Decodes read write) : Decodes (listOf? read) fun as => .list (as.map write) := by
  intro as d hd
  cases hd with
  | @list items _ hitems =>
    show items.mapM read = some as
    rw [List.forall₂_map_right_iff] at hitems
    induction hitems with
    | nil => rfl
    | cons hitem _ ih =>
      rw [List.mapM_cons, h _ _ hitem, ih]
      rfl

theorem decodes_strings : Decodes (listOf? string?) strings :=
  decodes_string.list

/-- A text that may be missing is read back. -/
theorem decodes_ofString? : Decodes (fun d => optional? string? (some d)) ofString? := by
  intro text d h
  cases text with
  | none =>
    cases h
    rfl
  | some text =>
    cases h
    rfl

theorem decodes_kind :
    Decodes (fun d => d.label?.bind MethodKind.ofLabel?) fun kind : MethodKind => .string kind.label := by
  intro kind d h
  cases h
  cases kind <;> rfl

end Document

open Document

/-! ### Parts of schemas -/

theorem decodes_param : Decodes Param.decode? Param.toDocument := by
  intro p d h
  obtain ⟨values, hfields, hvalues⟩ := h.fields?
  rcases hvalues with _ | ⟨htype, _ | ⟨hname, _ | _⟩⟩
  replace hfields : d.fields? ["type", "name"] = _ := hfields
  simp [Param.decode?, hfields, decodes_string _ _ htype, decodes_string _ _ hname]

theorem decodes_qualifiers : Decodes Qualifiers.decode? Qualifiers.toDocument := by
  intro q d h
  obtain ⟨values, hfields, hvalues⟩ := h.fields?
  rcases hvalues with _ | ⟨hconst, _ | ⟨hnoexcept, _ | _⟩⟩
  replace hfields : d.fields? ["is_const", "noexcept"] = _ := hfields
  simp [Qualifiers.decode?, hfields, decodes_bool _ _ hconst, decodes_bool _ _ hnoexcept]

theorem decodes_method : Decodes Method.decode? (Method.toDocument strings) := by
  intro m d h
  obtain ⟨values, hfields, hvalues⟩ := h.fields?
  rcases hvalues with _ | ⟨hname, _ | ⟨hreturn, _ | ⟨hkind, hvalues⟩⟩⟩
  rcases hvalues with _ | ⟨hqualifiers, _ | ⟨hparams, _ | ⟨hdoc, _ | _⟩⟩⟩
  replace hfields : d.fields? ["name", "return_type", "kind", "qualifiers", "params", "doc"] = _ := hfields
  have hkind' := decodes_kind _ _ hkind
  simp [Method.decode?, hfields, decodes_string _ _ hname, decodes_string _ _ hreturn, hkind',
    decodes_qualifiers _ _ hqualifiers, decodes_param.list _ _ hparams, decodes_strings _ _ hdoc]

theorem decodes_typeAlias : Decodes TypeAlias.decode? (TypeAlias.toDocument strings) := by
  intro t d h
  obtain ⟨values, hfields, hvalues⟩ := h.fields?
  rcases hvalues with _ | ⟨hname, _ | ⟨hdefinition, _ | ⟨hdoc, _ | _⟩⟩⟩
  replace hfields : d.fields? ["name", "definition", "doc"] = _ := hfields
  simp [TypeAlias.decode?, hfields, decodes_string _ _ hname, decodes_string _ _ hdefinition,
    decodes_strings _ _ hdoc]

theorem decodes_namespaces : Decodes Namespaces.decode? Namespaces.toDocument := by
  intro n d h
  obtain ⟨values, hfields, hvalues⟩ := h.fields?
  rcases hvalues with _ | ⟨houter, _ | ⟨hinner, _ | _⟩⟩
  replace hfields : d.fields? ["outer", "inner"] = _ := hfields
  simp [Namespaces.decode?, hfields, decodes_string _ _ houter, decodes_string _ _ hinner]

theorem decodes_representation : Decodes Representation.decode? Representation.toDocument := by
  intro r d h
  obtain ⟨values, hfields, hvalues⟩ := h.fields?
  rcases hvalues with _ | ⟨hname, _ | ⟨hinclude, _ | _⟩⟩
  replace hfields : d.fields? ["name", "include"] = _ := hfields
  have hinclude' := decodes_ofString? _ _ hinclude
  simp [Representation.decode?, hfields, decodes_string _ _ hname, hinclude']

theorem decodes_schema : Decodes Schema.decode? Schema.toDocument := by
  intro s d h
  obtain ⟨values, hfields, hvalues⟩ := h.fields?
  rcases hvalues with _ | ⟨hfacet, _ | ⟨hnamespaces, _ | ⟨hbrief, hvalues⟩⟩⟩
  rcases hvalues with _ | ⟨hdoc, _ | ⟨hincludes, _ | ⟨hmarkup, hvalues⟩⟩⟩
  rcases hvalues with _ | ⟨htypes, _ | ⟨hconsts, _ | ⟨hnonconsts, _ | ⟨hreprs, _ | _⟩⟩⟩⟩
  replace hfields : d.fields? Schema.fieldNames = _ := hfields
  simp [Schema.decode?, hfields, decodes_string _ _ hfacet, decodes_namespaces _ _ hnamespaces,
    decodes_string _ _ hbrief, decodes_strings _ _ hdoc, decodes_strings _ _ hincludes,
    decodes_bool _ _ hmarkup, decodes_typeAlias.list _ _ htypes, decodes_method.list _ _ hconsts,
    decodes_method.list _ _ hnonconsts, decodes_representation.list _ _ hreprs]

/-! ### Documents of schemas -/

/-- No key stands twice in the document, and it is read back from its JSON text. -/
structure Document.Storable (depth : Nat) (d : Document) : Prop where
  distinct : d.Distinct
  readsBack : Json.ReadsBack depth d

namespace Document.Storable

variable {depth : Nat}

theorem string (text : String) : Storable depth (.string text) :=
  ⟨.string text, .string text⟩

theorem bool (value : Bool) : Storable depth (.bool value) :=
  ⟨.bool value, .bool value⟩

theorem ofString? (text : Option String) : Storable depth (Document.ofString? text) := by
  cases text with
  | none => exact ⟨.null, .null⟩
  | some text => exact .string text

theorem list {α : Type} {write : α → Document} (h : ∀ a, Storable depth (write a)) (as : List α) :
    Storable (depth + 1) (.list (as.map write)) := by
  have hitems : ∀ item ∈ as.map write, Storable depth item := List.forall_mem_map.2 fun a _ => h a
  exact ⟨.list fun item hitem => (hitems item hitem).distinct,
    .list fun item hitem => (hitems item hitem).readsBack⟩

theorem strings (texts : List String) : Storable (depth + 1) (Document.strings texts) :=
  list string texts

theorem mapping {members : List (String × Document)} (hkeys : (members.map Prod.fst).Nodup)
    (h : ∀ member ∈ members, Storable depth member.2) : Storable (depth + 1) (.mapping members) :=
  ⟨.mapping hkeys fun member hmember => (h member hmember).distinct,
    .mapping fun member hmember => (h member hmember).readsBack⟩

end Document.Storable

theorem storable_param (depth : Nat) (p : Param) : Storable (depth + 1) p.toDocument := by
  refine .mapping (by show ["type", "name"].Nodup; decide) ?_
  simp only [List.forall_mem_cons]
  exact ⟨.string _, .string _, List.forall_mem_nil _⟩

theorem storable_qualifiers (depth : Nat) (q : Qualifiers) : Storable (depth + 1) q.toDocument := by
  refine .mapping (by show ["is_const", "noexcept"].Nodup; decide) ?_
  simp only [List.forall_mem_cons]
  exact ⟨.bool _, .bool _, List.forall_mem_nil _⟩

theorem storable_method (depth : Nat) (m : Method (List String)) :
    Storable (depth + 3) (m.toDocument strings) := by
  refine .mapping (by show ["name", "return_type", "kind", "qualifiers", "params", "doc"].Nodup; decide) ?_
  simp only [List.forall_mem_cons]
  exact ⟨.string _, .string _, .string _, storable_qualifiers _ _, .list (storable_param depth) _,
    .strings _, List.forall_mem_nil _⟩

theorem storable_typeAlias (depth : Nat) (t : TypeAlias (List String)) :
    Storable (depth + 2) (t.toDocument strings) := by
  refine .mapping (by show ["name", "definition", "doc"].Nodup; decide) ?_
  simp only [List.forall_mem_cons]
  exact ⟨.string _, .string _, .strings _, List.forall_mem_nil _⟩

theorem storable_namespaces (depth : Nat) (n : Namespaces) : Storable (depth + 1) n.toDocument := by
  refine .mapping (by show ["outer", "inner"].Nodup; decide) ?_
  simp only [List.forall_mem_cons]
  exact ⟨.string _, .string _, List.forall_mem_nil _⟩

theorem storable_representation (depth : Nat) (r : Representation) :
    Storable (depth + 1) r.toDocument := by
  refine .mapping (by show ["name", "include"].Nodup; decide) ?_
  simp only [List.forall_mem_cons]
  exact ⟨.string _, .ofString? _, List.forall_mem_nil _⟩

namespace Schema

theorem storable (depth : Nat) (s : Schema) : Storable (depth + 5) s.toDocument := by
  refine .mapping (by show fieldNames.Nodup; decide) ?_
  simp only [List.forall_mem_cons]
  exact ⟨.string _, storable_namespaces _ _, .string _, .strings _, .strings _, .bool _,
    .list (storable_typeAlias (depth + 1)) _, .list (storable_method depth) _,
    .list (storable_method depth) _, .list (storable_representation (depth + 2)) _,
    List.forall_mem_nil _⟩

/-- The JSON text of a schema is read as the canonical form of its document. -/
theorem read?_pretty_toDocument (s : Schema) :
    Format.read? .json (Json.pretty s.toDocument ++ "\n") = some s.toDocument.canonical := by
  have hread := Json.read?_pretty (s.storable (Json.nestingLimit - 5)).readsBack
  rw [Format.read?, hread]
  rfl

/-- What a schema is rendered to. -/
def rendered (s : Schema) (r : Renderer) (provenance : Provenance) (profile : Profile) (layout : Layout) :
    Except RenderError (List RenderedArtifact) :=
  let facet := Facet.ofSchema s
  r.artifacts (facet.context provenance) (Plan.ofFacet facet profile layout).artifacts

/-- **A schema is read back from its document**, also from the canonical form of the document and from its
JSON text, and from every document with the same members in another order. So the facet, all plans and all
that is rendered can be had from such a document as well. -/
theorem document_roundTrip (s : Schema) :
    decode? s.toDocument = some s ∧
    decode? s.toDocument.canonical = some s ∧
    (Format.read? .json (Json.pretty s.toDocument ++ "\n")).bind decode? = some s ∧
    ∀ d, d.Reordered s.toDocument →
      decode? d = some s ∧
      (decode? d).map Facet.ofSchema = some (Facet.ofSchema s) ∧
      ∀ (profile : Profile) (layout : Layout),
        ((decode? d).map fun s' => Plan.ofFacet (Facet.ofSchema s') profile layout)
            = some (Plan.ofFacet (Facet.ofSchema s) profile layout) ∧
          ∀ (r : Renderer) (provenance : Provenance),
            ((decode? d).map fun s' => s'.rendered r provenance profile layout)
              = some (s.rendered r provenance profile layout) := by
  have hdistinct : s.toDocument.Distinct := (s.storable 0).distinct
  have hcanonical : decode? s.toDocument.canonical = some s := decodes_schema s _ hdistinct.canonical
  refine ⟨decodes_schema s _ hdistinct.refl, hcanonical, ?_, ?_⟩
  · rw [read?_pretty_toDocument, Option.bind_some, hcanonical]
  · intro d hd
    rw [decodes_schema s d hd]
    exact ⟨rfl, rfl, fun profile layout => ⟨rfl, fun r provenance => rfl⟩⟩

/-- A schema whose texts are no names, with a method that is not of its list's kind. -/
def unfit : Schema :=
  { facet := "\"\\", namespaces := ⟨"", "\n"⟩, brief := "é\x01", doc := ["", "a\nb"], includes := [" <x>"]
    docMarkup := true, types := [⟨"T", "int", []⟩]
    constMethods := [⟨"f", "", .nonconst, ⟨false, true⟩, [⟨"int", "data"⟩, ⟨"", ""⟩], ["😀"]⟩]
    nonconstMethods := [], representations := [⟨"R", none⟩, ⟨"R", some ""⟩] }

theorem document_roundTrip_unfit :
    let d := unfit.toDocument.canonical
    d ≠ unfit.toDocument ∧ d.Reordered unfit.toDocument ∧ decode? d = some unfit ∧
      (decode? d).map Facet.ofSchema = some (Facet.ofSchema unfit) := by
  have hother : Json.compact unfit.toDocument.canonical ≠ Json.compact unfit.toDocument := by decide +kernel
  have hreordered := (unfit.storable 0).distinct.canonical
  have hread := (document_roundTrip unfit).2.2.2 _ hreordered
  exact ⟨fun h => hother (congrArg Json.compact h), hreordered, hread.1, hread.2.1⟩

end Schema

end Faceting
