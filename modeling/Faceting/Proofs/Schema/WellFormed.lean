import Faceting.Proofs.Schema.Grammar
import Faceting.Schema.Encoding

/-!
# Which schemas descriptions declare

A schema is well formed (`Schema.WellFormed`) if its names are identifiers, no parameter has the name of
the receiver, every method has the kind of its list, and the names of representations differ from each
other and from those that are reserved. Nothing is asked of any other text, flag or list in it. The names of
files and classes need a part of this only (`Schema.WellNamed`).

The schemas that can be read from a document are exactly these (`Schema.exists_ofDocument_iff`):

* a part of a description of the right form declares something well formed (`IsParam.wellFormed`,
  `IsMethod.wellFormed`, up to `IsDescription.wellFormed`);
* everything well formed has a description (`Param.description`, `Method.description`, up to
  `Schema.description`), which is of the right form and declares it. The description gives every member,
  also where the default would do, and documentation line by line, because a line may hold a line feed.
-/

namespace Faceting

/-! ### Well-formed schemas -/

/-- The name of a parameter is an identifier, and not that of the receiver. -/
structure Param.WellFormed (p : Param) : Prop where
  name : Text.IsIdentifier p.name
  notReceiver : p.name ≠ "data"

/-- A method in the list of a kind has names that are identifiers, and that kind. -/
structure Method.WellFormed (kind : MethodKind) (m : Method (List String)) : Prop where
  name : Text.IsIdentifier m.name
  kind : m.kind = kind
  params : ∀ p ∈ m.params, p.WellFormed

/-- The names of a schema are identifiers where they stand in generated source, and do not collide. -/
structure Schema.WellFormed (s : Schema) : Prop where
  facet : Text.IsIdentifier s.facet
  outer : Text.IsIdentifier s.namespaces.outer
  inner : Text.IsIdentifier s.namespaces.inner
  types : ∀ t ∈ s.types, Text.IsIdentifier t.name
  constMethods : ∀ m ∈ s.constMethods, m.WellFormed .const
  nonconstMethods : ∀ m ∈ s.nonconstMethods, m.WellFormed .nonconst
  representations : ∀ r ∈ s.representations, Text.IsIdentifier r.name
  notReserved : ∀ r ∈ s.representations, r.name ∉ ["Any", "Xfer", "Impl"]
  distinct : (s.representations.map Representation.name).Nodup

/-- The names of a schema are fit for names of files and classes. -/
structure Schema.WellNamed (s : Schema) : Prop where
  facet : Text.isIdentifier s.facet = true
  representations : ∀ r ∈ s.representations, Text.isIdentifier r.name = true
  notReserved : ∀ r ∈ s.representations, r.name ∉ reservedNames
  distinct : (s.representations.map Representation.name).Nodup

namespace Schema

/-! ### Lists of methods -/

/-- The methods in one of the two lists of a schema. -/
def methodsIn (s : Schema) : MethodKind → List (Method (List String))
  | .const => s.constMethods
  | .nonconst => s.nonconstMethods

theorem mem_methods_iff {s : Schema} {m : Method (List String)} :
    m ∈ s.methods ↔ ∃ list, m ∈ s.methodsIn list := by
  constructor
  · intro hm
    rcases List.mem_append.1 hm with hconst | hnonconst
    · exact ⟨.const, hconst⟩
    · exact ⟨.nonconst, hnonconst⟩
  · intro hm
    obtain ⟨list, hlist⟩ := hm
    cases list with
    | const => exact List.mem_append_left _ hlist
    | nonconst => exact List.mem_append_right _ hlist

theorem WellFormed.methods {s : Schema} (hs : s.WellFormed) {list : MethodKind}
    {m : Method (List String)} (hm : m ∈ s.methodsIn list) : m.WellFormed list := by
  cases list with
  | const => exact hs.constMethods m hm
  | nonconst => exact hs.nonconstMethods m hm

/-! ### What is declared is well formed -/

theorem Requires.under {key : String} {form : Document → Prop} {d : Document} (h : Requires key form d) :
    form (d.under key) := by
  obtain ⟨value, hvalue, hform⟩ := h
  rw [hvalue.under]
  exact hform

/-- What stands under a key that may be absent is nothing, or of the form. -/
theorem Permits.under {key : String} {form : Document → Prop} {d : Document} (h : Permits key form d) :
    d.under key = .null ∨ form (d.under key) := by
  cases hpresent : present? key d with
  | none => exact .inl (present?_eq_none hpresent)
  | some value =>
    have hvalue := present?_eq_some_iff.1 hpresent
    rw [hvalue.under]
    exact .inr (h value hvalue)

theorem IsName.isIdentifier {d : Document} (h : IsName d) : Text.IsIdentifier d.asText := by
  obtain ⟨text, rfl, htext⟩ := h
  exact htext

theorem IsListOf.forall_asItems {form : Document → Prop} {d : Document} (h : IsListOf form d) :
    ∀ item ∈ d.asItems, form item := by
  obtain ⟨items, rfl, hitems⟩ := h
  exact hitems

/-- A list that may be absent has items of its form only. -/
theorem Permits.forall_asItems {key : String} {form : Document → Prop} {d : Document}
    (h : Permits key (IsListOf form) d) : ∀ item ∈ (d.under key).asItems, form item := by
  rcases h.under with hnull | hlist
  · intro item hitem
    rw [hnull] at hitem
    cases hitem
  · exact hlist.forall_asItems

theorem IsParam.wellFormed {d : Document} (h : IsParam d) : (declaredParam d).WellFormed :=
  ⟨h.name.under.isIdentifier, h.notReceiver⟩

theorem IsMethod.wellFormed {d : Document} (h : IsMethod d) (kind : MethodKind) :
    (declaredMethod kind d).WellFormed kind := by
  refine ⟨h.name.under.isIdentifier, rfl, ?_⟩
  intro p hp
  obtain ⟨item, hitem, rfl⟩ := List.mem_map.1 hp
  exact (h.args.forall_asItems item hitem).wellFormed

/-- Methods that are declared in the list of a kind are well formed. -/
theorem wellFormed_of_methods {key : String} {d : Document} (h : Requires key (IsListOf IsMethod) d)
    (kind : MethodKind) : ∀ m ∈ (d.under key).asItems.map (declaredMethod kind), m.WellFormed kind := by
  intro m hm
  obtain ⟨item, hitem, rfl⟩ := List.mem_map.1 hm
  exact (h.under.forall_asItems item hitem).wellFormed kind

/-- Representations that are declared have names of their own, also where none is declared. -/
theorem areRepresentations_under {d : Document} (h : Permits "reprs" AreRepresentations d) :
    (∀ item ∈ (d.under "reprs").asItems, IsRepresentation item) ∧
      (∀ name ∈ representationNames (d.under "reprs").asItems, name ∉ ["Any", "Xfer", "Impl"]) ∧
      (representationNames (d.under "reprs").asItems).Nodup := by
  rcases h.under with hnull | hlist
  · rw [hnull]
    exact ⟨by simp [Document.asItems], by simp [Document.asItems, representationNames], List.nodup_nil⟩
  · exact ⟨hlist.items.forall_asItems, hlist.notReserved, hlist.distinct⟩

/-- **A description declares a well-formed schema.** -/
theorem IsDescription.wellFormed {d : Document} (h : IsDescription d) : (declaredSchema d).WellFormed := by
  obtain ⟨hforms, hnotReserved, hdistinct⟩ := areRepresentations_under h.representations
  have hnames : (declaredSchema d).representations.map Representation.name
      = representationNames (d.under "reprs").asItems := List.map_map
  refine ⟨h.facet.under.isIdentifier, h.outer.under.isIdentifier, h.inner.under.isIdentifier, ?_,
    wellFormed_of_methods h.constMethods .const, wellFormed_of_methods h.nonconstMethods .nonconst, ?_, ?_, ?_⟩
  · intro t ht
    obtain ⟨item, hitem, rfl⟩ := List.mem_map.1 ht
    exact (h.types.forall_asItems item hitem).name.under.isIdentifier
  · intro r hr
    obtain ⟨item, hitem, rfl⟩ := List.mem_map.1 hr
    exact (hforms item hitem).name.under.isIdentifier
  · intro r hr
    apply hnotReserved r.name
    rw [← hnames]
    exact List.mem_map_of_mem hr
  · rw [hnames]
    exact hdistinct

theorem wellFormed_of_ofDocument {d : Document} {s : Schema} (h : ofDocument d = .ok s) :
    s.WellFormed := by
  obtain ⟨hd, rfl⟩ := (reads_reader [] d s).1 h
  exact hd.wellFormed

theorem WellFormed.wellNamed {s : Schema} (h : s.WellFormed) : s.WellNamed where
  facet := (Text.isIdentifier_iff s.facet).2 h.facet
  representations r hr := (Text.isIdentifier_iff r.name).2 (h.representations r hr)
  notReserved := h.notReserved
  distinct := h.distinct

/-- The names of an accepted schema are fit for names of files and classes. -/
theorem wellNamed_of_ofDocument {d : Document} {s : Schema} (h : ofDocument d = .ok s) : s.WellNamed :=
  (wellFormed_of_ofDocument h).wellNamed

end Schema

/-! ### Descriptions -/

/-- The document that declares a parameter. -/
def Param.description (p : Param) : Document :=
  .mapping [("type", .string p.type), ("name", .string p.name)]

/-- The document that declares a type alias. -/
def TypeAlias.description (t : TypeAlias (List String)) : Document :=
  .mapping [("name", .string t.name), ("definition", .string t.definition),
    ("doc", Document.strings t.doc)]

/-- The document that declares a method in the list of its kind. -/
def Method.description (m : Method (List String)) : Document :=
  .mapping [("name", .string m.name), ("return", .string m.returnType),
    ("const", .bool m.qualifiers.isConst), ("noexcept", .bool m.qualifiers.noexcept),
    ("args", .list (m.params.map Param.description)), ("doc", Document.strings m.doc)]

/-- The document that declares a representation. -/
def Representation.description (r : Representation) : Document :=
  .mapping [("name", .string r.name), ("include", Document.ofString? r.declaredIn)]

/-- The document that declares a schema. -/
def Schema.description (s : Schema) : Document :=
  .mapping [("facet", .string s.facet), ("namespace1", .string s.namespaces.outer),
    ("namespace2", .string s.namespaces.inner), ("brief", .string s.brief),
    ("doc", Document.strings s.doc), ("includes", Document.strings s.includes),
    ("using_doxygen", .bool s.docMarkup), ("types", .list (s.types.map TypeAlias.description)),
    ("const_methods", .list (s.constMethods.map Method.description)),
    ("nonconst_methods", .list (s.nonconstMethods.map Method.description)),
    ("reprs", .list (s.representations.map Representation.description))]

namespace Schema

/-! ### Descriptions are of the right form -/

theorem requires_of_lookup {members : List (String × Document)} {key : String} {value : Document}
    {form : Document → Prop} (hlookup : members.lookup key = some value) (hnull : value ≠ .null)
    (hform : form value) : Requires key form (.mapping members) :=
  ⟨value, ⟨⟨members, rfl, hlookup⟩, hnull⟩, hform⟩

theorem permits_of_lookup {members : List (String × Document)} {key : String} {value : Document}
    {form : Document → Prop} (hlookup : members.lookup key = some value)
    (hform : value ≠ .null → form value) : Permits key form (.mapping members) := by
  intro other hother
  obtain ⟨⟨_, heq, hlookup'⟩, hnull⟩ := hother
  cases heq
  rw [hlookup] at hlookup'
  cases hlookup'
  exact hform hnull

theorem isName_string {text : String} (h : Text.IsIdentifier text) : IsName (.string text) :=
  ⟨text, rfl, h⟩

theorem isText_string (text : String) : IsText (.string text) :=
  ⟨text, rfl⟩

theorem isFlag_bool (value : Bool) : IsFlag (.bool value) :=
  ⟨value, rfl⟩

/-- A list of descriptions is a list of their form. -/
theorem isListOf_map {α : Type} {form : Document → Prop} {write : α → Document} {as : List α}
    (h : ∀ a ∈ as, form (write a)) : IsListOf form (.list (as.map write)) := by
  refine ⟨as.map write, rfl, ?_⟩
  intro item hitem
  obtain ⟨a, ha, rfl⟩ := List.mem_map.1 hitem
  exact h a ha

theorem isListOf_strings (texts : List String) : IsListOf IsText (Document.strings texts) :=
  isListOf_map fun text _ => isText_string text

theorem isParam_description {p : Param} (h : p.WellFormed) : IsParam p.description where
  type := requires_of_lookup rfl nofun (isText_string p.type)
  name := requires_of_lookup rfl nofun (isName_string h.name)
  notReceiver := h.notReceiver

theorem isType_description {t : TypeAlias (List String)} (h : Text.IsIdentifier t.name) :
    IsType t.description where
  name := requires_of_lookup rfl nofun (isName_string h)
  definition := requires_of_lookup rfl nofun (isText_string t.definition)
  doc := permits_of_lookup rfl fun _ => .inr (isListOf_strings t.doc)

theorem isMethod_description {kind : MethodKind} {m : Method (List String)} (h : m.WellFormed kind) :
    IsMethod m.description where
  name := requires_of_lookup rfl nofun (isName_string h.name)
  returnType := requires_of_lookup rfl nofun (isText_string m.returnType)
  isConst := permits_of_lookup rfl fun _ => isFlag_bool m.qualifiers.isConst
  noexcept := permits_of_lookup rfl fun _ => isFlag_bool m.qualifiers.noexcept
  args := permits_of_lookup rfl fun _ => isListOf_map fun p hp => isParam_description (h.params p hp)
  doc := permits_of_lookup rfl fun _ => .inr (isListOf_strings m.doc)

/-- A text that may be missing is a text where it is not: null counts as nothing. -/
theorem isText_ofString? {text : Option String} (h : Document.ofString? text ≠ .null) :
    IsText (Document.ofString? text) := by
  cases text with
  | none => exact absurd rfl h
  | some text => exact isText_string text

theorem isRepresentation_description {r : Representation} (h : Text.IsIdentifier r.name) :
    IsRepresentation r.description where
  name := requires_of_lookup rfl nofun (isName_string h)
  declaredIn := permits_of_lookup rfl isText_ofString?

/-! ### Descriptions declare what they are made from -/

/-- A list of descriptions declares what they are made from. -/
theorem map_declared {α : Type} {content : Document → α} {write : α → Document} {as : List α}
    (h : ∀ a ∈ as, content (write a) = a) : (as.map write).map content = as := by
  rw [List.map_map]
  calc as.map (content ∘ write) = as.map id := List.map_congr_left h
    _ = as := List.map_id as

theorem asLines_strings (lines : List String) : (Document.strings lines).asLines = lines :=
  map_declared fun _ _ => rfl

theorem declaredParam_description (p : Param) : declaredParam p.description = p := rfl

theorem declaredType_description (t : TypeAlias (List String)) : declaredType t.description = t := by
  show TypeAlias.mk t.name t.definition (Document.strings t.doc).asLines = t
  rw [asLines_strings]

/-- A method is declared by its description, if it stands in the list of its kind. -/
theorem declaredMethod_description {kind : MethodKind} {m : Method (List String)} (h : m.kind = kind) :
    declaredMethod kind m.description = m := by
  subst h
  have hparams : (m.params.map Param.description).map declaredParam = m.params :=
    map_declared fun p _ => declaredParam_description p
  show Method.mk m.name m.returnType m.kind m.qualifiers
    ((m.params.map Param.description).map declaredParam) (Document.strings m.doc).asLines = m
  rw [hparams, asLines_strings]

theorem declaredRepresentation_description (r : Representation) :
    declaredRepresentation r.description = r := by
  show Representation.mk r.name (Document.ofString? r.declaredIn).asText? = r
  obtain ⟨name, declaredIn⟩ := r
  cases declaredIn <;> rfl

theorem representationNames_description (rs : List Representation) :
    representationNames (rs.map Representation.description) = rs.map Representation.name := by
  unfold representationNames
  rw [List.map_map]
  rfl

theorem areRepresentations_description {s : Schema} (h : s.WellFormed) :
    AreRepresentations (.list (s.representations.map Representation.description)) where
  items := isListOf_map fun r hr => isRepresentation_description (h.representations r hr)
  notReserved := by
    show ∀ name ∈ representationNames (s.representations.map Representation.description), _
    rw [representationNames_description]
    intro name hname
    obtain ⟨r, hr, rfl⟩ := List.mem_map.1 hname
    exact h.notReserved r hr
  distinct := by
    show (representationNames (s.representations.map Representation.description)).Nodup
    rw [representationNames_description]
    exact h.distinct

theorem isDescription_description {s : Schema} (h : s.WellFormed) : IsDescription s.description where
  facet := requires_of_lookup rfl nofun (isName_string h.facet)
  outer := requires_of_lookup rfl nofun (isName_string h.outer)
  inner := requires_of_lookup rfl nofun (isName_string h.inner)
  brief := requires_of_lookup rfl nofun (isText_string s.brief)
  doc := permits_of_lookup rfl fun _ => .inr (isListOf_strings s.doc)
  includes := permits_of_lookup rfl fun _ => isListOf_strings s.includes
  docMarkup := permits_of_lookup rfl fun _ => isFlag_bool s.docMarkup
  types := permits_of_lookup rfl fun _ => isListOf_map fun t ht => isType_description (h.types t ht)
  constMethods := requires_of_lookup rfl nofun
    (isListOf_map fun m hm => isMethod_description (h.constMethods m hm))
  nonconstMethods := requires_of_lookup rfl nofun
    (isListOf_map fun m hm => isMethod_description (h.nonconstMethods m hm))
  representations := permits_of_lookup rfl fun _ => areRepresentations_description h

theorem declaredSchema_description {s : Schema} (h : s.WellFormed) :
    declaredSchema s.description = s := by
  have hincludes : (s.includes.map Document.string).map Document.asText = s.includes :=
    map_declared fun _ _ => rfl
  have htypes : (s.types.map TypeAlias.description).map declaredType = s.types :=
    map_declared fun t _ => declaredType_description t
  have hconst : (s.constMethods.map Method.description).map (declaredMethod .const) = s.constMethods :=
    map_declared fun m hm => declaredMethod_description (h.constMethods m hm).kind
  have hnonconst : (s.nonconstMethods.map Method.description).map (declaredMethod .nonconst)
      = s.nonconstMethods :=
    map_declared fun m hm => declaredMethod_description (h.nonconstMethods m hm).kind
  have hrepresentations : (s.representations.map Representation.description).map declaredRepresentation
      = s.representations :=
    map_declared fun r _ => declaredRepresentation_description r
  show Schema.mk s.facet s.namespaces s.brief (Document.strings s.doc).asLines
    ((s.includes.map Document.string).map Document.asText) s.docMarkup
    ((s.types.map TypeAlias.description).map declaredType)
    ((s.constMethods.map Method.description).map (declaredMethod .const))
    ((s.nonconstMethods.map Method.description).map (declaredMethod .nonconst))
    ((s.representations.map Representation.description).map declaredRepresentation) = s
  rw [asLines_strings, hincludes, htypes, hconst, hnonconst, hrepresentations]

/-- **The schemas that are declared by a document are the well-formed ones.** -/
theorem exists_ofDocument_iff (s : Schema) : (∃ d, ofDocument d = .ok s) ↔ s.WellFormed := by
  constructor
  · intro h
    obtain ⟨d, hd⟩ := h
    exact wellFormed_of_ofDocument hd
  · intro h
    have hdeclared := declaredSchema_description h
    exact ⟨s.description, (reads_reader [] _ s).2 ⟨isDescription_description h, hdeclared.symm⟩⟩

end Schema

end Faceting
