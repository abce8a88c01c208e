import Faceting.Proofs.Basic
import Faceting.Schema.Reader

/-!
# The grammar of descriptions

Which documents are descriptions (`IsDescription`) and what a description declares (`declaredSchema`),
both said without the reader and without locations. The two sides are kept apart:

* a form, such as `IsName` or `IsMethod`, says which documents are fit for a place in a description;
* a content, such as `Document.asText` or `declaredMethod`, says what a document in that place stands for.
  A content is defined on all documents, with the default of an absent member for null.

`Reads read form content` ties a reader to both: it accepts the documents of the form and no others, and
gives their content. There is one rule for each way of putting readers together (`Reads.required`,
`Reads.optional`, `Reads.listOf`) and one lemma for each part of a description, up to `reads_reader`.
-/

namespace Faceting

/-! ### Identifiers -/

namespace Text

/-- A letter of the Latin alphabet or an underscore. -/
def IsNameStart (c : Char) : Prop :=
  ('A' ≤ c ∧ c ≤ 'Z') ∨ ('a' ≤ c ∧ c ≤ 'z') ∨ c = '_'

/-- The whole text is a letter or underscore and then letters, underscores and decimal digits. -/
def IsIdentifier (text : String) : Prop :=
  ∃ first rest, text.toList = first :: rest ∧ IsNameStart first ∧
    ∀ c ∈ rest, IsNameStart c ∨ ('0' ≤ c ∧ c ≤ '9')

theorem isIdentifierStart_iff (c : Char) : isIdentifierStart c = true ↔ IsNameStart c := by
  have hupper : c.isUpper = true ↔ 'A' ≤ c ∧ c ≤ 'Z' := decide_eq_true_iff
  have hlower : c.isLower = true ↔ 'a' ≤ c ∧ c ≤ 'z' :=
    Bool.and_eq_true_iff.trans (and_congr decide_eq_true_iff decide_eq_true_iff)
  have halpha : c.isAlpha = true ↔ c.isUpper = true ∨ c.isLower = true := Bool.or_eq_true_iff
  rw [isIdentifierStart, Bool.or_eq_true, beq_iff_eq, halpha, hupper, hlower, or_assoc, IsNameStart]

theorem isIdentifierPart_iff (c : Char) :
    isIdentifierPart c = true ↔ IsNameStart c ∨ ('0' ≤ c ∧ c ≤ '9') := by
  simp only [isIdentifierPart, Bool.or_eq_true, isIdentifierStart_iff, Char.isDigit, Bool.and_eq_true,
    decide_eq_true_eq]
  rfl

theorem isIdentifier_iff (text : String) : isIdentifier text = true ↔ IsIdentifier text := by
  unfold isIdentifier IsIdentifier
  cases text.toList with
  | nil => simp
  | cons first rest =>
    simp only [Bool.and_eq_true, List.all_eq_true, isIdentifierStart_iff, isIdentifierPart_iff]
    constructor
    · rintro ⟨hfirst, hrest⟩
      exact ⟨first, rest, rfl, hfirst, hrest⟩
    · rintro ⟨_, _, heq, hfirst, hrest⟩
      cases heq
      exact ⟨hfirst, hrest⟩

end Text

/-! ### Contents -/

namespace Document

/-- What stands under a key; null if nothing does. -/
def under (key : String) (d : Document) : Document :=
  (d.member? key).getD .null

/-- A text. -/
def asText : Document → String
  | .string text => text
  | _ => ""

/-- A text, if there is one. -/
def asText? : Document → Option String
  | .string text => some text
  | _ => none

/-- A boolean, or what stands for its absence. -/
def asFlag (default : Bool) : Document → Bool
  | .bool value => value
  | _ => default

/-- The items of a list. -/
def asItems : Document → List Document
  | .list items => items
  | _ => []

/-- The lines of documentation, given as one text or one by one. -/
def asLines : Document → List String
  | .string text => Text.lines text
  | .list items => items.map asText
  | _ => []

end Document

namespace Schema

open Document

/-- The parameter that a document declares. -/
def declaredParam (d : Document) : Param :=
  ⟨(d.under "type").asText, (d.under "name").asText⟩

/-- The type alias that a document declares. -/
def declaredType (d : Document) : TypeAlias (List String) :=
  ⟨(d.under "name").asText, (d.under "definition").asText, (d.under "doc").asLines⟩

/-- The method that a document declares in the list of a kind. -/
def declaredMethod (kind : MethodKind) (d : Document) : Method (List String) :=
  { name := (d.under "name").asText
    returnType := (d.under "return").asText
    kind := kind
    qualifiers := ⟨(d.under "const").asFlag (kind == .const), (d.under "noexcept").asFlag false⟩
    params := (d.under "args").asItems.map declaredParam
    doc := (d.under "doc").asLines }

/-- The representation that a document declares. -/
def declaredRepresentation (d : Document) : Representation :=
  ⟨(d.under "name").asText, (d.under "include").asText?⟩

/-- The schema that a description declares. -/
def declaredSchema (d : Document) : Schema :=
  { facet := (d.under "facet").asText
    namespaces := ⟨(d.under "namespace1").asText, (d.under "namespace2").asText⟩
    brief := (d.under "brief").asText
    doc := (d.under "doc").asLines
    includes := (d.under "includes").asItems.map asText
    docMarkup := (d.under "using_doxygen").asFlag false
    types := (d.under "types").asItems.map declaredType
    constMethods := (d.under "const_methods").asItems.map (declaredMethod .const)
    nonconstMethods := (d.under "nonconst_methods").asItems.map (declaredMethod .nonconst)
    representations := (d.under "reprs").asItems.map declaredRepresentation }

/-! ### Forms -/

/-- A mapping has a value under a key. Null counts as nothing. -/
def Has (d : Document) (key : String) (value : Document) : Prop :=
  (∃ members, d = .mapping members ∧ members.lookup key = some value) ∧ value ≠ .null

/-- A mapping has a value of a form under a key. -/
def Requires (key : String) (form : Document → Prop) (d : Document) : Prop :=
  ∃ value, Has d key value ∧ form value

/-- A value under a key, if there is one, is of a form. -/
def Permits (key : String) (form : Document → Prop) (d : Document) : Prop :=
  ∀ value, Has d key value → form value

/-- A list whose items are of a form. -/
def IsListOf (form : Document → Prop) (d : Document) : Prop :=
  ∃ items, d = .list items ∧ ∀ item ∈ items, form item

/-- A text. -/
def IsText (d : Document) : Prop :=
  ∃ text, d = .string text

/-- A boolean. -/
def IsFlag (d : Document) : Prop :=
  ∃ value, d = .bool value

/-- A text that is an identifier. -/
def IsName (d : Document) : Prop :=
  ∃ text, d = .string text ∧ Text.IsIdentifier text

/-- Documentation. -/
def IsDoc (d : Document) : Prop :=
  IsText d ∨ IsListOf IsText d

/-- A parameter, which does not take the name of the receiver. -/
structure IsParam (d : Document) : Prop where
  type : Requires "type" IsText d
  name : Requires "name" IsName d
  notReceiver : (d.under "name").asText ≠ "data"

/-- A type alias. -/
structure IsType (d : Document) : Prop where
  name : Requires "name" IsName d
  definition : Requires "definition" IsText d
  doc : Permits "doc" IsDoc d

/-- A method. -/
structure IsMethod (d : Document) : Prop where
  name : Requires "name" IsName d
  returnType : Requires "return" IsText d
  isConst : Permits "const" IsFlag d
  noexcept : Permits "noexcept" IsFlag d
  args : Permits "args" (IsListOf IsParam) d
  doc : Permits "doc" IsDoc d

/-- A representation. -/
structure IsRepresentation (d : Document) : Prop where
  name : Requires "name" IsName d
  declaredIn : Permits "include" IsText d

/-- The names under which the items of a list declare representations. -/
def representationNames (items : List Document) : List String :=
  items.map fun item => (declaredRepresentation item).name

/-- A list of representations, whose names differ from each other and from the generated ones. -/
structure AreRepresentations (d : Document) : Prop where
  items : IsListOf IsRepresentation d
  notReserved : ∀ name ∈ representationNames d.asItems, name ∉ ["Any", "Xfer", "Impl"]
  distinct : (representationNames d.asItems).Nodup

/-- A description of a facet. -/
structure IsDescription (d : Document) : Prop where
  facet : Requires "facet" IsName d
  outer : Requires "namespace1" IsName d
  inner : Requires "namespace2" IsName d
  brief : Requires "brief" IsText d
  doc : Permits "doc" IsDoc d
  includes : Permits "includes" (IsListOf IsText) d
  docMarkup : Permits "using_doxygen" IsFlag d
  types : Permits "types" (IsListOf IsType) d
  constMethods : Requires "const_methods" (IsListOf IsMethod) d
  nonconstMethods : Requires "nonconst_methods" (IsListOf IsMethod) d
  representations : Permits "reprs" AreRepresentations d

/-! ### Members -/

theorem present?_eq_some_iff {key : String} {d value : Document} :
    present? key d = some value ↔ Has d key value := by
  have hmember : d.member? key = some value ↔
      ∃ members, d = .mapping members ∧ members.lookup key = some value := by
    cases d <;> simp [Document.member?]
  unfold present? Has
  rw [← hmember]
  split
  · rename_i hnull
    rw [hnull]
    constructor
    · intro h
      cases h
    · rintro ⟨heq, hvalue⟩
      exact absurd (Option.some.inj heq).symm hvalue
  · rename_i hother
    constructor
    · intro h
      refine ⟨h, ?_⟩
      rintro rfl
      exact hother h
    · exact And.left

theorem present?_eq_none {key : String} {d : Document} (h : present? key d = none) :
    d.under key = .null := by
  unfold present? at h
  unfold Document.under
  split at h
  · rename_i hnull
    rw [hnull]
    rfl
  · rw [h]
    rfl

theorem Has.under {d value : Document} {key : String} (h : Has d key value) : d.under key = value := by
  obtain ⟨⟨members, rfl, hlookup⟩, -⟩ := h
  simp [Document.under, Document.member?, hlookup]

theorem Has.isMapping {d value : Document} {key : String} (h : Has d key value) :
    d.isMapping = true := by
  obtain ⟨⟨members, rfl, -⟩, -⟩ := h
  rfl

/-! ### Readers and forms -/

/-- A reader accepts the documents of a form, wherever they stand, and gives their content. -/
def Reads {α : Type} (read : Reader α) (form : Document → Prop) (content : Document → α) : Prop :=
  ∀ loc d a, read loc d = .ok a ↔ form d ∧ a = content d

section
variable {α β : Type} {read : Reader α} {form : Document → Prop} {content : Document → α}

/-- What follows a reader goes on with the content. -/
theorem Reads.bind (h : Reads read form content) {loc : Location} {d : Document}
    {next : α → Except SchemaError β} {b : β} :
    read loc d >>= next = .ok b ↔ form d ∧ next (content d) = .ok b := by
  constructor
  · intro hb
    obtain ⟨a, ha, hnext⟩ := bind_eq_ok hb
    obtain ⟨hform, rfl⟩ := (h loc d a).1 ha
    exact ⟨hform, hnext⟩
  · rintro ⟨hform, hnext⟩
    rw [(h loc d (content d)).2 ⟨hform, rfl⟩]
    exact hnext

theorem Reads.required (h : Reads read form content) (key : String) :
    Reads (required key read) (Requires key form) (fun d => content (d.under key)) := by
  intro loc d a
  unfold Schema.required
  cases hpresent : present? key d with
  | none =>
    have hlacks : ¬ Requires key form d := by
      rintro ⟨value, hvalue, -⟩
      rw [present?_eq_some_iff.2 hvalue] at hpresent
      cases hpresent
    split <;> simp [hlacks]
  | some value =>
    have hvalue := present?_eq_some_iff.1 hpresent
    rw [if_pos hvalue.isMapping]
    show read (loc.child key) value = .ok a ↔ _ ∧ a = content (d.under key)
    rw [h, hvalue.under]
    constructor
    · rintro ⟨hform, ha⟩
      exact ⟨⟨value, hvalue, hform⟩, ha⟩
    · rintro ⟨⟨other, hother, hform⟩, ha⟩
      rw [← hother.under, hvalue.under] at hform
      exact ⟨hform, ha⟩

theorem Reads.optional (h : Reads read form content) (key : String) (default : α)
    (hdefault : content .null = default) :
    Reads (optional key default read) (Permits key form) (fun d => content (d.under key)) := by
  intro loc d a
  unfold Schema.optional
  cases hpresent : present? key d with
  | none =>
    have hpermits : Permits key form d := by
      intro value hvalue
      rw [present?_eq_some_iff.2 hvalue] at hpresent
      cases hpresent
    show Except.ok default = .ok a ↔ _ ∧ a = content (d.under key)
    rw [present?_eq_none hpresent, hdefault]
    simp [hpermits, eq_comm]
  | some value =>
    have hvalue := present?_eq_some_iff.1 hpresent
    show read (loc.child key) value = .ok a ↔ _ ∧ a = content (d.under key)
    rw [h, hvalue.under]
    constructor
    · rintro ⟨hform, ha⟩
      refine ⟨fun other hother => ?_, ha⟩
      rw [← hother.under, hvalue.under]
      exact hform
    · rintro ⟨hpermits, ha⟩
      exact ⟨hpermits value hvalue, ha⟩

theorem itemsFrom_eq_ok_iff (h : Reads read form content) {loc : Location} {position : Nat}
    {items : List Document} {as : List α} :
    itemsFrom read loc position items = .ok as ↔
      (∀ item ∈ items, form item) ∧ as = items.map content := by
  induction items generalizing position as with
  | nil => simp [itemsFrom, eq_comm]
  | cons item rest ih =>
    show read (loc.item position) item >>= _ = .ok as ↔ _
    rw [h.bind, List.forall_mem_cons, List.map_cons, and_assoc]
    refine and_congr_right fun _ => ?_
    cases hrest : itemsFrom read loc (position + 1) rest with
    | error e =>
      -- the rest is not read, so one of its items is not of the form
      have hbad : ¬ ∀ item ∈ rest, form item := by
        intro hgood
        rw [ih.2 ⟨hgood, rfl⟩] at hrest
        cases hrest
      simp [Except.map, hbad]
    | ok later =>
      obtain ⟨hgood, rfl⟩ := ih.1 hrest
      simp only [Except.map, Except.ok.injEq, eq_comm]
      exact (and_iff_right hgood).symm

theorem Reads.listOf (h : Reads read form content) :
    Reads (listOf read) (IsListOf form) (fun d => d.asItems.map content) := by
  intro loc d as
  cases d with
  | list items =>
    show itemsFrom read loc 0 items = .ok as ↔ _
    rw [itemsFrom_eq_ok_iff h]
    simp [IsListOf, Document.asItems]
  | _ => simp [Schema.listOf, IsListOf]

end

theorem reads_string : Reads string IsText asText := by
  intro loc d text
  cases d <;> simp [string, IsText, asText, eq_comm]

theorem reads_boolean (default : Bool) : Reads boolean IsFlag (asFlag default) := by
  intro loc d value
  cases d <;> simp [boolean, IsFlag, asFlag, eq_comm]

theorem reads_identifier : Reads identifier IsName asText := by
  intro loc d text
  show string loc d >>= _ = .ok text ↔ _
  rw [reads_string.bind]
  constructor
  · rintro ⟨⟨name, rfl⟩, h⟩
    split at h
    · rename_i hname
      cases h
      exact ⟨⟨name, rfl, (Text.isIdentifier_iff name).1 hname⟩, rfl⟩
    · cases h
  · rintro ⟨⟨name, rfl, hname⟩, rfl⟩
    exact ⟨⟨_, rfl⟩, if_pos ((Text.isIdentifier_iff _).2 hname)⟩

theorem reads_docLines : Reads docLines IsDoc asLines := by
  intro loc d lines
  cases d with
  | string text => simp [docLines, IsDoc, IsText, asLines, eq_comm]
  | list items =>
    show listOf string loc (.list items) = .ok lines ↔ _
    rw [reads_string.listOf]
    simp [IsDoc, IsText, asLines, asItems]
  | _ => simp [docLines, listOf, IsDoc, IsText, IsListOf]

/-! ### Parts of descriptions -/

theorem reads_param : Reads param IsParam declaredParam := by
  intro loc d p
  unfold param
  rw [(reads_string.required "type").bind, (reads_identifier.required "name").bind]
  constructor
  · rintro ⟨htype, hname, h⟩
    split at h
    · cases h
    · rename_i hreceiver
      cases h
      exact ⟨⟨htype, hname, hreceiver⟩, rfl⟩
  · rintro ⟨⟨htype, hname, hreceiver⟩, rfl⟩
    exact ⟨htype, hname, if_neg hreceiver⟩

theorem reads_typeAlias : Reads typeAlias IsType declaredType := by
  intro loc d t
  unfold typeAlias
  rw [(reads_identifier.required "name").bind, (reads_string.required "definition").bind,
    (reads_docLines.optional "doc" [] rfl).bind]
  constructor
  · rintro ⟨hname, hdefinition, hdoc, h⟩
    cases h
    exact ⟨⟨hname, hdefinition, hdoc⟩, rfl⟩
  · rintro ⟨⟨hname, hdefinition, hdoc⟩, rfl⟩
    exact ⟨hname, hdefinition, hdoc, rfl⟩

theorem reads_method (kind : MethodKind) : Reads (method kind) IsMethod (declaredMethod kind) := by
  intro loc d m
  unfold method
  rw [(reads_identifier.required "name").bind, (reads_string.required "return").bind,
    ((reads_boolean (kind == .const)).optional "const" (kind == .const) rfl).bind,
    ((reads_boolean false).optional "noexcept" false rfl).bind, (reads_param.listOf.optional "args" [] rfl).bind,
    (reads_docLines.optional "doc" [] rfl).bind]
  constructor
  · rintro ⟨hname, hreturn, hconst, hnoexcept, hargs, hdoc, h⟩
    cases h
    exact ⟨⟨hname, hreturn, hconst, hnoexcept, hargs, hdoc⟩, rfl⟩
  · rintro ⟨⟨hname, hreturn, hconst, hnoexcept, hargs, hdoc⟩, rfl⟩
    exact ⟨hname, hreturn, hconst, hnoexcept, hargs, hdoc, rfl⟩

theorem reads_include : Reads (fun loc d => (string loc d).map some) IsText asText? := by
  intro loc d text
  cases d <;> simp [string, Except.map, IsText, asText?, eq_comm]

theorem reads_representation : Reads representation IsRepresentation declaredRepresentation := by
  intro loc d r
  unfold representation
  rw [(reads_identifier.required "name").bind, (reads_include.optional "include" none rfl).bind]
  constructor
  · rintro ⟨hname, hinclude, h⟩
    cases h
    exact ⟨⟨hname, hinclude⟩, rfl⟩
  · rintro ⟨⟨hname, hinclude⟩, rfl⟩
    exact ⟨hname, hinclude, rfl⟩

/-- Representations are read if each is one and their names are new. -/
theorem representationsFrom_eq_ok_iff {loc : Location} {seen : List String} {position : Nat}
    {items : List Document} {rs : List Representation} :
    representationsFrom loc seen position items = .ok rs ↔
      ((∀ item ∈ items, IsRepresentation item) ∧
        (∀ name ∈ representationNames items, name ∉ reservedNames) ∧
        (∀ name ∈ representationNames items, name ∉ seen) ∧ (representationNames items).Nodup) ∧
      rs = items.map declaredRepresentation := by
  induction items generalizing seen position rs with
  | nil => simp [representationsFrom, representationNames, eq_comm]
  | cons item rest ih =>
    have hnames : representationNames (item :: rest)
        = (declaredRepresentation item).name :: representationNames rest := rfl
    show representation (loc.item position) item >>= _ = .ok rs ↔ _
    rw [reads_representation.bind, hnames]
    simp only [List.forall_mem_cons, List.nodup_cons, List.map_cons, List.contains_iff_mem]
    constructor
    · rintro ⟨hitem, h⟩
      split at h
      · cases h
      rename_i hreserved
      split at h
      · cases h
      rename_i hseen
      cases hrest : representationsFrom loc ((declaredRepresentation item).name :: seen) (position + 1)
          rest with
      | error e =>
        rw [hrest] at h
        cases h
      | ok later =>
        rw [hrest] at h
        cases h
        obtain ⟨⟨hforms, hreserveds, hseens, hdistinct⟩, rfl⟩ := ih.1 hrest
        refine ⟨⟨⟨hitem, hforms⟩, ⟨hreserved, hreserveds⟩, ⟨hseen, fun name hname hmem => ?_⟩,
          fun hmem => ?_, hdistinct⟩, rfl⟩
        · exact hseens name hname (List.mem_cons_of_mem _ hmem)
        · exact hseens _ hmem List.mem_cons_self
    · rintro ⟨⟨⟨hitem, hforms⟩, ⟨hreserved, hreserveds⟩, ⟨hseen, hseens⟩, hfresh, hdistinct⟩, rfl⟩
      refine ⟨hitem, ?_⟩
      rw [if_neg hreserved, if_neg hseen]
      -- the name of the item is one that the rest must not repeat
      have hnew : ∀ name ∈ representationNames rest,
          name ∉ (declaredRepresentation item).name :: seen := by
        intro name hname hmem
        rcases List.mem_cons.1 hmem with rfl | hmem
        · exact hfresh hname
        · exact hseens name hname hmem
      rw [ih.2 ⟨⟨hforms, hreserveds, hnew, hdistinct⟩, rfl⟩]
      rfl

theorem reads_representationList :
    Reads representationList AreRepresentations (fun d => d.asItems.map declaredRepresentation) := by
  intro loc d rs
  cases d with
  | list items =>
    show representationsFrom loc [] 0 items = .ok rs ↔ _
    rw [representationsFrom_eq_ok_iff]
    refine and_congr_left fun _ => ⟨?_, ?_⟩
    · rintro ⟨hforms, hreserved, -, hdistinct⟩
      exact ⟨⟨items, rfl, hforms⟩, hreserved, hdistinct⟩
    · rintro ⟨⟨_, heq, hforms⟩, hreserved, hdistinct⟩
      cases heq
      exact ⟨hforms, hreserved, fun name _ => List.not_mem_nil, hdistinct⟩
  | _ =>
    simp only [representationList, reduceCtorEq, false_iff, not_and]
    rintro ⟨⟨items, heq, -⟩, -, -⟩
    cases heq

/-- The reader of descriptions accepts the documents that are descriptions and gives what they declare. -/
theorem reads_reader : Reads reader IsDescription declaredSchema := by
  intro loc d s
  unfold reader methodsOf
  rw [(reads_identifier.required "facet").bind, (reads_identifier.required "namespace1").bind,
    (reads_identifier.required "namespace2").bind, (reads_string.required "brief").bind,
    (reads_docLines.optional "doc" [] rfl).bind, (reads_string.listOf.optional "includes" [] rfl).bind,
    ((reads_boolean false).optional "using_doxygen" false rfl).bind,
    (reads_typeAlias.listOf.optional "types" [] rfl).bind,
    ((reads_method .const).listOf.required MethodKind.const.listKey).bind,
    ((reads_method .nonconst).listOf.required MethodKind.nonconst.listKey).bind,
    (reads_representationList.optional "reprs" [] rfl).bind]
  constructor
  · rintro ⟨hfacet, houter, hinner, hbrief, hdoc, hincludes, hmarkup, htypes, hconsts, hnonconsts,
      hrepresentations, h⟩
    cases h
    exact ⟨⟨hfacet, houter, hinner, hbrief, hdoc, hincludes, hmarkup, htypes, hconsts, hnonconsts,
      hrepresentations⟩, rfl⟩
  · rintro ⟨⟨hfacet, houter, hinner, hbrief, hdoc, hincludes, hmarkup, htypes, hconsts, hnonconsts,
      hrepresentations⟩, rfl⟩
    exact ⟨hfacet, houter, hinner, hbrief, hdoc, hincludes, hmarkup, htypes, hconsts, hnonconsts,
      hrepresentations, rfl⟩

/-- **A document is accepted if and only if it is a description, and the schema is what it declares.** -/
theorem ofDocument_eq_ok_iff (d : Document) (s : Schema) :
    ofDocument d = .ok s ↔ IsDescription d ∧ s = declaredSchema d :=
  reads_reader [] d s

end Schema

end Faceting
