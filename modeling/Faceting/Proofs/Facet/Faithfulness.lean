import Faceting.Proofs.Facet.Receiver

/-!
# Completion loses nothing but spelling

Two accepted schemas have the same facet if and only if they agree on everything that is not spelling
(`Schema.Agrees`): documentation may be cut into lines in different ways, and includes may be written
in different ways, as long as they come to the same text and to the same operands. That the agreement is
enough is plain, because completion looks at nothing else. That it is needed says that completion can be
taken back (`ofSchema_eq_iff`).

The one step that loses something in general is the receiver: it is not added to parameters that start
with it. No declared parameter has its name, and so the parameters can be told from what follows the
receiver (`Method.complete_eq_iff`). All else is carried through the lists of the schema by
`map_eq_map_iff_forall₂`.
-/

namespace Faceting

/-! ### Agreement -/

/-- Two methods are the same but for how their documentation is cut into lines. -/
structure Method.Agrees (m m' : Method (List String)) : Prop where
  name : m.name = m'.name
  returnType : m.returnType = m'.returnType
  kind : m.kind = m'.kind
  qualifiers : m.qualifiers = m'.qualifiers
  params : m.params = m'.params
  doc : docText m.doc = docText m'.doc

/-- Two type aliases are the same but for how their documentation is cut into lines. -/
structure TypeAlias.Agrees (t t' : TypeAlias (List String)) : Prop where
  name : t.name = t'.name
  definition : t.definition = t'.definition
  doc : docText t.doc = docText t'.doc

/-- Two representations are the same but for how their includes are written, if they have any. -/
structure Representation.Agrees (r r' : Representation) : Prop where
  name : r.name = r'.name
  declaredIn : r.declaredIn.map includeOperand = r'.declaredIn.map includeOperand

/-- Two schemas are the same but for how documentation is cut into lines and how includes are written. -/
structure Schema.Agrees (s s' : Schema) : Prop where
  facet : s.facet = s'.facet
  namespaces : s.namespaces = s'.namespaces
  brief : s.brief = s'.brief
  doc : docText s.doc = docText s'.doc
  includes : List.Forall₂ (fun i i' => includeOperand i = includeOperand i') s.includes s'.includes
  docMarkup : s.docMarkup = s'.docMarkup
  types : List.Forall₂ TypeAlias.Agrees s.types s'.types
  constMethods : List.Forall₂ Method.Agrees s.constMethods s'.constMethods
  nonconstMethods : List.Forall₂ Method.Agrees s.nonconstMethods s'.nonconstMethods
  representations : List.Forall₂ Representation.Agrees s.representations s'.representations

/-! ### Parts -/

/-- What is made from the elements of two lists is the same if and only if the elements correspond. -/
theorem map_eq_map_iff_forall₂ {α β : Type} {f : α → β} {R : α → α → Prop} {p : α → Prop}
    (hf : ∀ a b, p a → p b → (f a = f b ↔ R a b)) {as bs : List α} (has : ∀ a ∈ as, p a)
    (hbs : ∀ b ∈ bs, p b) : as.map f = bs.map f ↔ List.Forall₂ R as bs := by
  induction as generalizing bs with
  | nil => cases bs <;> simp
  | cons a as ih =>
    cases bs with
    | nil => simp
    | cons b bs =>
      rw [List.forall_mem_cons] at has hbs
      rw [List.map_cons, List.map_cons, List.cons.injEq, List.forall₂_cons, hf a b has.1 hbs.1,
        ih has.2 hbs.2]

theorem TypeAlias.complete_eq_iff (t t' : TypeAlias (List String)) :
    t.complete = t'.complete ↔ t.Agrees t' := by
  rw [TypeAlias.complete, TypeAlias.complete, TypeAlias.mk.injEq]
  constructor
  · intro h
    exact ⟨h.1, h.2.1, h.2.2⟩
  · intro h
    exact ⟨h.name, h.definition, h.doc⟩

/-- **A method that can be declared can be told from its completion.** -/
theorem Method.complete_eq_iff {kind : MethodKind} {m m' : Method (List String)}
    (hm : m.WellFormed kind) (hm' : m'.WellFormed kind) : m.complete = m'.complete ↔ m.Agrees m' := by
  constructor
  · intro h
    have hparams : m.complete.params = m'.complete.params := congrArg Method.params h
    rw [hm.receivesOnce.params, hm'.receivesOnce.params] at hparams
    obtain ⟨hname, hreturn, hkind, hqualifiers, -, hdoc⟩ := Method.mk.inj h
    exact ⟨hname, hreturn, hkind, hqualifiers, (List.cons.inj hparams).2, hdoc⟩
  · intro h
    rw [Method.complete, Method.complete, h.name, h.returnType, h.kind, h.qualifiers, h.params, h.doc]

-- in general the receiver hides whether it was declared
example (kind : MethodKind) : withReceiver kind [Param.receiver kind] = withReceiver kind [] := by
  cases kind <;> decide

/-- Representations of one facet can be told from their implementations. -/
theorem Representation.complete_eq_iff (names : Names) (r r' : Representation) :
    r.complete names = r'.complete names ↔ r.Agrees r' := by
  constructor
  · intro h
    exact ⟨congrArg Implementation.name h, congrArg Implementation.operand h⟩
  · intro h
    rw [Representation.complete, Representation.complete, h.name, h.declaredIn]

/-! ### Schemas -/

theorem map_complete_methods_iff {kind : MethodKind} {ms ms' : List (Method (List String))}
    (hms : ∀ m ∈ ms, m.WellFormed kind) (hms' : ∀ m ∈ ms', m.WellFormed kind) :
    ms.map Method.complete = ms'.map Method.complete ↔ List.Forall₂ Method.Agrees ms ms' :=
  map_eq_map_iff_forall₂ (fun _ _ hm hm' => Method.complete_eq_iff hm hm') hms hms'

theorem map_complete_types_iff (ts ts' : List (TypeAlias (List String))) :
    ts.map TypeAlias.complete = ts'.map TypeAlias.complete ↔ List.Forall₂ TypeAlias.Agrees ts ts' :=
  map_eq_map_iff_forall₂ (p := fun _ => True) (fun t t' _ _ => t.complete_eq_iff t') (by simp) (by simp)

theorem map_includeOperand_iff (is is' : List String) :
    is.map includeOperand = is'.map includeOperand ↔
      List.Forall₂ (fun i i' => includeOperand i = includeOperand i') is is' :=
  map_eq_map_iff_forall₂ (p := fun _ => True) (fun _ _ _ _ => Iff.rfl) (by simp) (by simp)

theorem map_complete_representations_iff (names : Names) (rs rs' : List Representation) :
    rs.map (Representation.complete names) = rs'.map (Representation.complete names) ↔
      List.Forall₂ Representation.Agrees rs rs' :=
  map_eq_map_iff_forall₂ (p := fun _ => True) (fun r r' _ _ => r.complete_eq_iff names r') (by simp)
    (by simp)

/-- **Completion loses nothing but spelling.**  Two accepted schemas have the same facet if and only if they
agree on all names, flags and texts, on methods with their declared parameters, type aliases and
representations in order, and corresponding documentation comes to the same text and corresponding includes
to the same operand. -/
theorem ofSchema_eq_iff {d d' : Document} {s s' : Schema} (hd : Schema.ofDocument d = .ok s)
    (hd' : Schema.ofDocument d' = .ok s') : Facet.ofSchema s = Facet.ofSchema s' ↔ s.Agrees s' := by
  have hs := Schema.wellFormed_of_ofDocument hd
  have hs' := Schema.wellFormed_of_ofDocument hd'
  constructor
  · intro h
    have hfacet : s.facet = s'.facet := congrArg (fun f => f.names.facet) h
    have himplementations : (Facet.ofSchema s).implementations = (Facet.ofSchema s').implementations :=
      congrArg Facet.implementations h
    simp only [Facet.ofSchema, hfacet] at himplementations
    exact ⟨hfacet, congrArg Facet.namespaces h, congrArg Facet.brief h, congrArg Facet.doc h,
      (map_includeOperand_iff _ _).1 (congrArg Facet.includes h), congrArg Facet.docMarkup h,
      (map_complete_types_iff _ _).1 (congrArg Facet.types h),
      (map_complete_methods_iff hs.constMethods hs'.constMethods).1 (congrArg Facet.constMethods h),
      (map_complete_methods_iff hs.nonconstMethods hs'.nonconstMethods).1
        (congrArg Facet.nonconstMethods h),
      (map_complete_representations_iff _ _ _).1 himplementations⟩
  · intro h
    simp only [Facet.ofSchema]
    rw [h.facet, h.namespaces, h.brief, h.doc, h.docMarkup, (map_includeOperand_iff _ _).2 h.includes,
      (map_complete_types_iff _ _).2 h.types,
      (map_complete_methods_iff hs.constMethods hs'.constMethods).2 h.constMethods,
      (map_complete_methods_iff hs.nonconstMethods hs'.nonconstMethods).2 h.nonconstMethods,
      (map_complete_representations_iff _ _ _).2 h.representations]

/-- A description with documentation and includes as given, the second of each for a method and for a
representation. -/
def respellableDocument (doc methodDoc : Document) (header reprHeader : String) : Document :=
  .mapping [("facet", .string "Draw"), ("namespace1", .string "a"), ("namespace2", .string "b"),
    ("brief", .string ""), ("doc", doc), ("includes", .list [.string header]),
    ("const_methods", .list [.mapping [("name", .string "size"), ("return", .string "int"),
      ("doc", methodDoc), ("args", .list [.mapping [("type", .string "int"), ("name", .string "unit")]])]]),
    ("nonconst_methods", .list []),
    ("reprs", .list [.mapping [("name", .string "Square"), ("include", .string reprHeader)]])]

def plainDocument : Document :=
  respellableDocument (.string "Drawn.\nOnce.") (.list []) "<vector>" "square.hpp"

def respelledDocument : Document :=
  respellableDocument (.list [.string "Drawn.\nOnce."]) (.list [.string ""]) " <vector>" "\"square.hpp\""

theorem respelled_same_facet :
    ∃ s s', Schema.ofDocument plainDocument = .ok s ∧ Schema.ofDocument respelledDocument = .ok s' ∧
      s ≠ s' ∧ s.Agrees s' ∧ Facet.ofSchema s = Facet.ofSchema s' := by
  have hs : Schema.ofDocument plainDocument = .ok _ := rfl
  have hs' : Schema.ofDocument respelledDocument = .ok _ := rfl
  refine ⟨_, _, hs, hs', ?_, (ofSchema_eq_iff hs hs').1 ?_, ?_⟩ <;> decide +kernel

end Faceting
