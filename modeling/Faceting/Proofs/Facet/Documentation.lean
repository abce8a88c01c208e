import Faceting.Proofs.Facet.Receiver
import Faceting.Proofs.Schema.Replacement
import Faceting.Proofs.Text.Lines

/-!
# Documentation survives

The documentation of a facet, of a type or of a method is given as one text or line by line. It is kept as
lines, and put together again when the facet is completed. Given as one text, it comes out as that text
with plain ends of lines and without the last of them; given as lines, it comes out as these lines, below
each other (`documentation_survives`).

Where documentation stands in a description is told by `Documented.location`. Lines are read from there
(`Documented.lines?_eq`), and a text is read like the list of its lines (`interchangeable_lines`), so that a
description can have the one in place of the other (`ofDocument_replace_lines`).
-/

namespace Faceting

open Document Schema

/-! ### Documented items -/

/-- What a description documents: the facet, and its types and methods by their positions. -/
inductive Documented where
  | facet
  | type (position : Nat)
  | method (kind : MethodKind) (position : Nat)
deriving DecidableEq, Repr

namespace Documented

/-- Where a description has the documentation of an item. -/
def location : Documented → Location
  | .facet => [.key "doc"]
  | .type position => [.key "types", .index position, .key "doc"]
  | .method kind position => [.key kind.listKey, .index position, .key "doc"]

/-- The documentation of an item of a schema. -/
def lines? (s : Schema) : Documented → Option (List String)
  | .facet => some s.doc
  | .type position => s.types[position]?.map TypeAlias.doc
  | .method kind position => (s.methodsIn kind)[position]?.map Method.doc

/-- The documentation of an item of a facet. -/
def text? (f : Facet) : Documented → Option String
  | .facet => some f.doc
  | .type position => f.types[position]?.map TypeAlias.doc
  | .method kind position => (f.methodsIn kind)[position]?.map Method.doc

theorem text?_ofSchema (s : Schema) (item : Documented) :
    item.text? (Facet.ofSchema s) = (item.lines? s).map docText := by
  cases item with
  | facet => rfl
  | type position =>
    show ((s.types.map TypeAlias.complete)[position]?).map TypeAlias.doc = _
    rw [List.getElem?_map, Option.map_map, lines?, Option.map_map]
    rfl
  | method kind position =>
    have hmethods : (Facet.ofSchema s).methodsIn kind = (s.methodsIn kind).map Method.complete := by
      cases kind <;> rfl
    rw [text?, hmethods, List.getElem?_map, Option.map_map, lines?, Option.map_map]
    rfl

end Documented

/-! ### Documentation in descriptions -/

section
variable {d value : Document} {key : String}

/-- The documentation of an item of a list. -/
theorem part?_listed {position : Nat} (h : d.part? [.key key, .index position, .key "doc"] = some value) :
    ∃ items x, d.member? key = some (.list items) ∧ items[position]? = some x ∧
      x.member? "doc" = some value := by
  obtain ⟨list, hlist, h⟩ := Option.bind_eq_some_iff.1 h
  cases list with
  | list items =>
    obtain ⟨x, hx, h⟩ := Option.bind_eq_some_iff.1 h
    obtain ⟨doc, hdoc, h⟩ := Option.bind_eq_some_iff.1 h
    cases h
    exact ⟨items, x, hlist, hx, hdoc⟩
  | _ => cases h

theorem under_of_member? (h : d.member? key = some value) : d.under key = value := by
  rw [under, h, Option.getD_some]

theorem has_of_member? (h : d.member? key = some value) (hvalue : value ≠ .null) : Has d key value :=
  present?_eq_some_iff.1 (present?_of_member? h hvalue)

end

namespace Documented

/-- The lines of an item are those that its documentation in the description stands for. -/
theorem lines?_eq {d value : Document} {s : Schema} (h : ofDocument d = .ok s) {item : Documented}
    (hvalue : d.part? item.location = some value) : item.lines? s = some value.asLines := by
  obtain ⟨-, rfl⟩ := (reads_reader [] d s).1 h
  cases item with
  | facet =>
    obtain ⟨doc, hdoc, hvalue⟩ := Option.bind_eq_some_iff.1 hvalue
    cases hvalue
    show some (d.under "doc").asLines = _
    rw [under_of_member? hdoc]
  | type position =>
    obtain ⟨items, x, hitems, hx, hdoc⟩ := part?_listed hvalue
    show (((d.under "types").asItems.map declaredType)[position]?).map TypeAlias.doc = _
    rw [under_of_member? hitems, asItems, List.getElem?_map, hx]
    show some (x.under "doc").asLines = _
    rw [under_of_member? hdoc]
  | method kind position =>
    obtain ⟨items, x, hitems, hx, hdoc⟩ := part?_listed hvalue
    have hmethods : (declaredSchema d).methodsIn kind
        = (d.under kind.listKey).asItems.map (declaredMethod kind) := by
      cases kind <;> rfl
    rw [lines?, hmethods, under_of_member? hitems, asItems, List.getElem?_map, hx]
    show some (x.under "doc").asLines = _
    rw [under_of_member? hdoc]

/-- In a description, documentation has its form. -/
theorem isDoc {d value : Document} (hd : IsDescription d) {item : Documented}
    (hvalue : d.part? item.location = some value) (hne : value ≠ .null) : IsDoc value := by
  -- the items of a list are of a form that permits documentation
  have hlisted {items : List Document} {form : Document → Prop} {x : Document} {position : Nat}
      (hitems : IsListOf form (.list items)) (hform : form x → Permits "doc" IsDoc x)
      (hx : items[position]? = some x) (hdoc : x.member? "doc" = some value) : IsDoc value := by
    obtain ⟨_, heq, hforms⟩ := hitems
    cases heq
    exact hform (hforms x (List.mem_of_getElem? hx)) value (has_of_member? hdoc hne)
  cases item with
  | facet =>
    obtain ⟨doc, hdoc, hvalue⟩ := Option.bind_eq_some_iff.1 hvalue
    cases hvalue
    exact hd.doc value (has_of_member? hdoc hne)
  | type position =>
    obtain ⟨items, x, hitems, hx, hdoc⟩ := part?_listed hvalue
    have htypes := hd.types _ (has_of_member? hitems (by simp))
    exact hlisted htypes IsType.doc hx hdoc
  | method kind position =>
    obtain ⟨items, x, hitems, hx, hdoc⟩ := part?_listed hvalue
    have hmethods : IsListOf IsMethod (d.under kind.listKey) := by
      cases kind with
      | const => exact hd.constMethods.under
      | nonconst => exact hd.nonconstMethods.under
    rw [under_of_member? hitems] at hmethods
    exact hlisted hmethods IsMethod.doc hx hdoc

end Documented

/-! ### Texts and lists of lines -/

/-- A list of texts is the list of its lines. -/
theorem eq_strings_of_isDoc {items : List Document} (h : IsDoc (.list items)) :
    .list items = Document.strings (asLines (.list items)) := by
  rcases h with ⟨text, heq⟩ | ⟨_, heq, htexts⟩
  · cases heq
  · cases heq
    have hitems : items = (items.map asText).map .string := by
      rw [List.map_map, List.map_congr_left (g := id) ?_, List.map_id]
      intro item hitem
      obtain ⟨text, rfl⟩ := htexts item hitem
      rfl
    exact congrArg Document.list hitems

/-- A text is read like the list of its lines. -/
theorem interchangeable_lines (text : String) :
    Interchangeable docLines (.string text) (Document.strings (Text.lines text)) := by
  refine ⟨by simp, by simp [Document.strings], fun loc => ?_⟩
  have hlines : docLines loc (Document.strings (Text.lines text)) = .ok (Text.lines text) :=
    (reads_docLines loc _ _).2 ⟨.inr (isListOf_strings _), (asLines_strings _).symm⟩
  rw [hlines]
  rfl

/-- A description can have the list of the lines in place of a text. -/
theorem ofDocument_replace_lines {d : Document} {item : Documented} {text : String}
    (h : d.part? item.location = some (.string text)) :
    ofDocument (d.replace item.location (Document.strings (Text.lines text))) = ofDocument d := by
  have hlines : Interchangeable docLines (.string text)
      ((string text).replace [] (Document.strings (Text.lines text))) := interchangeable_lines text
  have hdocKey (kind : MethodKind) : kind.listKey ≠ "doc" := by cases kind <;> decide
  have htypesKey (kind : MethodKind) : kind.listKey ≠ "types" := by cases kind <;> decide
  cases item with
  | facet =>
    obtain ⟨doc, hdoc, h⟩ := Option.bind_eq_some_iff.1 h
    cases h
    exact reader_replace (by decide) hdoc (fun _ => hlines) (fun heq => absurd heq (by decide))
      (fun kind hkind => absurd hkind (hdocKey kind)) []
  | type position =>
    obtain ⟨items, x, hitems, hx, hdoc⟩ := part?_listed h
    exact reader_replace (by decide) hitems (fun heq => absurd heq (by decide))
      (fun _ => listOf_replace hx (typeAlias_replace hdoc hlines))
      (fun kind hkind => absurd hkind (htypesKey kind)) []
  | method kind position =>
    obtain ⟨items, x, hitems, hx, hdoc⟩ := part?_listed h
    refine reader_replace (by cases kind <;> decide) hitems (fun heq => absurd heq.symm (hdocKey kind))
      (fun heq => absurd heq.symm (htypesKey kind)) (fun other _ => ?_) []
    exact listOf_replace hx (method_replace other hdoc hlines)

/-- **Documentation survives.**  Let an item of an accepted description be documented. If the documentation is
one text, the documentation of the item in the completed facet is that text with a line feed for each
carriage return with a line feed, and without a line feed at its end; and the schema is the one of the
description with the list of the lines in place of the text. If it is a list, it is a list of texts, and the
documentation in the facet is these texts in order with a line feed between neighbours, so that its rows
are the rows of the texts, one text after the other. -/
theorem documentation_survives {d : Document} {s : Schema} (h : ofDocument d = .ok s) (item : Documented) :
    (∀ text, d.part? item.location = some (.string text) →
      item.text? (Facet.ofSchema s) = some (Text.withoutLastEnd (Text.withPlainEnds text)) ∧
        (d.replace item.location (Document.strings (Text.lines text))).part? item.location
          = some (Document.strings (Text.lines text)) ∧
        ofDocument (d.replace item.location (Document.strings (Text.lines text))) = .ok s) ∧
    ∀ items, d.part? item.location = some (.list items) →
      ∃ lines : List String, items = lines.map .string ∧ item.lines? s = some lines ∧
        ∃ text, item.text? (Facet.ofSchema s) = some text ∧ text = "\n".intercalate lines ∧
          (lines ≠ [] → Text.rowsOf text = lines.flatMap Text.rowsOf) := by
  constructor
  · intro text htext
    refine ⟨?_, part?_replace htext _, (ofDocument_replace_lines htext).trans h⟩
    rw [item.text?_ofSchema, Documented.lines?_eq h htext, ← Text.joinWith_lines]
    rfl
  · intro items hitems
    have hdoc := Documented.isDoc ((reads_reader [] d s).1 h).1 hitems (by simp)
    refine ⟨asLines (.list items), Document.list.inj (eq_strings_of_isDoc hdoc),
      Documented.lines?_eq h hitems, docText (asLines (.list items)), ?_, ?_, ?_⟩
    · rw [item.text?_ofSchema, Documented.lines?_eq h hitems, Option.map_some]
    · exact Text.joinWith_eq_intercalate "\n" _
    · exact fun hne => Text.rowsOf_joinWith hne

/-- A description with documentation in one text for the facet and for a method, with ends of lines of all
sorts, and line by line for a type. -/
def annotatedDocument : Document :=
  .mapping
    [("facet", .string "Draw"), ("namespace1", .string "a"), ("namespace2", .string "b"),
      ("brief", .string ""), ("doc", .string "one\r\n\r\ntwo\r\r\n\n"),
      ("types", .list [.mapping [("name", .string "T"), ("definition", .string "int"),
        ("doc", .list [.string "x\ny", .string ""])]]),
      ("const_methods", .list []),
      ("nonconst_methods", .list [.mapping [("name", .string "put"), ("return", .string "void"),
        ("doc", .string "\r")]])]

theorem annotatedDocument_documentation :
    ∃ s, ofDocument annotatedDocument = .ok s ∧
      Documented.text? (Facet.ofSchema s) .facet = some "one\n\ntwo\r\n" ∧
      ofDocument (annotatedDocument.replace [.key "doc"] (Document.strings ["one", "", "two\r", ""])) = .ok s ∧
      Documented.text? (Facet.ofSchema s) (.type 0) = some "x\ny\n" ∧
      Documented.text? (Facet.ofSchema s) (.method .nonconst 0) = some "\r" := by
  have hread : ofDocument annotatedDocument = .ok _ := rfl
  have hlines : Text.lines "one\r\n\r\ntwo\r\r\n\n" = ["one", "", "two\r", ""] := by decide +kernel
  obtain ⟨hfacet, -, hsame⟩ := (documentation_survives hread .facet).1 "one\r\n\r\ntwo\r\r\n\n" rfl
  obtain ⟨lines, hitems, -, text, htype, htext, -⟩ :=
    (documentation_survives hread (.type 0)).2 [.string "x\ny", .string ""] rfl
  have hstring : Function.Injective Document.string := fun _ _ heq => Document.string.inj heq
  obtain rfl : ["x\ny", ""] = lines := List.map_injective_iff.2 hstring hitems
  obtain ⟨hmethod, -, -⟩ := (documentation_survives hread (.method .nonconst 0)).1 "\r" rfl
  rw [hlines] at hsame
  exact ⟨_, hread, hfacet.trans (by decide +kernel), hsame, htype.trans (by rw [htext]; decide +kernel),
    hmethod.trans (by decide +kernel)⟩

end Faceting
