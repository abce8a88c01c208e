import Faceting.Proofs.Schema.Location

/-!
# Faults are where they are said to be

If a document is refused, then the fault that is reported can be found by following the text of its
location (`ofDocument_error_isTrueAt`): `SchemaError.IsTrueAt` says for each fault what is to be found there.

The invariant that carries the proof is `StandsAt`: a reader is only ever used on the part of the document
that stands at its location. `Truthful` says of one result that the fault in it, if any, is real, and there
is one lemma for each reader.
-/

namespace Faceting

/-! ### What a fault says -/

/-- A value is of the kind that is asked for. -/
def Schema.Shape.Describes : Schema.Shape → Document → Prop
  | .mapping, d => ∃ members, d = .mapping members
  | .list, d => ∃ items, d = .list items
  | .string, d => ∃ text, d = .string text
  | .boolean, d => ∃ value, d = .bool value

namespace Location

/-- The location of the name of a parameter. -/
def paramName (kind : MethodKind) (method param : Nat) : Location :=
  [.key kind.listKey, .index method, .key "args", .index param, .key "name"]

/-- The location of the name of a representation. -/
def representationName (position : Nat) : Location :=
  [.key "reprs", .index position, .key "name"]

end Location

/-- What a fault says of a location is true there. -/
def SchemaError.IsTrueAt (d : Document) (loc : Location) : SchemaError → Prop
  | .missingField _ => ∃ parent key members, loc = parent ++ [.key key] ∧
      d.part? parent = some (.mapping members) ∧
      (members.lookup key = none ∨ members.lookup key = some .null)
  | .malformed _ reason => ∃ shape value, reason = Schema.Shape.expectation shape ∧
      d.part? loc = some value ∧ ¬ shape.Describes value
  | .invalidIdentifier _ text => d.part? loc = some (.string text) ∧ ¬ Text.IsIdentifier text
  | .reservedParameter _ => d.part? loc = some (.string "data") ∧
      ∃ kind method param, loc = Location.paramName kind method param
  | .reservedName _ name => d.part? loc = some (.string name) ∧ name ∈ ["Any", "Xfer", "Impl"] ∧
      ∃ position, loc = Location.representationName position
  | .duplicateName _ name => d.part? loc = some (.string name) ∧
      ∃ position, loc = Location.representationName position ∧
        ∃ earlier < position, d.part? (Location.representationName earlier) = some (.string name)

namespace Schema

/-- The fault is real, and its location can be read from its text. -/
def Finds (d : Document) (e : SchemaError) : Prop :=
  e.location.Plain ∧ e.IsTrueAt d e.location

/-- If a result is a fault, then the fault is real. -/
def Truthful {α : Type} (d : Document) (r : Except SchemaError α) : Prop :=
  ∀ e, r = .error e → Finds d e

/-- A part of a document stands at a location, whose text says all of it. -/
structure StandsAt (d : Document) (loc : Location) (value : Document) : Prop where
  part : d.part? loc = some value
  plain : loc.Plain

section
variable {d : Document} {loc : Location} {value : Document}

theorem StandsAt.child (h : StandsAt d loc value) {key : String} (hkey : Text.isIdentifier key = true)
    {part : Document} (hpart : Has value key part) : StandsAt d (loc.child key) part := by
  obtain ⟨⟨members, rfl, hlookup⟩, -⟩ := hpart
  exact ⟨Document.part?_child h.part hlookup, h.plain.child hkey⟩

theorem StandsAt.item {items : List Document} (h : StandsAt d loc (.list items)) {position : Nat}
    {item : Document} (hitem : items[position]? = some item) : StandsAt d (loc.item position) item :=
  ⟨Document.part?_item h.part hitem, h.plain.item position⟩

/-- Where a name was read, it stands. -/
theorem StandsAt.name (h : StandsAt d loc value) (hname : Requires "name" IsName value) :
    StandsAt d (loc.child "name") (.string (value.under "name").asText) := by
  obtain ⟨part, hpart, text, rfl, -⟩ := hname
  rw [hpart.under]
  exact h.child (by decide) hpart

/-! ### Results -/

variable {α β : Type}

theorem truthful_ok (a : α) : Truthful d (.ok a) := by
  intro e he
  cases he

theorem truthful_error {e : SchemaError} (h : Finds d e) :
    Truthful d (.error e : Except SchemaError α) := by
  intro e' he
  cases he
  exact h

theorem Truthful.bind {x : Except SchemaError α} {next : α → Except SchemaError β} (hx : Truthful d x)
    (hnext : ∀ a, x = .ok a → Truthful d (next a)) : Truthful d (x >>= next) := by
  intro e he
  cases hresult : x with
  | error e' =>
    rw [hresult] at he
    cases he
    exact hx e hresult
  | ok a =>
    rw [hresult] at he
    exact hnext a hresult e he

theorem Truthful.map {x : Except SchemaError α} (hx : Truthful d x) (f : α → β) : Truthful d (x.map f) := by
  have hbind := hx.bind fun a _ => truthful_ok (f a)
  cases x with
  | error e => exact hbind
  | ok a => exact hbind

/-! ### Readers -/

theorem finds_wrongShape (h : StandsAt d loc value) {shape : Shape} (hshape : ¬ shape.Describes value) :
    Finds d (wrongShape loc shape) :=
  ⟨h.plain, shape, value, rfl, h.part, hshape⟩

theorem truthful_string (h : StandsAt d loc value) : Truthful d (string loc value) := by
  cases value with
  | string text => exact truthful_ok text
  | _ =>
    refine truthful_error (finds_wrongShape h ?_)
    rintro ⟨text, heq⟩
    cases heq

theorem truthful_boolean (h : StandsAt d loc value) : Truthful d (boolean loc value) := by
  cases value with
  | bool flag => exact truthful_ok flag
  | _ =>
    refine truthful_error (finds_wrongShape h ?_)
    rintro ⟨flag, heq⟩
    cases heq

theorem truthful_identifier (h : StandsAt d loc value) : Truthful d (identifier loc value) := by
  refine (truthful_string h).bind fun text htext => ?_
  obtain ⟨⟨text', rfl⟩, rfl⟩ := (reads_string loc value text).1 htext
  split
  · exact truthful_ok _
  · rename_i hidentifier
    refine truthful_error ⟨h.plain, h.part, fun his => hidentifier ?_⟩
    exact (Text.isIdentifier_iff _).2 his

/-- A list blames an item, or something that is no list. -/
theorem truthful_itemsFrom {read : Reader α} {position : Nat} {items : List Document}
    (hitems : ∀ k item, items[k]? = some item → StandsAt d (loc.item (position + k)) item)
    (hread : ∀ n item, StandsAt d (loc.item n) item → Truthful d (read (loc.item n) item)) :
    Truthful d (itemsFrom read loc position items) := by
  induction items generalizing position with
  | nil => exact truthful_ok []
  | cons item rest ih =>
    refine (hread position item (hitems 0 item rfl)).bind fun a _ => Truthful.map (ih fun k next hnext => ?_) _
    have hstands := hitems (k + 1) next hnext
    rwa [show position + (k + 1) = position + 1 + k by omega] at hstands

theorem truthful_listOf {read : Reader α} (h : StandsAt d loc value)
    (hread : ∀ n item, StandsAt d (loc.item n) item → Truthful d (read (loc.item n) item)) :
    Truthful d (listOf read loc value) := by
  cases value with
  | list items =>
    refine truthful_itemsFrom (fun k item hitem => ?_) hread
    rw [Nat.zero_add]
    exact h.item hitem
  | _ =>
    refine truthful_error (finds_wrongShape h ?_)
    rintro ⟨items, heq⟩
    cases heq

theorem truthful_required {read : Reader α} {key : String} (h : StandsAt d loc value)
    (hkey : Text.isIdentifier key = true)
    (hread : ∀ part, StandsAt d (loc.child key) part → Truthful d (read (loc.child key) part)) :
    Truthful d (required key read loc value) := by
  unfold required
  cases value with
  | mapping members =>
    have hmapping : (Document.mapping members).isMapping = true := rfl
    rw [if_pos hmapping]
    cases hpresent : present? key (.mapping members) with
    | some part => exact hread part (h.child hkey (present?_eq_some_iff.1 hpresent))
    | none =>
      refine truthful_error ⟨h.plain.child hkey, loc, key, members, rfl, h.part, ?_⟩
      -- a member that is there and not null would be present
      unfold present? at hpresent
      split at hpresent
      · rename_i hnull
        exact .inr hnull
      · exact .inl hpresent
  | _ =>
    refine truthful_error (finds_wrongShape h ?_)
    rintro ⟨members, heq⟩
    cases heq

theorem truthful_optional {read : Reader α} {key : String} {default : α} (h : StandsAt d loc value)
    (hkey : Text.isIdentifier key = true)
    (hread : ∀ part, StandsAt d (loc.child key) part → Truthful d (read (loc.child key) part)) :
    Truthful d (optional key default read loc value) := by
  unfold optional
  cases hpresent : present? key value with
  | some part => exact hread part (h.child hkey (present?_eq_some_iff.1 hpresent))
  | none => exact truthful_ok default

theorem truthful_docLines (h : StandsAt d loc value) : Truthful d (docLines loc value) := by
  cases value with
  | string text => exact truthful_ok _
  | _ => exact truthful_listOf h fun n item hitem => truthful_string hitem

theorem truthful_name (h : StandsAt d loc value) : Truthful d (required "name" identifier loc value) :=
  truthful_required h (by decide) fun _ => truthful_identifier

theorem truthful_doc (h : StandsAt d loc value) : Truthful d (optional "doc" [] docLines loc value) :=
  truthful_optional h (by decide) fun _ => truthful_docLines

/-! ### Parts of descriptions -/

theorem truthful_param (kind : MethodKind) (method param : Nat)
    (hloc : loc.child "name" = Location.paramName kind method param) (h : StandsAt d loc value) :
    Truthful d (Schema.param loc value) := by
  unfold Schema.param
  refine (truthful_required h (by decide) fun _ => truthful_string).bind fun type _ => ?_
  refine (truthful_name h).bind fun name hname => ?_
  obtain ⟨hrequires, rfl⟩ := (reads_identifier.required "name" loc value name).1 hname
  have hstands := h.name hrequires
  simp only
  split
  · rename_i hreserved
    rw [hreserved] at hstands
    exact truthful_error ⟨hstands.plain, hstands.part, kind, method, param, hloc⟩
  · exact truthful_ok _

theorem truthful_typeAlias (h : StandsAt d loc value) : Truthful d (typeAlias loc value) := by
  unfold typeAlias
  refine (truthful_name h).bind fun name _ => ?_
  refine (truthful_required h (by decide) fun _ => truthful_string).bind fun definition _ => ?_
  exact (truthful_doc h).bind fun doc _ => truthful_ok _

theorem truthful_method {kind : MethodKind} {position : Nat}
    (hloc : loc = [.key kind.listKey, .index position]) (h : StandsAt d loc value) :
    Truthful d (method kind loc value) := by
  unfold method
  refine (truthful_name h).bind fun name _ => ?_
  refine (truthful_required h (by decide) fun _ => truthful_string).bind fun returnType _ => ?_
  refine (truthful_optional h (by decide) fun _ => truthful_boolean).bind fun isConst _ => ?_
  refine (truthful_optional h (by decide) fun _ => truthful_boolean).bind fun noexcept _ => ?_
  have hparams : ∀ part, StandsAt d (loc.child "args") part →
      Truthful d (listOf Schema.param (loc.child "args") part) := by
    intro part hpart
    refine truthful_listOf hpart fun n item hitem => ?_
    subst hloc
    exact truthful_param kind position n rfl hitem
  refine (truthful_optional h (by decide) hparams).bind fun params _ => ?_
  exact (truthful_doc h).bind fun doc _ => truthful_ok _

theorem truthful_methodsOf (kind : MethodKind) (h : StandsAt d [] value) :
    Truthful d (methodsOf kind [] value) := by
  have hkey : Text.isIdentifier kind.listKey = true := by cases kind <;> decide
  refine truthful_required h hkey fun part hpart => truthful_listOf hpart fun n item hitem => ?_
  exact truthful_method rfl hitem

theorem truthful_representation (h : StandsAt d loc value) : Truthful d (representation loc value) := by
  unfold representation
  refine (truthful_name h).bind fun name _ => ?_
  refine (truthful_optional h (by decide) fun _ hpart => (truthful_string hpart).map some).bind
    fun declaredIn _ => ?_
  exact truthful_ok _

/-- The names seen stand at earlier positions. -/
theorem truthful_representationsFrom {seen : List String} {position : Nat} {items : List Document}
    (hitems : ∀ k item, items[k]? = some item →
      StandsAt d (Location.item [.key "reprs"] (position + k)) item)
    (hseen : ∀ name ∈ seen, ∃ earlier < position,
      d.part? (Location.representationName earlier) = some (.string name)) :
    Truthful d (representationsFrom [.key "reprs"] seen position items) := by
  induction items generalizing seen position with
  | nil => exact truthful_ok []
  | cons item rest ih =>
    have hitem := hitems 0 item rfl
    refine (truthful_representation hitem).bind fun r hr => ?_
    obtain ⟨hform, rfl⟩ := (reads_representation _ item r).1 hr
    have hname := hitem.name hform.name
    simp only
    split
    · rename_i hreserved
      exact truthful_error ⟨hname.plain, hname.part, List.contains_iff_mem.1 hreserved, position, rfl⟩
    split
    · rename_i hrepeated
      have hearlier := hseen _ (List.contains_iff_mem.1 hrepeated)
      exact truthful_error ⟨hname.plain, hname.part, position, rfl, hearlier⟩
    refine Truthful.map (ih (fun k next hnext => ?_) fun name hmem => ?_) _
    · have hstands := hitems (k + 1) next hnext
      rwa [show position + (k + 1) = position + 1 + k by omega] at hstands
    · rcases List.mem_cons.1 hmem with rfl | hmem
      · exact ⟨position, Nat.lt_succ_self position, hname.part⟩
      · obtain ⟨earlier, hlt, hpart⟩ := hseen name hmem
        exact ⟨earlier, Nat.lt_succ_of_lt hlt, hpart⟩

theorem truthful_representationList (h : StandsAt d [.key "reprs"] value) :
    Truthful d (representationList [.key "reprs"] value) := by
  cases value with
  | list items =>
    refine truthful_representationsFrom (fun k item hitem => ?_) fun name hname => by cases hname
    rw [Nat.zero_add]
    exact h.item hitem
  | _ =>
    refine truthful_error (finds_wrongShape h ?_)
    rintro ⟨items, heq⟩
    cases heq

end

/-- Whatever the reader of descriptions finds fault with is at fault. -/
theorem truthful_reader (d : Document) : Truthful d (reader [] d) := by
  have h : StandsAt d [] d := ⟨rfl, Location.plain_nil⟩
  unfold reader
  refine (truthful_required h (by decide) fun _ => truthful_identifier).bind fun facet _ => ?_
  refine (truthful_required h (by decide) fun _ => truthful_identifier).bind fun outer _ => ?_
  refine (truthful_required h (by decide) fun _ => truthful_identifier).bind fun inner _ => ?_
  refine (truthful_required h (by decide) fun _ => truthful_string).bind fun brief _ => ?_
  refine (truthful_doc h).bind fun doc _ => ?_
  refine (truthful_optional h (by decide) fun _ hpart =>
    truthful_listOf hpart fun _ _ => truthful_string).bind fun includes _ => ?_
  refine (truthful_optional h (by decide) fun _ => truthful_boolean).bind fun docMarkup _ => ?_
  refine (truthful_optional h (by decide) fun _ hpart =>
    truthful_listOf hpart fun _ _ => truthful_typeAlias).bind fun types _ => ?_
  refine (truthful_methodsOf .const h).bind fun constMethods _ => ?_
  refine (truthful_methodsOf .nonconst h).bind fun nonconstMethods _ => ?_
  refine (truthful_optional h (by decide) fun _ => truthful_representationList).bind
    fun representations _ => ?_
  exact truthful_ok _

/-- **Every fault is true of the document.**  If a document is refused, the text of the fault's location
can be read back, and what the fault says is so at the location that was read. -/
theorem ofDocument_error_isTrueAt {d : Document} {e : SchemaError} (h : ofDocument d = .error e) :
    ∃ loc, Location.ofText? e.location.text = some loc ∧ e.IsTrueAt d loc := by
  obtain ⟨hplain, htrue⟩ := truthful_reader d e h
  exact ⟨e.location, Location.ofText?_text hplain, htrue⟩

/-- A description in which the second parameter of a method has no type. -/
def untypedDocument : Document :=
  .mapping [("facet", .string "Draw"), ("namespace1", .string "a"), ("namespace2", .string "b"),
    ("brief", .string ""), ("const_methods", .list []),
    ("nonconst_methods", .list [.mapping [("name", .string "move"), ("return", .string "void"),
      ("args", .list [.mapping [("type", .string "int"), ("name", .string "dx")],
        .mapping [("name", .string "dy"), ("type", .null)]])]])]

/-- Where the type is missing. -/
def untypedLocation : Location :=
  [.key "nonconst_methods", .index 0, .key "args", .index 1, .key "type"]

theorem untypedDocument_error_isTrueAt :
    untypedLocation.text = "nonconst_methods[0].args[1].type" ∧
      ofDocument untypedDocument = .error (.missingField untypedLocation) ∧
      ∃ loc, Location.ofText? untypedLocation.text = some loc ∧
        (SchemaError.missingField untypedLocation).IsTrueAt untypedDocument loc := by
  have herror : ofDocument untypedDocument = .error (.missingField untypedLocation) := by rfl
  exact ⟨by rfl, herror, ofDocument_error_isTrueAt herror⟩

end Schema

end Faceting
