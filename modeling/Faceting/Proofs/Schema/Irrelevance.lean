import Faceting.Schema.Reader
import Mathlib.Logic.Relation

/-!
# What does not matter in a description

Readers look at the members that they know and at no others, and they take a member that is null for one
that is absent. So there are changes of a description that nobody can see (`Schema.Edit`): in the
description itself and in the parts that it lists, members with unknown keys come, go and change, and
nulls come and go. After any number of them a document is read as before, with the same schema or with the
same fault at the same location (`Schema.ofDocument_of_edits`).

What a reader can see of an edit is told once, in `Schema.Edit.present?`: under a key that the part is read
by is the same value, or a list in which one item was edited. The rest follows the readers: one lemma for
each way of putting them together (`required_of_edit`, `optional_of_edit`, `Unmoved.listOf`) and one for
each part of a description, from the parameters up.
-/

namespace Faceting.Schema

/-! ### Edits -/

/-- The parts of a description that are mappings. -/
inductive Part where
  | description
  | typeAlias
  | method
  | param
  | representation
deriving DecidableEq, Repr

/-- The keys of the members that a part is read by. -/
def Part.keys : Part → List String
  | .description => ["facet", "namespace1", "namespace2", "brief", "doc", "includes", "using_doxygen",
      "types", "const_methods", "nonconst_methods", "reprs"]
  | .typeAlias => ["name", "definition", "doc"]
  | .method => ["name", "return", "const", "noexcept", "args", "doc"]
  | .param => ["type", "name"]
  | .representation => ["name", "include"]

/-- The parts that stand in a list under a key of a part. -/
def Part.listed? : Part → String → Option Part
  | .description, "types" => some .typeAlias
  | .description, "const_methods" => some .method
  | .description, "nonconst_methods" => some .method
  | .description, "reprs" => some .representation
  | .method, "args" => some .param
  | _, _ => none

/-- A change of the members of a mapping that is read by some keys. -/
inductive MembersEdit (keys : List String) :
    List (String × Document) → List (String × Document) → Prop
  /-- A member with an unknown key is added. -/
  | add (before after : List (String × Document)) {key : String} (value : Document) : key ∉ keys →
      MembersEdit keys (before ++ after) (before ++ (key, value) :: after)
  /-- A member with an unknown key is removed. -/
  | remove (before after : List (String × Document)) {key : String} (value : Document) : key ∉ keys →
      MembersEdit keys (before ++ (key, value) :: after) (before ++ after)
  /-- The value of a member with an unknown key is changed. -/
  | change (before after : List (String × Document)) {key : String} (value value' : Document) :
      key ∉ keys →
      MembersEdit keys (before ++ (key, value) :: after) (before ++ (key, value') :: after)
  /-- Null is put under a known key that is absent. -/
  | addNull (before after : List (String × Document)) {key : String} : key ∈ keys →
      key ∉ (before ++ after).map Prod.fst →
      MembersEdit keys (before ++ after) (before ++ (key, .null) :: after)
  /-- Null is taken away from a known key. -/
  | removeNull (before after : List (String × Document)) {key : String} : key ∈ keys →
      key ∉ (before ++ after).map Prod.fst →
      MembersEdit keys (before ++ (key, .null) :: after) (before ++ after)

/-- A change of a part of a description: of its own members, or of a part that it lists. -/
inductive Edit : Part → Document → Document → Prop
  | members {part : Part} {ms ms' : List (String × Document)} : MembersEdit part.keys ms ms' →
      Edit part (.mapping ms) (.mapping ms')
  | item {part inner : Part} {key : String} (before after : List (String × Document))
      (items rest : List Document) {x x' : Document} : part.listed? key = some inner → Edit inner x x' →
      Edit part (.mapping (before ++ (key, .list (items ++ x :: rest)) :: after))
        (.mapping (before ++ (key, .list (items ++ x' :: rest)) :: after))

/-! ### What can be seen of an edit -/

theorem present?_mapping (key : String) (ms : List (String × Document)) :
    present? key (.mapping ms) = match ms.lookup key with
      | some .null => none
      | other => other := rfl

theorem lookup_insert_of_ne {key other : String} (h : key ≠ other) (value : Document)
    (before after : List (String × Document)) :
    (before ++ (other, value) :: after).lookup key = (before ++ after).lookup key := by
  have hne : (key == other) = false := by simpa using h
  rw [List.lookup_append, List.lookup_append, List.lookup_cons, hne]

/-- A member is not seen under another key. -/
theorem present?_insert_of_ne {key other : String} (h : key ≠ other) (value : Document)
    (before after : List (String × Document)) :
    present? key (.mapping (before ++ (other, value) :: after))
      = present? key (.mapping (before ++ after)) := by
  rw [present?_mapping, present?_mapping, lookup_insert_of_ne h]

/-- Null is not seen under a key that is absent. -/
theorem present?_insert_null {other : String} {before after : List (String × Document)}
    (h : other ∉ (before ++ after).map Prod.fst) (key : String) :
    present? key (.mapping (before ++ (other, .null) :: after))
      = present? key (.mapping (before ++ after)) := by
  by_cases hkey : key = other
  · subst hkey
    have hnone : (before ++ after).lookup key = none := by
      rw [List.lookup_eq_none_iff]
      intro m hm
      rw [bne_iff_ne]
      intro hkey
      exact h (hkey ▸ List.mem_map_of_mem hm)
    have hbefore : before.lookup key = none := by
      rw [List.lookup_append, Option.or_eq_none_iff] at hnone
      exact hnone.1
    have hnull : (before ++ (key, .null) :: after).lookup key = some .null := by
      rw [List.lookup_append, hbefore, List.lookup_cons_self]
      rfl
    rw [present?_mapping, present?_mapping, hnone, hnull]
  · exact present?_insert_of_ne hkey .null before after

/-- A change of members that does not matter is not seen under any key that does. -/
theorem MembersEdit.present? {keys : List String} {ms ms' : List (String × Document)}
    (h : MembersEdit keys ms ms') {key : String} (hkey : key ∈ keys) :
    present? key (.mapping ms') = present? key (.mapping ms) := by
  have hne {other : String} (hother : other ∉ keys) : key ≠ other := by
    intro heq
    exact hother (heq ▸ hkey)
  cases h with
  | add before after value hother => exact present?_insert_of_ne (hne hother) value before after
  | remove before after value hother =>
    exact (present?_insert_of_ne (hne hother) value before after).symm
  | change before after value value' hother =>
    rw [present?_insert_of_ne (hne hother), present?_insert_of_ne (hne hother)]
  | addNull before after _ habsent => exact present?_insert_null habsent key
  | removeNull before after _ habsent => exact (present?_insert_null habsent key).symm

theorem Edit.isMapping {part : Part} {d d' : Document} (h : Edit part d d') :
    d.isMapping = true ∧ d'.isMapping = true := by
  cases h with
  | members => exact ⟨rfl, rfl⟩
  | item => exact ⟨rfl, rfl⟩

/-- **What can be seen of an edit.**  Under a key that a part is read by is the same value as before, or a
list of other parts of which one was edited. -/
theorem Edit.present? {part : Part} {d d' : Document} (h : Edit part d d') {key : String}
    (hkey : key ∈ part.keys) :
    present? key d' = present? key d ∨
      ∃ inner items rest x x', part.listed? key = some inner ∧ Edit inner x x' ∧
        present? key d = some (.list (items ++ x :: rest)) ∧
        present? key d' = some (.list (items ++ x' :: rest)) := by
  cases h with
  | members hmembers => exact .inl (hmembers.present? hkey)
  | @item _ inner other before after items rest x x' hlisted hedit =>
    by_cases hother : key = other
    · subst hother
      cases hbefore : before.lookup key with
      | some value =>
        -- the list stands behind another member with its key
        left
        rw [present?_mapping, present?_mapping, List.lookup_append, List.lookup_append, hbefore]
        rfl
      | none =>
        right
        refine ⟨inner, items, rest, x, x', hlisted, hedit, ?_, ?_⟩
        · rw [present?_mapping, List.lookup_append, hbefore, List.lookup_cons_self]
          rfl
        · rw [present?_mapping, List.lookup_append, hbefore, List.lookup_cons_self]
          rfl
    · left
      rw [present?_insert_of_ne hother, present?_insert_of_ne hother]

/-! ### Readers -/

/-- A reader gives the same for a part wherever it stands, before and after an edit. -/
def Unmoved {α : Type} (part : Part) (read : Reader α) : Prop :=
  ∀ d d', Edit part d d' → ∀ loc, read loc d' = read loc d

/-- A reader of what stands under a key of a part gives the same for a list before and after an edit of one
of its items. -/
def UnmovedUnder {α : Type} (part : Part) (key : String) (read : Reader α) : Prop :=
  ∀ inner, part.listed? key = some inner → ∀ items rest x x', Edit inner x x' →
    ∀ loc, read loc (.list (items ++ x' :: rest)) = read loc (.list (items ++ x :: rest))

/-- Where no parts are listed there is nothing to see. -/
theorem unmovedUnder_of_none {α : Type} {part : Part} {key : String} (h : part.listed? key = none)
    (read : Reader α) : UnmovedUnder part key read := by
  intro inner hinner
  rw [h] at hinner
  cases hinner

section
variable {α : Type} {part inner : Part} {key : String} {read : Reader α} {d d' : Document}

theorem required_of_edit (h : Edit part d d') (hkey : key ∈ part.keys)
    (hread : UnmovedUnder part key read) (loc : Location) :
    required key read loc d' = required key read loc d := by
  obtain ⟨hd, hd'⟩ := h.isMapping
  unfold required
  rw [hd, hd']
  rcases h.present? hkey with hsame | ⟨inner, items, rest, x, x', hlisted, hedit, hold, hnew⟩
  · rw [hsame]
  · rw [hold, hnew]
    exact hread inner hlisted items rest x x' hedit (loc.child key)

theorem optional_of_edit (h : Edit part d d') (hkey : key ∈ part.keys)
    (hread : UnmovedUnder part key read) (default : α) (loc : Location) :
    optional key default read loc d' = optional key default read loc d := by
  unfold optional
  rcases h.present? hkey with hsame | ⟨inner, items, rest, x, x', hlisted, hedit, hold, hnew⟩
  · rw [hsame]
  · rw [hold, hnew]
    exact hread inner hlisted items rest x x' hedit (loc.child key)

theorem itemsFrom_congr {x x' : Document} (h : ∀ loc, read loc x' = read loc x) (loc : Location)
    (position : Nat) (items rest : List Document) :
    itemsFrom read loc position (items ++ x' :: rest)
      = itemsFrom read loc position (items ++ x :: rest) := by
  induction items generalizing position with
  | nil =>
    show (read (loc.item position) x').bind _ = (read (loc.item position) x).bind _
    rw [h]
  | cons item items ih =>
    show (read (loc.item position) item).bind _ = (read (loc.item position) item).bind _
    simp only [List.append_eq, ih]

/-- A list is read as before if its items are. -/
theorem Unmoved.listOf (h : Unmoved inner read) (hlisted : part.listed? key = some inner) :
    UnmovedUnder part key (listOf read) := by
  intro inner' hinner' items rest x x' hedit loc
  obtain rfl : inner = inner' := Option.some.inj (hlisted.symm.trans hinner')
  exact itemsFrom_congr (h x x' hedit) loc 0 items rest

end

/-! ### Parts of descriptions -/

theorem unmoved_param : Unmoved .param param := by
  intro d d' h loc
  unfold param
  rw [required_of_edit h (by decide) (unmovedUnder_of_none rfl string),
    required_of_edit h (by decide) (unmovedUnder_of_none rfl identifier)]

theorem unmoved_typeAlias : Unmoved .typeAlias typeAlias := by
  intro d d' h loc
  unfold typeAlias
  rw [required_of_edit h (by decide) (unmovedUnder_of_none rfl identifier),
    required_of_edit h (by decide) (unmovedUnder_of_none rfl string),
    optional_of_edit h (by decide) (unmovedUnder_of_none rfl docLines)]

theorem unmoved_method (kind : MethodKind) : Unmoved .method (method kind) := by
  intro d d' h loc
  unfold method
  rw [required_of_edit h (by decide) (unmovedUnder_of_none rfl identifier),
    required_of_edit h (by decide) (unmovedUnder_of_none rfl string),
    optional_of_edit h (by decide) (unmovedUnder_of_none rfl boolean),
    optional_of_edit h (by decide) (unmovedUnder_of_none rfl boolean),
    optional_of_edit h (by decide) (unmoved_param.listOf rfl),
    optional_of_edit h (by decide) (unmovedUnder_of_none rfl docLines)]

theorem unmoved_representation : Unmoved .representation representation := by
  intro d d' h loc
  unfold representation
  rw [required_of_edit h (by decide) (unmovedUnder_of_none rfl identifier),
    optional_of_edit h (by decide) (unmovedUnder_of_none rfl _)]

theorem representationsFrom_congr {x x' : Document}
    (h : ∀ loc, representation loc x' = representation loc x) (loc : Location) (seen : List String)
    (position : Nat) (items rest : List Document) :
    representationsFrom loc seen position (items ++ x' :: rest)
      = representationsFrom loc seen position (items ++ x :: rest) := by
  induction items generalizing seen position with
  | nil =>
    show (representation (loc.item position) x').bind _ = (representation (loc.item position) x).bind _
    rw [h]
  | cons item items ih =>
    show (representation (loc.item position) item).bind _
      = (representation (loc.item position) item).bind _
    simp only [List.append_eq, ih]

theorem unmovedUnder_reprs : UnmovedUnder .description "reprs" representationList := by
  intro inner hinner items rest x x' hedit loc
  cases hinner
  exact representationsFrom_congr (unmoved_representation x x' hedit) loc [] 0 items rest

/-- The lists of methods of either kind are read as before. -/
theorem methodsOf_of_edit {d d' : Document} (h : Edit .description d d') (kind : MethodKind)
    (loc : Location) : methodsOf kind loc d' = methodsOf kind loc d := by
  unfold methodsOf
  cases kind with
  | const => exact required_of_edit h (by decide) ((unmoved_method .const).listOf rfl) loc
  | nonconst => exact required_of_edit h (by decide) ((unmoved_method .nonconst).listOf rfl) loc

theorem unmoved_reader : Unmoved .description reader := by
  intro d d' h loc
  unfold reader
  rw [required_of_edit h (by decide) (unmovedUnder_of_none rfl identifier),
    required_of_edit h (by decide) (unmovedUnder_of_none rfl identifier),
    required_of_edit h (by decide) (unmovedUnder_of_none rfl identifier),
    required_of_edit h (by decide) (unmovedUnder_of_none rfl string),
    optional_of_edit h (by decide) (unmovedUnder_of_none rfl docLines),
    optional_of_edit h (by decide) (unmovedUnder_of_none rfl (listOf string)),
    optional_of_edit h (by decide) (unmovedUnder_of_none rfl boolean),
    optional_of_edit h (by decide) (unmoved_typeAlias.listOf rfl),
    methodsOf_of_edit h .const, methodsOf_of_edit h .nonconst,
    optional_of_edit h (by decide) unmovedUnder_reprs]

/-- **Unknown members and nulls do not matter.**  A document that was edited any number of times, in the
description or in any part of it, is read as before: the schema is the same, and if there is a fault it is
the same one at the same location. -/
theorem ofDocument_of_edits {d d' : Document} (h : Relation.ReflTransGen (Edit .description) d d') :
    ofDocument d' = ofDocument d := by
  induction h with
  | refl => rfl
  | tail _ hedit ih =>
    rw [← ih]
    exact unmoved_reader _ _ hedit []

/-- A description with a parameter that takes the name of the receiver. In front of the members of the
description, of the method and of the parameter stand others. -/
def clashingDocument (inDescription inMethod inParam : List (String × Document)) : Document :=
  .mapping (inDescription ++
    [("facet", .string "Draw"), ("namespace1", .string "a"), ("namespace2", .string "b"),
      ("brief", .string ""),
      ("const_methods", .list [.mapping (inMethod ++
        [("name", .string "size"), ("return", .string "int"), ("args", .list [.mapping (inParam ++
          [("type", .string "int"), ("name", .string "data")])])])]),
      ("nonconst_methods", .list [])])

theorem clashingDocument_edited :
    Relation.ReflTransGen (Edit .description) (clashingDocument [("author", .null)] [] [])
        (clashingDocument [("reprs", .null)] [("doc", .null)] [("default", .list [.int 0])]) ∧
      ofDocument (clashingDocument [("reprs", .null)] [("doc", .null)] [("default", .list [.int 0])])
        = .error (.reservedParameter
            [.key "const_methods", .index 0, .key "args", .index 0, .key "name"]) := by
  have hremove : Edit .description (clashingDocument [("author", .null)] [] []) (clashingDocument [] [] []) :=
    .members (.remove [] _ .null (by decide))
  have hnull : Edit .description (clashingDocument [] [] []) (clashingDocument [("reprs", .null)] [] []) :=
    .members (.addNull [] _ (by decide) (by decide))
  have hmethod : Edit .description (clashingDocument [("reprs", .null)] [] [])
      (clashingDocument [("reprs", .null)] [("doc", .null)] []) :=
    .item [("reprs", .null), _, _, _, _] _ [] [] rfl (.members (.addNull [] _ (by decide) (by decide)))
  have hparam : Edit .description (clashingDocument [("reprs", .null)] [("doc", .null)] [])
      (clashingDocument [("reprs", .null)] [("doc", .null)] [("default", .list [.int 0])]) :=
    .item [("reprs", .null), _, _, _, _] _ [] [] rfl
      (.item [("doc", .null), _, _] _ [] [] rfl (.members (.add [] _ _ (by decide))))
  have hedits := (((Relation.ReflTransGen.single hremove).tail hnull).tail hmethod).tail hparam
  exact ⟨hedits, (ofDocument_of_edits hedits).trans rfl⟩

end Faceting.Schema
