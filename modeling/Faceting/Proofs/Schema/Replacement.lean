import Faceting.Proofs.Schema.Irrelevance
import Faceting.Proofs.Schema.Location

/-!
# Other values at a location

`Document.replace` puts another value where a location leads. A reader that takes the one for the other does
not see the difference, and neither does a reader that looks past it: so a document is read as before if
the reader of the replaced member gives the same for both values (`required_replace`, `optional_replace`,
`listOf_replace`). What follows for the parts of a description is told by `typeAlias_replace`,
`method_replace` and `reader_replace`.
-/

namespace Faceting

/-! ### Replacement -/

namespace Document

/-- The document with another value at a location; the same document if the location leads nowhere. -/
def replace (d : Document) (loc : Location) (value : Document) : Document :=
  match loc, d with
  | [], _ => value
  | .key name :: rest, .mapping members =>
    .mapping (members.map fun (key, old) => (key, if key = name then old.replace rest value else old))
  | .index position :: rest, .list items => .list (items.modify position (·.replace rest value))
  | _ :: _, d => d

theorem lookup_replaceMember (name key : String) (f : Document → Document)
    (members : List (String × Document)) :
    (members.map fun (k, old) => (k, if k = name then f old else old)).lookup key
      = (members.lookup key).map fun old => if key = name then f old else old := by
  induction members with
  | nil => rfl
  | cons member rest ih =>
    obtain ⟨k, old⟩ := member
    rw [List.map_cons, List.lookup_cons, List.lookup_cons, ih]
    by_cases hkey : key = k
    · subst hkey
      simp
    · rw [beq_false_of_ne hkey]

section
variable (d : Document) (name : String) (rest : Location) (value : Document)

theorem isMapping_replace_key : (d.replace (.key name :: rest) value).isMapping = d.isMapping := by
  cases d <;> rfl

theorem member?_replace_key (key : String) :
    (d.replace (.key name :: rest) value).member? key
      = (d.member? key).map fun old => if key = name then old.replace rest value else old := by
  cases d with
  | mapping members => exact lookup_replaceMember name key (·.replace rest value) members
  | _ => rfl

theorem replace_index (items : List Document) (position : Nat) :
    (list items).replace (.index position :: rest) value
      = .list (items.modify position (·.replace rest value)) := rfl

end

/-- What was put at a location is found there. -/
theorem part?_replace {d old : Document} {loc : Location} (h : d.part? loc = some old) (value : Document) :
    (d.replace loc value).part? loc = some value := by
  induction loc generalizing d with
  | nil => rfl
  | cons step rest ih =>
    cases step with
    | key name =>
      obtain ⟨member, hmember, hrest⟩ := Option.bind_eq_some_iff.1 h
      rw [part?, member?_replace_key, hmember, Option.map_some, if_pos rfl]
      exact ih hrest
    | index position =>
      cases d with
      | list items =>
        obtain ⟨item, hitem, hrest⟩ := Option.bind_eq_some_iff.1 h
        rw [replace_index, part?, List.getElem?_modify_eq, hitem]
        exact ih hrest
      | _ => cases h

end Document

namespace Schema

open Document

/-! ### Members -/

/-- A reader takes a value for another. Neither of them is null, which would stand for an absent member. -/
structure Interchangeable {α : Type} (read : Reader α) (old new : Document) : Prop where
  old_ne : old ≠ .null
  new_ne : new ≠ .null
  same : ∀ loc, read loc new = read loc old

theorem present?_of_member? {d value : Document} {key : String} (h : d.member? key = some value)
    (hvalue : value ≠ .null) : present? key d = some value := by
  unfold present?
  rw [h]
  cases value with
  | null => exact absurd rfl hvalue
  | _ => rfl

section
variable {α : Type} {read : Reader α} {name key : String} {rest : Location} {d old value : Document}

/-- What is under a key is the same as before, unless it is what was replaced. -/
theorem present?_replace (hold : d.member? name = some old)
    (h : key = name → Interchangeable read old (old.replace rest value)) :
    present? key (d.replace (.key name :: rest) value) = present? key d ∨
      (present? key d = some old ∧
        present? key (d.replace (.key name :: rest) value) = some (old.replace rest value) ∧
        ∀ loc, read loc (old.replace rest value) = read loc old) := by
  by_cases hkey : key = name
  · right
    subst hkey
    have hnew : (d.replace (.key key :: rest) value).member? key = some (old.replace rest value) := by
      rw [member?_replace_key, hold, Option.map_some, if_pos rfl]
    exact ⟨present?_of_member? hold (h rfl).old_ne, present?_of_member? hnew (h rfl).new_ne, (h rfl).same⟩
  · left
    unfold present?
    rw [member?_replace_key]
    simp [hkey]

/-- A member that has to be there is read as before if the reader of it takes the one value for the other. -/
theorem required_replace (hold : d.member? name = some old)
    (h : key = name → Interchangeable read old (old.replace rest value)) (loc : Location) :
    required key read loc (d.replace (.key name :: rest) value) = required key read loc d := by
  unfold required
  rw [isMapping_replace_key]
  rcases present?_replace hold h with hsame | ⟨hpresent, hnew, hread⟩
  · rw [hsame]
  · rw [hpresent, hnew]
    simp only [hread]

theorem optional_replace (hold : d.member? name = some old)
    (h : key = name → Interchangeable read old (old.replace rest value)) (default : α) (loc : Location) :
    optional key default read loc (d.replace (.key name :: rest) value)
      = optional key default read loc d := by
  unfold optional
  rcases present?_replace hold h with hsame | ⟨hpresent, hnew, hread⟩
  · rw [hsame]
  · rw [hpresent, hnew]
    exact hread (loc.child key)

/-- A list is read as before if the replaced item is. -/
theorem listOf_replace {items : List Document} {position : Nat} {item : Document}
    (hitem : items[position]? = some item) (h : ∀ loc, read loc (item.replace rest value) = read loc item) :
    Interchangeable (listOf read) (.list items) ((list items).replace (.index position :: rest) value) := by
  refine ⟨by simp, by simp [replace_index], fun loc => ?_⟩
  obtain ⟨hlt, rfl⟩ := List.getElem?_eq_some_iff.1 hitem
  have hitems : items = items.take position ++ items[position] :: items.drop (position + 1) := by simp
  have hnew : items.modify position (·.replace rest value)
      = items.take position ++ items[position].replace rest value :: items.drop (position + 1) :=
    List.modify_eq_take_cons_drop hlt
  show itemsFrom read loc 0 _ = itemsFrom read loc 0 items
  rw [hnew]
  conv => rhs; rw [hitems]
  exact itemsFrom_congr h loc 0 _ _

end

/-! ### Parts of descriptions -/

section
variable {d old value : Document} {rest : Location}

/-- Under another key nothing was replaced. -/
theorem otherKey {α : Type} {read : Reader α} {key name : String} (h : key ≠ name) :
    key = name → Interchangeable read old (old.replace rest value) :=
  fun heq => absurd heq h

theorem typeAlias_replace (hold : d.member? "doc" = some old)
    (h : Interchangeable docLines old (old.replace rest value)) (loc : Location) :
    typeAlias loc (d.replace (.key "doc" :: rest) value) = typeAlias loc d := by
  unfold typeAlias
  rw [required_replace hold (otherKey (by decide)), required_replace hold (otherKey (by decide)),
    optional_replace hold fun _ => h]

theorem method_replace (kind : MethodKind) (hold : d.member? "doc" = some old)
    (h : Interchangeable docLines old (old.replace rest value)) (loc : Location) :
    method kind loc (d.replace (.key "doc" :: rest) value) = method kind loc d := by
  unfold method
  rw [required_replace hold (otherKey (by decide)), required_replace hold (otherKey (by decide)),
    optional_replace hold (otherKey (by decide)), optional_replace hold (otherKey (by decide)),
    optional_replace hold (otherKey (by decide)), optional_replace hold fun _ => h]

/-- A description is read as before if documentation, the types or the methods of a kind are replaced by what
is read like them. -/
theorem reader_replace {name : String} (hname : name ∈ ["doc", "types", "const_methods", "nonconst_methods"])
    (hold : d.member? name = some old)
    (hdoc : "doc" = name → Interchangeable docLines old (old.replace rest value))
    (htypes : "types" = name → Interchangeable (listOf typeAlias) old (old.replace rest value))
    (hmethods : ∀ kind : MethodKind, kind.listKey = name →
      Interchangeable (listOf (method kind)) old (old.replace rest value)) (loc : Location) :
    reader loc (d.replace (.key name :: rest) value) = reader loc d := by
  have hother {key : String} (hkey : key ∉ ["doc", "types", "const_methods", "nonconst_methods"]) :
      key ≠ name := fun heq => hkey (heq ▸ hname)
  unfold reader methodsOf
  rw [required_replace hold (otherKey (hother (by decide))),
    required_replace hold (otherKey (hother (by decide))),
    required_replace hold (otherKey (hother (by decide))),
    required_replace hold (otherKey (hother (by decide))),
    optional_replace hold hdoc, optional_replace hold (otherKey (hother (by decide))),
    optional_replace hold (otherKey (hother (by decide))), optional_replace hold htypes,
    required_replace hold (hmethods .const), required_replace hold (hmethods .nonconst),
    optional_replace hold (otherKey (hother (by decide)))]

end

end Schema

end Faceting
