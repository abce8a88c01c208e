import Faceting.Document

/-!
# Records in documents

A record with a fixed list of fields is written as a mapping with the names of the fields, in which
other keys do not matter, or as a list with the values of all fields in their order.
-/

namespace Faceting.Document

/-- The value of a key that stands in the members at most once; nothing if it stands there twice. -/
def single? (key : String) (members : List (String × Document)) : Option (Option Document) :=
  match members.filter (·.1 == key) with
  | [] => some none
  | [(_, value)] => some (some value)
  | _ => none

/-- The values of the fields with the given names, in order, each where it is given. -/
def fields? (names : List String) : Document → Option (List (Option Document))
  | .mapping members => names.mapM (single? · members)
  | .list items => if items.length = names.length then some (items.map some) else none
  | _ => none

/-- The text of a string. -/
def string? : Document → Option String
  | .string text => some text
  | _ => none

/-- The value of a boolean. -/
def bool? : Document → Option Bool
  | .bool value => some value
  | _ => none

/-- The items of a list, each read with the same reader. -/
def listOf? {α : Type} (read : Document → Option α) : Document → Option (List α)
  | .list items => items.mapM read
  | _ => none

/-- Items that were written each in a way that can be read are read back. -/
theorem listOf?_map {α : Type} {read : Document → Option α} {write : α → Document} {as : List α}
    (h : ∀ a ∈ as, read (write a) = some a) :
    (Document.list (as.map write)).listOf? read = some as := by
  show (as.map write).mapM read = some as
  induction as with
  | nil => rfl
  | cons a rest ih =>
    have hrest := ih fun b hb => h b (List.mem_cons_of_mem a hb)
    simp [h a List.mem_cons_self, hrest]

/-- What is read from a list is read from its items. -/
theorem exists_of_listOf? {α : Type} {read : Document → Option α} {d : Document} {as : List α}
    (h : d.listOf? read = some as) {a : α} (ha : a ∈ as) : ∃ item, read item = some a := by
  cases d with
  | list items =>
    replace h : items.mapM read = some as := h
    induction items generalizing as with
    | nil =>
      cases h
      cases ha
    | cons item rest ih =>
      rw [List.mapM_cons] at h
      obtain ⟨first, hfirst, h⟩ := Option.bind_eq_some_iff.1 h
      obtain ⟨others, hothers, h⟩ := Option.bind_eq_some_iff.1 h
      cases h
      rcases List.mem_cons.1 ha with rfl | hmem
      · exact ⟨item, hfirst⟩
      · exact ih hmem hothers
  | _ => cases h

/-- The name of one of several alternatives: a text, or a mapping from it to null. -/
def label? : Document → Option String
  | .string text => some text
  | .mapping [(text, .null)] => some text
  | _ => none

/-- A field that may be left out or null. -/
def optional? {α : Type} (read : Document → Option α) : Option Document → Option (Option α)
  | none => some none
  | some .null => some none
  | some d => (read d).map some

end Faceting.Document
