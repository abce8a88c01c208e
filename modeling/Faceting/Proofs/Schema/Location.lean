import Faceting.Proofs.Schema.Grammar

/-!
# Locations and their texts

A location leads to a part of a document (`Document.part?`). What messages show of it is a text, in which
keys stand behind dots and positions in brackets; `Location.ofText?` reads such a text back, so that a
location can be followed from its text alone. If the keys of a location are identifiers, the text says all
of it (`Location.ofText?_text`).
-/

namespace Faceting

/-! ### Parts of documents -/

namespace Document

/-- The part of a document at a location. -/
def part? : Location → Document → Option Document
  | [], d => some d
  | .key name :: rest, d => (d.member? name).bind (part? rest)
  | .index position :: rest, .list items => items[position]?.bind (part? rest)
  | .index _ :: _, _ => none

theorem part?_append (loc more : Location) (d : Document) :
    part? (loc ++ more) d = (part? loc d).bind (part? more) := by
  induction loc generalizing d with
  | nil => rfl
  | cons step rest ih =>
    cases step with
    | key name =>
      rw [List.cons_append, part?, part?, Option.bind_assoc]
      congr 1
      funext value
      exact ih value
    | index position =>
      cases d with
      | list items =>
        rw [List.cons_append, part?, part?, Option.bind_assoc]
        congr 1
        funext value
        exact ih value
      | _ => rfl

section
variable {d value part : Document} {loc : Location}

theorem part?_child (h : d.part? loc = some value) {key : String} (hpart : value.member? key = some part) :
    d.part? (loc.child key) = some part := by
  rw [Location.child, part?_append, h]
  simp [part?, hpart]

theorem part?_item {items : List Document} (h : d.part? loc = some (.list items)) {position : Nat}
    (hpart : items[position]? = some part) : d.part? (loc.item position) = some part := by
  rw [Location.item, part?_append, h]
  simp [part?, hpart]

end

end Document

/-! ### Texts of locations -/

namespace Location

/-- Whether a character of a text belongs to a key. -/
def isKeyPart (c : Char) : Bool :=
  c != '.' && c != '['

/-- Reads steps: keys behind dots, positions in brackets. -/
def readSteps (cs : List Char) : Option Location :=
  match cs with
  | [] => some []
  | '.' :: rest =>
    (readSteps (rest.dropWhile isKeyPart)).map
      (.key (String.ofList (rest.takeWhile isKeyPart)) :: ·)
  | '[' :: rest =>
    if (rest.dropWhile Char.isDigit).head? = some ']' then
      (readSteps (rest.dropWhile Char.isDigit).tail).map
        (.index (Nat.ofDigitChars 10 (rest.takeWhile Char.isDigit) 0) :: ·)
    else none
  | _ => none
termination_by cs.length
decreasing_by
  · exact Nat.lt_succ_of_le (List.dropWhile_sublist _).length_le
  · have hrest := (List.dropWhile_sublist Char.isDigit : (rest.dropWhile Char.isDigit).Sublist rest).length_le
    rw [List.length_tail, List.length_cons]
    omega

/-- The location that a text shows. The first key has no dot before it, and `<document>` is the whole. -/
def ofText? (text : String) : Option Location :=
  if text = "<document>" then some []
  else
    match text.toList with
    | '[' :: rest => readSteps ('[' :: rest)
    | cs => readSteps ('.' :: cs)

/-- The keys of a location are identifiers. -/
def Plain (loc : Location) : Prop :=
  ∀ name, Step.key name ∈ loc → Text.isIdentifier name = true

theorem plain_nil : Plain [] := by
  intro name hname
  cases hname

theorem Plain.of_cons {step : Step} {rest : Location} (h : Plain (step :: rest)) : Plain rest :=
  fun name hname => h name (List.mem_cons_of_mem step hname)

theorem Plain.child {loc : Location} (h : loc.Plain) {key : String}
    (hkey : Text.isIdentifier key = true) : (loc.child key).Plain := by
  intro name hname
  rcases List.mem_append.1 hname with hname | hname
  · exact h name hname
  · cases List.mem_singleton.1 hname
    exact hkey

theorem Plain.item {loc : Location} (h : loc.Plain) (position : Nat) : (loc.item position).Plain := by
  intro name hname
  rcases List.mem_append.1 hname with hname | hname
  · exact h name hname
  · cases List.mem_singleton.1 hname

/-! ### Reading texts back -/

theorem toList_tailText_key (name : String) (rest : Location) :
    (tailText (.key name :: rest)).toList = '.' :: (name.toList ++ (tailText rest).toList) := by
  simp [tailText]

theorem toList_tailText_index (n : Nat) (rest : Location) :
    (tailText (.index n :: rest)).toList
      = '[' :: (Nat.toDigits 10 n ++ ']' :: (tailText rest).toList) := by
  simp [tailText]

theorem isKeyPart_head?_tailText {loc : Location} {c : Char} (h : (tailText loc).toList.head? = some c) :
    isKeyPart c = false := by
  cases loc with
  | nil => cases h
  | cons step rest =>
    cases step with
    | key name =>
      rw [toList_tailText_key] at h
      cases h
      rfl
    | index n =>
      rw [toList_tailText_index] at h
      cases h
      rfl

theorem isKeyPart_of_isIdentifier {name : String} (h : Text.isIdentifier name = true) {c : Char}
    (hc : c ∈ name.toList) : isKeyPart c = true := by
  have hpart := Text.isIdentifierPart_of_isIdentifier h hc
  have hne : c ≠ '.' ∧ c ≠ '[' := by
    constructor <;> rintro rfl <;> exact absurd hpart (by decide)
  simp [isKeyPart, hne.1, hne.2]

theorem readSteps_tailText {loc : Location} (h : loc.Plain) :
    readSteps (tailText loc).toList = some loc := by
  induction loc with
  | nil =>
    rw [tailText, String.toList_empty, readSteps]
  | cons step rest ih =>
    cases step with
    | key name =>
      have hname : ∀ c ∈ name.toList, isKeyPart c = true := fun c hc =>
        isKeyPart_of_isIdentifier (h name List.mem_cons_self) hc
      have hnext : ∀ c, (tailText rest).toList.head? = some c → isKeyPart c = false := fun c hc =>
        isKeyPart_head?_tailText hc
      obtain ⟨htake, hdrop⟩ := Text.takeWhile_dropWhile_append hname hnext
      rw [toList_tailText_key, readSteps, htake, hdrop, ih h.of_cons, String.ofList_toList]
      rfl
    | index n =>
      have hdigits : ∀ c ∈ Nat.toDigits 10 n, c.isDigit = true := fun c hc =>
        Nat.isDigit_of_mem_toDigits (by decide) (by decide) hc
      have hbracket : ∀ c, (']' :: (tailText rest).toList).head? = some c → c.isDigit = false := by
        intro c hc
        cases hc
        rfl
      obtain ⟨htake, hdrop⟩ := Text.takeWhile_dropWhile_append hdigits hbracket
      rw [toList_tailText_index, readSteps, htake, hdrop, List.head?_cons, if_pos rfl, List.tail_cons,
        ih h.of_cons, Nat.ofDigitChars_ten_toDigits]
      rfl

theorem ne_whole_of_head? {text : String} {c : Char} (h : text.toList.head? = some c) (hc : c ≠ '<') :
    text ≠ "<document>" := by
  rintro rfl
  exact hc (Option.some.inj h).symm

/-- **A location with plain keys can be read back from its text.** -/
theorem ofText?_text {loc : Location} (h : loc.Plain) : ofText? loc.text = some loc := by
  cases loc with
  | nil => exact if_pos rfl
  | cons step rest =>
    cases step with
    | key name =>
      obtain ⟨first, more, hname, hfirst, -⟩ :=
        (Text.isIdentifier_iff name).1 (h name List.mem_cons_self)
      have hstart := (Text.isIdentifierStart_iff first).2 hfirst
      have htext : (text (.key name :: rest)).toList = first :: (more ++ (tailText rest).toList) := by
        rw [text, String.toList_append, hname]
        rfl
      -- the text starts like an identifier, so it is neither that of the whole nor of a position
      have hne : first ≠ '<' ∧ first ≠ '[' := by
        constructor <;> rintro rfl <;> exact absurd hstart (by decide)
      have hwhole : text (.key name :: rest) ≠ "<document>" :=
        ne_whole_of_head? (by rw [htext]; rfl) hne.1
      have hread : readSteps ('.' :: (text (.key name :: rest)).toList) = some (.key name :: rest) := by
        rw [← readSteps_tailText h, toList_tailText_key, text, String.toList_append]
      rw [ofText?, if_neg hwhole]
      split
      · rename_i cs hcs
        rw [htext] at hcs
        exact absurd (List.cons.inj hcs).1 hne.2
      · exact hread
    | index n =>
      have htext : (text (.index n :: rest)).toList
          = '[' :: (Nat.toDigits 10 n ++ ']' :: (tailText rest).toList) := toList_tailText_index n rest
      have hwhole : text (.index n :: rest) ≠ "<document>" :=
        ne_whole_of_head? (by rw [htext]; rfl) (by decide)
      rw [ofText?, if_neg hwhole, htext]
      show readSteps _ = _
      rw [← toList_tailText_index]
      exact readSteps_tailText h

end Location

end Faceting
