import Faceting.Text.Character
import Faceting.Text.Split

/-!
# Results, lists of pairs, and pieces of texts

Lemmas that are not about any one part of the library: on computations that may fail, on looking up a name
in a list of pairs, and on characters and pieces of a text (`Text.splitOn`).
-/

namespace Faceting

/-! ### Results -/

theorem bind_eq_ok {ε α β : Type} {x : Except ε α} {f : α → Except ε β} {b : β}
    (h : x >>= f = .ok b) : ∃ a, x = .ok a ∧ f a = .ok b := by
  cases x with
  | error e => cases h
  | ok a => exact ⟨a, rfl, h⟩

theorem exists_of_isOk {ε α : Type} {x : Except ε α} (h : x.isOk = true) : ∃ a, x = .ok a := by
  cases x with
  | error e => cases h
  | ok a => exact ⟨a, rfl⟩

theorem mapM_ok {ε α β : Type} {f : α → Except ε β} {g : α → β} {as : List α}
    (h : ∀ a ∈ as, f a = .ok (g a)) : as.mapM f = .ok (as.map g) := by
  induction as with
  | nil => rfl
  | cons a rest ih =>
    have hrest := ih fun b hb => h b (List.mem_cons_of_mem a hb)
    simp [List.mapM_cons, h a List.mem_cons_self, hrest, bind, Except.bind, pure, Except.pure]

/-! ### Lists of pairs -/

/-- What is true of all pairs is true of what is looked up. -/
theorem forall_lookup {α : Type} {entries : List (String × α)} {P : String → α → Prop}
    (h : ∀ entry ∈ entries, P entry.1 entry.2) (name : String) (a : α)
    (hname : entries.lookup name = some a) : P name a := by
  obtain ⟨before, after, rfl, -⟩ := List.lookup_eq_some_iff.1 hname
  exact h (name, a) (by simp)

theorem isSome_lookup_iff {α : Type} {pairs : List (String × α)} {name : String} :
    (pairs.lookup name).isSome = true ↔ name ∈ pairs.map Prod.fst := by
  rw [List.lookup_isSome_iff, List.mem_map]
  constructor
  · intro h
    obtain ⟨pair, hpair, hname⟩ := h
    exact ⟨pair, hpair, (beq_iff_eq.1 hname).symm⟩
  · intro h
    obtain ⟨pair, hpair, rfl⟩ := h
    exact ⟨pair, hpair, beq_self_eq_true _⟩

theorem lookup_filter_key {α : Type} (keep : String → Bool) (name : String) (pairs : List (String × α)) :
    (pairs.filter fun pair => keep pair.1).lookup name
      = if keep name then pairs.lookup name else none := by
  induction pairs with
  | nil => simp
  | cons pair rest ih =>
    obtain ⟨key, value⟩ := pair
    by_cases hname : name = key
    · subst hname
      cases hkeep : keep name <;> simp [hkeep, ih]
    · have hne : (name == key) = false := beq_eq_false_iff_ne.2 hname
      cases hkeep : keep key <;> simp [hkeep, List.lookup_cons, hne, ih]

namespace Text

/-! ### Classes of characters -/

theorem isIdentifierPart_of_isIdentifier {text : String} (h : isIdentifier text = true) {c : Char}
    (hc : c ∈ text.toList) : isIdentifierPart c = true := by
  unfold isIdentifier at h
  split at h
  · cases h
  · rename_i first rest htext
    rw [Bool.and_eq_true, List.all_eq_true] at h
    rw [htext] at hc
    rcases List.mem_cons.1 hc with rfl | hc
    · simp [isIdentifierPart, h.1]
    · exact h.2 c hc

/-- Characters of a class end where another character follows them. -/
theorem takeWhile_dropWhile_append {p : Char → Bool} {cs rest : List Char} (hcs : ∀ c ∈ cs, p c = true)
    (hrest : ∀ c, rest.head? = some c → p c = false) :
    (cs ++ rest).takeWhile p = cs ∧ (cs ++ rest).dropWhile p = rest := by
  have hstop : rest.takeWhile p = [] ∧ rest.dropWhile p = rest := by
    cases rest with
    | nil => exact ⟨rfl, rfl⟩
    | cons c more => simp [hrest c rfl]
  rw [List.takeWhile_append_of_pos hcs, List.dropWhile_append_of_pos hcs, hstop.1, hstop.2]
  exact ⟨List.append_nil cs, rfl⟩

/-! ### Pieces of a text -/

theorem splitOn_ne_nil (sep : Char) (cs : List Char) : splitOn sep cs ≠ [] := by
  cases cs with
  | nil => simp [splitOn]
  | cons c rest =>
    rw [splitOn]
    split
    · simp
    · split <;> simp

theorem splitOn_append_sep (sep : Char) (xs ys : List Char) :
    splitOn sep (xs ++ sep :: ys) = splitOn sep xs ++ splitOn sep ys := by
  induction xs with
  | nil => simp [splitOn]
  | cons c rest ih =>
    rw [List.cons_append, splitOn, splitOn, ih]
    split
    · rfl
    · cases hrest : splitOn sep rest with
      | nil => exact absurd hrest (splitOn_ne_nil sep rest)
      | cons piece pieces => rfl

theorem splitOn_of_notMem {sep : Char} {cs : List Char} (h : sep ∉ cs) : splitOn sep cs = [cs] := by
  induction cs with
  | nil => rfl
  | cons c rest ih =>
    rw [List.mem_cons, not_or] at h
    rw [splitOn, if_neg (Ne.symm h.1), ih h.2]

theorem notMem_of_mem_splitOn {sep : Char} {cs piece : List Char} (h : piece ∈ splitOn sep cs) :
    sep ∉ piece := by
  induction cs generalizing piece with
  | nil => simp_all [splitOn]
  | cons c rest ih =>
    rw [splitOn] at h
    split at h
    · rcases List.mem_cons.1 h with rfl | h
      · simp
      · exact ih h
    · rename_i hc
      split at h
      · simp_all [Ne.symm hc]
      · rename_i first pieces hrest
        rcases List.mem_cons.1 h with rfl | h
        · have hfirst := ih (hrest ▸ List.mem_cons_self : first ∈ splitOn sep rest)
          simpa [Ne.symm hc] using hfirst
        · exact ih (hrest ▸ List.mem_cons_of_mem first h)

/-- The characters of a text are those of its pieces and the separator. -/
theorem mem_iff_mem_splitOn {sep c : Char} (hc : c ≠ sep) (cs : List Char) :
    c ∈ cs ↔ ∃ piece ∈ splitOn sep cs, c ∈ piece := by
  induction cs with
  | nil => simp [splitOn]
  | cons x rest ih =>
    rw [splitOn]
    split
    · rename_i hx
      simp [hx, hc, ih]
    · cases hrest : splitOn sep rest with
      | nil => exact absurd hrest (splitOn_ne_nil sep rest)
      | cons piece pieces => simp [ih, hrest, or_assoc]

theorem splitOn_joinWith {sep : Char} {texts : List String} (hne : texts ≠ [])
    (h : ∀ text ∈ texts, sep ∉ text.toList) :
    splitOn sep (joinWith (String.ofList [sep]) texts).toList = texts.map String.toList := by
  induction texts with
  | nil => exact absurd rfl hne
  | cons text rest ih =>
    have hfirst := splitOn_of_notMem (h text List.mem_cons_self)
    cases rest with
    | nil => simpa [joinWith] using hfirst
    | cons next rest =>
      have hrest := ih (List.cons_ne_nil _ _) fun t ht => h t (List.mem_cons_of_mem text ht)
      rw [joinWith, String.toList_append, String.toList_append, String.toList_ofList,
        List.append_assoc, List.singleton_append, splitOn_append_sep, hfirst, hrest]
      rfl

end Text

end Faceting
