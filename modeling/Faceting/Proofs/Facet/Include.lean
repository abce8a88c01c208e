import Faceting.Facet
import Mathlib.Data.List.Basic
import Mathlib.Data.List.DropRight
import Mathlib.Data.List.TakeWhile

/-!
# Canonical include operands

Includes are declared with or without enclosing marks, and maybe with blanks around them. What stands behind
`#include` has one of two forms (`IsEnclosed`): a name between angle brackets, or between double quotes. A
text in one of these forms has a mark at each end, so no blank (`IsEnclosed.isTrimmed`), and it is its own
operand (`includeOperand_of_isEnclosed`). Operands are always in one of the two forms
(`isEnclosed_includeOperand`), and so making an operand of one changes nothing.

Blanks are the characters with the Unicode property White_Space (`isBlank_iff`). What is left of a text
without the blanks around it is told by the text alone (`trim_eq_iff`): there is only one way to take blanks
off both ends and leave none there.
-/

namespace Faceting

namespace Text

/-! ### Blanks at the ends -/

/-- The characters with the property White_Space. -/
def whiteSpace : List Char :=
  ['\t', '\n', '\x0b', '\x0c', '\r', ' ', '\u0085', '\u00a0', '\u1680', '\u2000', '\u2001', '\u2002',
   '\u2003', '\u2004', '\u2005', '\u2006', '\u2007', '\u2008', '\u2009', '\u200a', '\u2028', '\u2029',
   '\u202f', '\u205f', '\u3000']

/-- The code points of some ranges, in order. -/
def codePoints (ranges : List (Nat × Nat)) : List Nat :=
  ranges.flatMap fun range => List.range' range.1 (range.2 + 1 - range.1)

theorem inRanges_iff {ranges : List (Nat × Nat)} {c : Char} :
    inRanges ranges c = true ↔ c.toNat ∈ codePoints ranges := by
  simp only [inRanges, codePoints, List.any_eq_true, List.mem_flatMap, List.mem_range'_1, Bool.and_eq_true,
    decide_eq_true_eq]
  refine exists_congr fun range => and_congr_right fun _ => ?_
  omega

theorem codePoints_blankRanges : codePoints blankRanges = whiteSpace.map Char.toNat := by decide

/-- The ranges of blanks hold the characters with the property White_Space, and no others. -/
theorem isBlank_iff (c : Char) : isBlank c = true ↔ c ∈ whiteSpace := by
  rw [isBlank, inRanges_iff, codePoints_blankRanges]
  exact List.mem_map_of_injective fun _ _ => Char.toNat_inj.1

/-- No blank stands at either end of a text. -/
structure IsTrimmed (text : String) : Prop where
  first : ∀ c ∈ text.toList.head?, c ∉ whiteSpace
  last : ∀ c ∈ text.toList.getLast?, c ∉ whiteSpace

/-- The second text is the first one without the blanks around it. -/
structure TrimsTo (text name : String) : Prop where
  around : ∃ before after : String, text = before ++ name ++ after ∧
    before.toList ⊆ whiteSpace ∧ after.toList ⊆ whiteSpace
  trimmed : IsTrimmed name

/-- Blanks in front are taken off as far as the first character that is none. -/
theorem dropWhile_isBlank_append {blanks cs : List Char} (hblanks : blanks ⊆ whiteSpace)
    (hfirst : ∀ c ∈ cs.head?, c ∉ whiteSpace) : (blanks ++ cs).dropWhile isBlank = cs := by
  rw [List.dropWhile_append_of_pos fun c hc => (isBlank_iff c).2 (hblanks hc)]
  cases cs with
  | nil => rfl
  | cons c rest =>
    exact List.dropWhile_cons_of_neg fun hblank => hfirst c rfl ((isBlank_iff c).1 hblank)

theorem notMem_of_mem_head?_dropWhile {cs : List Char} {c : Char}
    (h : c ∈ (cs.dropWhile isBlank).head?) : c ∉ whiteSpace := by
  have hblank := List.head?_dropWhile_not isBlank cs
  rw [Option.mem_def.1 h] at hblank
  rw [← isBlank_iff, hblank]
  exact Bool.false_ne_true

theorem isTrimmed_trim (text : String) : IsTrimmed (trim text) where
  first := by
    intro c hc
    rw [trim, String.toList_ofList, Option.mem_def] at hc
    -- What is taken off behind leaves the first character in place.
    have hstart : trimChars text.toList <+: text.toList.dropWhile isBlank := List.rdropWhile_prefix isBlank _
    obtain ⟨taken, htaken⟩ := hstart
    have hfirst : c ∈ (text.toList.dropWhile isBlank).head? := by
      rw [← htaken, List.head?_append, hc, Option.some_or]
      rfl
    exact notMem_of_mem_head?_dropWhile hfirst
  last := by
    intro c hc
    rw [trim, String.toList_ofList, trimChars, List.getLast?_reverse] at hc
    exact notMem_of_mem_head?_dropWhile hc

theorem trimsTo_trim (text : String) : TrimsTo text (trim text) where
  around := by
    let rest := text.toList.dropWhile isBlank
    refine ⟨String.ofList (text.toList.takeWhile isBlank), String.ofList (rest.rtakeWhile isBlank), ?_, ?_, ?_⟩
    · have hrest : trimChars text.toList ++ rest.rtakeWhile isBlank = rest :=
        List.rdropWhile_append_rtakeWhile
      rw [trim, String.append_assoc, ← String.ofList_append, hrest, ← String.ofList_append,
        List.takeWhile_append_dropWhile, String.ofList_toList]
    · intro c hc
      rw [String.toList_ofList] at hc
      exact (isBlank_iff c).1 (List.mem_takeWhile_imp hc)
    · intro c hc
      rw [String.toList_ofList] at hc
      exact (isBlank_iff c).1 (List.mem_rtakeWhile_imp hc)
  trimmed := isTrimmed_trim text

/-- Blanks around a text without blanks at its ends are taken off, and nothing else. -/
theorem TrimsTo.trim_eq {text name : String} (h : TrimsTo text name) : trim text = name := by
  obtain ⟨⟨before, after, rfl, hbefore, hafter⟩, hname⟩ := h
  rw [trim, trimChars, ← String.toList_inj, String.toList_ofList, String.toList_append, String.toList_append]
  cases hchars : name.toList with
  | nil =>
    -- Everything is blank, and it is all taken off in front.
    have hall : before.toList ++ after.toList ⊆ whiteSpace := List.append_subset.2 ⟨hbefore, hafter⟩
    have hfront : (before.toList ++ after.toList ++ []).dropWhile isBlank = [] :=
      dropWhile_isBlank_append hall (by simp)
    rw [List.append_nil] at hfront ⊢
    rw [hfront]
    rfl
  | cons c rest =>
    have hfirst := hname.first
    have hlast := hname.last
    rw [hchars] at hfirst hlast
    have hfront : (before.toList ++ (c :: rest ++ after.toList)).dropWhile isBlank = c :: rest ++ after.toList :=
      dropWhile_isBlank_append hbefore hfirst
    have hback : (after.toList.reverse ++ (c :: rest).reverse).dropWhile isBlank = (c :: rest).reverse := by
      refine dropWhile_isBlank_append (List.reverse_subset.2 hafter) ?_
      rwa [List.head?_reverse]
    rw [List.append_assoc, hfront, List.reverse_append, hback, List.reverse_reverse]

/-- **A text without the blanks around it** is the only one that blanks can be put around to give the text,
with none at its own ends. -/
theorem trim_eq_iff {text name : String} : trim text = name ↔ TrimsTo text name := by
  constructor
  · rintro rfl
    exact trimsTo_trim text
  · exact TrimsTo.trim_eq

theorem IsTrimmed.trim_eq {text : String} (h : IsTrimmed text) : trim text = text :=
  trim_eq_iff.2 ⟨⟨"", "", by simp, by simp, by simp⟩, h⟩

end Text

open Text (trim IsTrimmed TrimsTo)

/-! ### Enclosed texts -/

/-- The two forms of an operand: a name between angle brackets, or a name between double quotes. The name may be
empty, and both marks are there in any case: a quote alone is in neither form. -/
inductive IsEnclosed : String → Prop
  | brackets (name : String) : IsEnclosed ("<" ++ name ++ ">")
  | quotes (name : String) : IsEnclosed ("\"" ++ name ++ "\"")

/-- A text that is more than its first character has a text between its ends. -/
theorem exists_between {text : String} {c d : Char} (hfirst : text.toList.head? = some c)
    (hlast : text.toList.getLast? = some d) (hmore : text.toList ≠ [c]) :
    ∃ name : String, text = String.singleton c ++ name ++ String.singleton d := by
  obtain ⟨rest, hrest⟩ := List.head?_eq_some_iff.1 hfirst
  rw [hrest] at hlast hmore
  have hne : rest ≠ [] := by
    rintro rfl
    exact hmore rfl
  rw [List.getLast?_cons_of_ne_nil hne] at hlast
  obtain ⟨inner, rfl⟩ := List.getLast?_eq_some_iff.1 hlast
  refine ⟨String.ofList inner, ?_⟩
  rw [← String.toList_inj, hrest]
  simp

/-- The tests of a text's ends tell whether it is in one of the two forms. -/
theorem isEnclosed_iff {text : String} :
    IsEnclosed text ↔ (isBracketed text.toList || isQuoted text.toList) = true := by
  constructor
  · rintro (⟨name⟩ | ⟨name⟩) <;> simp [isBracketed, isQuoted, List.getLast?_cons]
  · intro h
    simp only [isBracketed, isQuoted, Bool.or_eq_true, Bool.and_eq_true, beq_iff_eq, decide_eq_true_eq] at h
    rcases h with ⟨hfirst, hlast⟩ | ⟨⟨hlength, hfirst⟩, hlast⟩
    · -- A bracket alone would be both the first and the last character.
      have hmore : text.toList ≠ ['<'] := by
        intro hone
        rw [hone] at hlast
        cases hlast
      obtain ⟨name, rfl⟩ := exists_between hfirst hlast hmore
      exact .brackets name
    · have hmore : text.toList ≠ ['"'] := by
        intro hone
        rw [hone] at hlength
        exact absurd hlength (by decide)
      obtain ⟨name, rfl⟩ := exists_between hfirst hlast hmore
      exact .quotes name

instance : DecidablePred IsEnclosed :=
  fun _ => decidable_of_iff _ isEnclosed_iff.symm

/-- The marks at the ends of an enclosed text are no blanks. -/
theorem IsEnclosed.isTrimmed {text : String} (h : IsEnclosed text) : IsTrimmed text := by
  cases h with
  | brackets name => constructor <;> simp [List.getLast?_cons, Text.whiteSpace]
  | quotes name => constructor <;> simp [List.getLast?_cons, Text.whiteSpace]

/-! ### Operands -/

/-- An operand is what is declared, without the blanks around it, if that is enclosed, and else in quotes. -/
theorem includeOperand_eq (declared : String) :
    includeOperand declared
      = if IsEnclosed (trim declared) then trim declared else "\"" ++ trim declared ++ "\"" := by
  simp only [includeOperand, isEnclosed_iff, trim, String.toList_ofList]
  split
  · rfl
  · rw [← String.toList_inj]
    simp

/-- Operands are in one of the two forms. -/
theorem isEnclosed_includeOperand (declared : String) : IsEnclosed (includeOperand declared) := by
  rw [includeOperand_eq]
  split
  · assumption
  · exact .quotes (trim declared)

/-- A text in one of the two forms is its own operand. -/
theorem includeOperand_of_isEnclosed {text : String} (h : IsEnclosed text) : includeOperand text = text := by
  have htrim : trim text = text := h.isTrimmed.trim_eq
  rw [includeOperand_eq, htrim, if_pos h]

/-- Quotes are added exactly where they are needed. -/
theorem includeOperand_eq_trim_iff {declared : String} :
    includeOperand declared = trim declared ↔ IsEnclosed (trim declared) := by
  constructor
  · intro h
    rw [← h]
    exact isEnclosed_includeOperand declared
  · intro h
    rw [includeOperand_eq, if_pos h]

/-- **Operands of includes are canonical.**  Whatever is declared, its operand has no blank at an end, and is a
name between angle brackets or between double quotes, one at each end. It is what was declared without the
blanks around it exactly if that is in one of the two forms, and otherwise that with quotes put around it.
The operand of an operand is the operand itself. -/
theorem includeOperand_canonical (declared : String) :
    TrimsTo declared (trim declared) ∧
      IsTrimmed (includeOperand declared) ∧
      IsEnclosed (includeOperand declared) ∧
      (includeOperand declared = trim declared ↔ IsEnclosed (trim declared)) ∧
      (¬ IsEnclosed (trim declared) → includeOperand declared = "\"" ++ trim declared ++ "\"") ∧
      includeOperand (includeOperand declared) = includeOperand declared := by
  have henclosed := isEnclosed_includeOperand declared
  refine ⟨Text.trimsTo_trim declared, henclosed.isTrimmed, henclosed, includeOperand_eq_trim_iff, ?_,
    includeOperand_of_isEnclosed henclosed⟩
  intro hopen
  rw [includeOperand_eq, if_neg hopen]

/-- A quote alone is not enclosed, and gets two more. -/
theorem includeOperand_loneQuote :
    ¬ IsEnclosed (trim "\u3000\"\u00a0") ∧ includeOperand "\u3000\"\u00a0" = "\"\"\"" ∧
      includeOperand "\"\"\"" = "\"\"\"" := by
  have htrim : trim "\u3000\"\u00a0" = "\"" := by decide
  have hopen : ¬ IsEnclosed (trim "\u3000\"\u00a0") := by decide
  obtain ⟨-, -, -, -, hquoted, htwice⟩ := includeOperand_canonical "\u3000\"\u00a0"
  have hoperand : includeOperand "\u3000\"\u00a0" = "\"\"\"" := by
    rw [hquoted hopen, htrim]
    rfl
  rw [hoperand] at htwice
  exact ⟨hopen, hoperand, htwice⟩

end Faceting
