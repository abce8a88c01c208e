import Faceting.Proofs.Basic
import Faceting.Template.Function

/-!
# Rows and directives

A text is a sequence of rows (`Text.rowsOf`). A row whose first character behind its indent is a hash is a
directive. Texts without directives are quiet (`Text.Quiet`): so are their concatenations
(`Text.Quiet.append`) and their forms in small letters (`Text.Quiet.lower`). Hence a text made of quiet parts
has no directive, wherever its rows begin and end.

The proofs go through the text character by character, and remember whether anything but indent has been
seen in the row (`Text.quietFrom`). A row that has begun can be continued by more texts than one that has
not (`Text.quietFrom_of_true`), and that is what makes quiet texts fit behind each other. Whether the row behind
a text has begun is told by `Text.startsRow`, so that it is known of a text with all that follows it where its
directives are (`Text.quietFrom_append_eq`).
-/

namespace Faceting.Text

/-! ### Rows -/

/-- The rows of a text: what stands before, between and behind its line feeds. -/
def rowsOf (text : String) : List String :=
  (splitOn '\n' text.toList).map String.ofList

theorem rowsOf_append_newLine (first rest : String) :
    rowsOf (first ++ "\n" ++ rest) = rowsOf first ++ rowsOf rest := by
  have hchars : (first ++ "\n" ++ rest).toList = first.toList ++ '\n' :: rest.toList := by simp
  rw [rowsOf, hchars, splitOn_append_sep, List.map_append]
  rfl

theorem rowsOf_of_notMem {text : String} (h : '\n' ∉ text.toList) : rowsOf text = [text] := by
  rw [rowsOf, splitOn_of_notMem h]
  simp

theorem joinWith_cons (sep first : String) (rest : List String) :
    joinWith sep (first :: rest) = first ++ (rest.map (sep ++ ·)).foldr (· ++ ·) "" := by
  induction rest generalizing first with
  | nil => simp [joinWith]
  | cons next more ih =>
    rw [joinWith, ih next]
    simp [String.append_assoc]

theorem joinWith_eq_intercalate (sep : String) (texts : List String) :
    joinWith sep texts = sep.intercalate texts := by
  induction texts with
  | nil => rfl
  | cons text rest ih =>
    cases rest with
    | nil => exact String.intercalate_singleton.symm
    | cons next more => rw [joinWith, ih, String.intercalate_cons_cons]

/-- Pieces can go on behind a separator. -/
theorem joinWith_append (sep : String) {xs : List String} (hxs : xs ≠ []) (ys : List String) :
    joinWith sep xs ++ joinWith sep ("" :: ys) = joinWith sep (xs ++ ys) := by
  induction xs with
  | nil => exact absurd rfl hxs
  | cons x rest ih =>
    cases rest with
    | nil => cases ys <;> simp [joinWith, String.append_assoc]
    | cons next more =>
      have hrest := ih (List.cons_ne_nil _ _)
      rw [joinWith, String.append_assoc, hrest]
      rfl

/-- The rows of texts that stand below each other. -/
theorem rowsOf_joinWith {texts : List String} (h : texts ≠ []) :
    rowsOf (joinWith "\n" texts) = texts.flatMap rowsOf := by
  induction texts with
  | nil => exact absurd rfl h
  | cons text rest ih =>
    cases rest with
    | nil => simp [joinWith]
    | cons next more =>
      rw [joinWith, rowsOf_append_newLine, ih (List.cons_ne_nil _ _)]
      rfl

/-- Texts that are one row each. -/
theorem flatMap_rowsOf {rows : List String} (h : ∀ row ∈ rows, '\n' ∉ row.toList) :
    rows.flatMap rowsOf = rows := by
  induction rows with
  | nil => rfl
  | cons row rest ih =>
    rw [List.forall_mem_cons] at h
    rw [List.flatMap_cons, rowsOf_of_notMem h.1, ih h.2]
    rfl

/-! ### Directives -/

/-- Whether a character only moves what follows to the right. -/
def isIndent (c : Char) : Bool :=
  c == ' ' || c == '\t'

/-- Whether a row is a directive. -/
def isDirective (row : String) : Bool :=
  (row.toList.dropWhile isIndent).head? == some '#'

/-- Whether there is no directive in a text. The text stands behind nothing but indent in its row if
`atStart`, and behind something else otherwise. -/
def quietFrom : Bool → List Char → Bool
  | _, [] => true
  | atStart, c :: rest => !(atStart && c == '#') && quietFrom (c == '\n' || atStart && isIndent c) rest

/-- None of the rows of a text is a directive. -/
def Quiet (text : String) : Prop :=
  quietFrom true text.toList = true

instance (text : String) : Decidable (Quiet text) :=
  inferInstanceAs (Decidable (_ = true))

/-- The check looks at the rows of a text one after the other. -/
theorem quietFrom_iff (cs : List Char) :
    (quietFrom true cs = true ↔ ∀ row ∈ splitOn '\n' cs, isDirective (String.ofList row) = false) ∧
      (quietFrom false cs = true ↔
        ∀ row ∈ (splitOn '\n' cs).tail, isDirective (String.ofList row) = false) := by
  induction cs with
  | nil => simp [quietFrom, splitOn, isDirective]
  | cons c rest ih =>
    obtain ⟨hstart, hwithin⟩ := ih
    obtain ⟨row, rows, hrows⟩ := List.exists_cons_of_ne_nil (splitOn_ne_nil '\n' rest)
    rw [hrows] at hstart hwithin
    by_cases hnewLine : c = '\n'
    · subst hnewLine
      simp [quietFrom, splitOn, hrows, hstart, isDirective]
    · have hwithinRow : (c == '\n') = false := by simpa using hnewLine
      cases hindent : isIndent c with
      | true =>
        have hhash : (c == '#') = false := by
          simp only [isIndent, Bool.or_eq_true, beq_iff_eq] at hindent
          rcases hindent with rfl | rfl <;> rfl
        simp [quietFrom, splitOn, hrows, hstart, hwithin, hnewLine, hwithinRow, hindent, hhash, isDirective]
      | false => simp [quietFrom, splitOn, hrows, hwithin, hnewLine, hwithinRow, hindent, isDirective]

/-- A row that has begun can be continued by more texts. -/
theorem quietFrom_of_true {cs : List Char} (h : quietFrom true cs = true) (atStart : Bool) :
    quietFrom atStart cs = true := by
  cases atStart with
  | true => exact h
  | false =>
    rw [(quietFrom_iff cs).2]
    intro row hrow
    exact (quietFrom_iff cs).1.1 h row (List.mem_of_mem_tail hrow)

/-- Whether what follows a text stands behind nothing but indent in its row, if the text does so or not. -/
def startsRow : Bool → List Char → Bool
  | atStart, [] => atStart
  | atStart, c :: rest => startsRow (c == '\n' || atStart && isIndent c) rest

theorem quietFrom_append_eq (atStart : Bool) (xs ys : List Char) :
    quietFrom atStart (xs ++ ys) = (quietFrom atStart xs && quietFrom (startsRow atStart xs) ys) := by
  induction xs generalizing atStart with
  | nil => rfl
  | cons c rest ih => rw [List.cons_append, quietFrom, quietFrom, startsRow, ih, Bool.and_assoc]

theorem quiet_empty : Quiet "" := rfl

theorem Quiet.append {first rest : String} (hfirst : Quiet first) (hrest : Quiet rest) :
    Quiet (first ++ rest) := by
  rw [Quiet, String.toList_append, quietFrom_append_eq, Bool.and_eq_true]
  exact ⟨hfirst, quietFrom_of_true hrest _⟩

theorem Quiet.joinWith {sep : String} {texts : List String} (hsep : Quiet sep)
    (h : ∀ text ∈ texts, Quiet text) : Quiet (joinWith sep texts) := by
  induction texts with
  | nil => exact quiet_empty
  | cons text rest ih =>
    have hfirst := h text List.mem_cons_self
    cases rest with
    | nil => exact hfirst
    | cons next more =>
      exact (hfirst.append hsep).append (ih fun t ht => h t (List.mem_cons_of_mem text ht))

/-- What stands behind something else in its row, and goes on in no other, is no directive. -/
theorem quietFrom_of_notMem {cs : List Char} (h : '\n' ∉ cs) :
    quietFrom false cs = true ∧ startsRow false cs = false := by
  induction cs with
  | nil => exact ⟨rfl, rfl⟩
  | cons c rest ih =>
    rw [List.mem_cons, not_or] at h
    have hc : (c == '\n') = false := by simpa using Ne.symm h.1
    rw [quietFrom, startsRow, hc, Bool.false_and, Bool.false_and, Bool.or_false, (ih h.2).1, (ih h.2).2]
    exact ⟨rfl, rfl⟩

/-- Whether a character stands in the middle of rows only, and is no hash. -/
def isPlain (c : Char) : Bool :=
  c != '\n' && !isIndent c && c != '#'

theorem quietFrom_plain {atStart : Bool} {c : Char} {rest : List Char} (hc : isPlain c = true) :
    quietFrom atStart (c :: rest) = quietFrom false rest := by
  simp only [isPlain, Bool.and_eq_true, bne, Bool.not_eq_true'] at hc
  obtain ⟨⟨hnewLine, hindent⟩, hhash⟩ := hc
  simp [quietFrom, hnewLine, hindent, hhash]

theorem quietFrom_plains {atStart : Bool} {cs rest : List Char} (hne : cs ≠ [])
    (h : ∀ c ∈ cs, isPlain c = true) : quietFrom atStart (cs ++ rest) = quietFrom false rest := by
  induction cs generalizing atStart with
  | nil => exact absurd rfl hne
  | cons c more ih =>
    rw [List.cons_append, quietFrom_plain (h c List.mem_cons_self)]
    cases more with
    | nil => rfl
    | cons next later => exact ih (List.cons_ne_nil _ _) fun x hx => h x (List.mem_cons_of_mem c hx)

/-- Letters are plain. -/
theorem isPlain_ofNat {n : Nat} (h : 0x41 ≤ n) : isPlain (Char.ofNat n) = true := by
  have hne : ∀ c : Char, c.toNat < 0x41 → c.toNat ≠ 0 → Char.ofNat n ≠ c := by
    intro c hc hzero heq
    by_cases hvalid : n.isValidChar
    · have hnat : (Char.ofNat n).toNat = n := by
        rw [Char.ofNat, dif_pos hvalid]
        rfl
      rw [heq] at hnat
      omega
    · have hnull : Char.ofNat n = '\x00' := by
        rw [Char.ofNat, dif_neg hvalid]
        rfl
      rw [← heq, hnull] at hzero
      exact hzero rfl
  simp [isPlain, isIndent, hne '\n' (by decide) (by decide), hne ' ' (by decide) (by decide),
    hne '\t' (by decide) (by decide), hne '#' (by decide) (by decide)]

theorem isPlain_toLower {c : Char} (hascii : c.toNat < 0x80) (hc : isPlain c = true) :
    isPlain c.toLower = true := by
  have hall : ∀ n < 0x80, isPlain (Char.ofNat n) = true → isPlain (Char.ofNat n).toLower = true := by
    decide +kernel
  have hplain := hall c.toNat hascii
  rw [Char.ofNat_toNat] at hplain
  exact hplain hc

/-- The small forms of a plain character are plain. -/
theorem isPlain_lowerChar {c : Char} (hc : isPlain c = true) :
    lowerChar c ≠ [] ∧ ∀ x ∈ lowerChar c, isPlain x = true := by
  have hspecials : ∀ entry ∈ lowerSpecials, entry.2 ≠ [] ∧ ∀ n ∈ entry.2, 0x41 ≤ n := by decide
  have hruns : ∀ r ∈ lowerRuns, (0x41 : Int) ≤ r.first + r.offset := by decide +kernel
  unfold lowerChar
  split
  · rename_i hascii
    refine ⟨List.cons_ne_nil _ _, ?_⟩
    intro x hx
    rw [List.mem_singleton.1 hx]
    exact isPlain_toLower hascii hc
  · unfold mapCase
    split
    · rename_i image himage
      obtain ⟨before, after, hsplit, -⟩ := List.lookup_eq_some_iff.1 himage
      obtain ⟨hne, hletters⟩ := hspecials (c.toNat, image) (by simp [hsplit])
      refine ⟨by simpa using hne, ?_⟩
      intro x hx
      obtain ⟨n, hn, rfl⟩ := List.mem_map.1 hx
      exact isPlain_ofNat (hletters n hn)
    · split
      · rename_i n hn
        refine ⟨List.cons_ne_nil _ _, ?_⟩
        intro x hx
        rw [List.mem_singleton.1 hx]
        obtain ⟨r, hr, himage⟩ := List.exists_of_findSome?_eq_some hn
        have hoffset := hruns r hr
        unfold CaseRun.image? at himage
        split at himage
        · rename_i hwithin
          have hn : (c.toNat + r.offset).toNat = n := Option.some.inj himage
          exact isPlain_ofNat (by omega)
        · cases himage
      · refine ⟨List.cons_ne_nil _ _, ?_⟩
        intro x hx
        rw [List.mem_singleton.1 hx]
        exact hc

/-- A character that is not plain is its own small form, and plain characters have plain ones. -/
theorem exists_lowerFrom_cons (before : List Char) (c : Char) (rest : List Char) :
    ∃ image, lowerFrom before (c :: rest) = image ++ lowerFrom (c :: before) rest ∧
      (isPlain c = false → image = [c]) ∧
      (isPlain c = true → image ≠ [] ∧ ∀ x ∈ image, isPlain x = true) := by
  refine ⟨_, lowerFrom.eq_2 before c rest, ?_, ?_⟩
  · intro hc
    have hmem : c ∈ ['\n', ' ', '\t', '#'] := by
      simp only [isPlain, isIndent] at hc
      grind
    have hsame : ['\n', ' ', '\t', '#'].all (fun x => x ≠ 'Σ' ∧ lowerChar x = [x]) = true := by decide
    obtain ⟨hsigma, hlower⟩ := of_decide_eq_true (List.all_eq_true.1 hsame c hmem)
    rw [if_neg hsigma]
    exact hlower
  · intro hc
    split
    · have hsmall : ∀ x : Char, x = 'ς' ∨ x = 'σ' → isPlain x = true := by
        intro x hx
        rcases hx with rfl | rfl <;> rfl
      split
      · exact ⟨List.cons_ne_nil _ _, fun x hx => hsmall x (.inl (List.mem_singleton.1 hx))⟩
      · exact ⟨List.cons_ne_nil _ _, fun x hx => hsmall x (.inr (List.mem_singleton.1 hx))⟩
    · exact isPlain_lowerChar hc

theorem quietFrom_lowerFrom {atStart : Bool} {cs : List Char} (h : quietFrom atStart cs = true)
    (before : List Char) : quietFrom atStart (lowerFrom before cs) = true := by
  induction cs generalizing atStart before with
  | nil => rfl
  | cons c rest ih =>
    obtain ⟨image, himage, hkept, hplain⟩ := exists_lowerFrom_cons before c rest
    rw [himage]
    cases hc : isPlain c with
    | true =>
      obtain ⟨hne, hletters⟩ := hplain hc
      rw [quietFrom_plain hc] at h
      rw [quietFrom_plains hne hletters]
      exact ih h (c :: before)
    | false =>
      rw [quietFrom, Bool.and_eq_true] at h
      rw [hkept hc, List.singleton_append, quietFrom, Bool.and_eq_true]
      exact ⟨h.1, ih h.2 (c :: before)⟩

theorem Quiet.lower {text : String} (h : Quiet text) : Quiet (lower text) := by
  rw [Quiet, Text.lower, String.toList_ofList]
  exact quietFrom_lowerFrom h []

/-! ### Texts of bytes

To look at a fixed text byte by byte is much faster than to decode it, so that all texts of a template can be
checked. -/

end Faceting.Text
