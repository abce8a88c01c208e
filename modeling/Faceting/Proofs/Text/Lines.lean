import Faceting.Proofs.Text.Rows
import Mathlib.Data.List.Basic

/-!
# Lines

A text is cut into lines at its line feeds, and a carriage return in front of a line feed goes with it. Two
things are lost by that: how each line ended, and whether the last one ended at all. So the lines of a
text below each other are the text in which all lines end in the same way (`unifyEnds`), without the end of
the last one (`withoutLastEnd`); nothing else is lost (`joinWith_lines`).

No line holds a line feed (`notMem_of_mem_lines`). Hence lines that go on in a comment
(`Template.docContinue`) are the rows of what is written, each behind the start of its row
(`rowsOf_docContinue`), and can be had back from it. Behind texts that begin a row they never are directives,
whatever they start with (`Begins.docContinue`).
-/

namespace Faceting

namespace Text

/-! ### Ends of lines -/

/-- Writes a line feed for each carriage return and line feed that stand together. -/
def unifyEnds : List Char → List Char
  | [] => []
  | '\r' :: '\n' :: rest => '\n' :: unifyEnds rest
  | c :: rest => c :: unifyEnds rest

/-- Leaves a line feed at the end out. -/
def dropLastEnd (cs : List Char) : List Char :=
  if cs.getLast? = some '\n' then cs.dropLast else cs

/-- The text in which a line feed stands for each carriage return with a line feed. -/
def withPlainEnds (text : String) : String :=
  String.ofList (unifyEnds text.toList)

/-- The text without a line feed at its end, if there is one. -/
def withoutLastEnd (text : String) : String :=
  String.ofList (dropLastEnd text.toList)

theorem unifyEnds_cons {c : Char} {rest : List Char} (h : ∀ more, c = '\r' → rest = '\n' :: more → False) :
    unifyEnds (c :: rest) = c :: unifyEnds rest :=
  unifyEnds.eq_3 c rest h

theorem unifyEnds_eq_nil_iff {cs : List Char} : unifyEnds cs = [] ↔ cs = [] := by
  fun_cases unifyEnds cs <;> simp

/-- Where no carriage return stands before a line feed, there is nothing to unify. -/
theorem unifyEnds_of_not_infix {cs : List Char} (h : ¬ ['\r', '\n'] <:+: cs) : unifyEnds cs = cs := by
  induction cs with
  | nil => rfl
  | cons c rest ih =>
    have hpair : ∀ more, c = '\r' → rest = '\n' :: more → False := by
      rintro more rfl rfl
      exact h ⟨[], more, rfl⟩
    have hrest : ¬ ['\r', '\n'] <:+: rest := fun hrest => h (hrest.trans (List.suffix_cons c rest).isInfix)
    rw [unifyEnds_cons hpair, ih hrest]

/-- The end of a text is that of what follows its first character. -/
theorem dropLastEnd_cons (c : Char) {cs : List Char} (h : cs ≠ []) :
    dropLastEnd (c :: cs) = c :: dropLastEnd cs := by
  obtain ⟨next, more, rfl⟩ := List.exists_cons_of_ne_nil h
  unfold dropLastEnd
  rw [List.getLast?_cons_cons, List.dropLast_cons_of_ne_nil h]
  split <;> rfl

theorem dropLastEnd_of_getLast? {cs : List Char} (h : cs.getLast? ≠ some '\n') : dropLastEnd cs = cs :=
  if_neg h

/-! ### Lines below each other -/

theorem splitLines_eq_nil_iff {cs : List Char} : splitLines cs = [] ↔ cs = [] := by
  fun_cases splitLines cs <;> simp [*]

theorem unifyEnds_ne_nil {cs line : List Char} {more : List (List Char)} (h : splitLines cs = line :: more) :
    unifyEnds cs ≠ [] := by
  rw [Ne, unifyEnds_eq_nil_iff, ← splitLines_eq_nil_iff, h]
  exact List.cons_ne_nil line more

theorem notMem_of_mem_splitLines {cs line : List Char} (h : line ∈ splitLines cs) : '\n' ∉ line := by
  fun_induction splitLines cs generalizing line with
  | case1 => cases h
  | case2 rest ih =>
    rcases List.mem_cons.1 h with rfl | h
    · exact List.not_mem_nil
    · exact ih h
  | case3 rest ih =>
    rcases List.mem_cons.1 h with rfl | h
    · exact List.not_mem_nil
    · exact ih h
  | case4 c rest hfeed hpair hrest ih =>
    have hc : c ≠ '\n' := fun hc => hfeed hc
    rw [List.mem_singleton.1 h]
    simpa using hc.symm
  | case5 c rest hfeed hpair first more hrest ih =>
    have hc : c ≠ '\n' := fun hc => hfeed hc
    rw [hrest] at ih
    rcases List.mem_cons.1 h with rfl | h
    · simpa [hc.symm] using ih List.mem_cons_self
    · exact ih (List.mem_cons_of_mem first h)

/-- No line of a text holds a line feed. -/
theorem notMem_of_mem_lines {text line : String} (h : line ∈ lines text) : '\n' ∉ line.toList := by
  obtain ⟨cs, hcs, rfl⟩ := List.mem_map.1 h
  rw [String.toList_ofList]
  exact notMem_of_mem_splitLines hcs

/-- An empty line stands before the lines of the rest, with a line feed between them if there are any. -/
theorem toList_joinWith_emptyLine {rest : List Char}
    (h : (joinWith "\n" ((splitLines rest).map String.ofList)).toList = dropLastEnd (unifyEnds rest)) :
    (joinWith "\n" (([] :: splitLines rest).map String.ofList)).toList
      = dropLastEnd ('\n' :: unifyEnds rest) := by
  cases hrest : splitLines rest with
  | nil =>
    rw [splitLines_eq_nil_iff.1 hrest]
    rfl
  | cons line more =>
    rw [dropLastEnd_cons '\n' (unifyEnds_ne_nil hrest), ← h, hrest]
    simp [joinWith]

theorem toList_joinWith_splitLines (cs : List Char) :
    (joinWith "\n" ((splitLines cs).map String.ofList)).toList = dropLastEnd (unifyEnds cs) := by
  fun_induction splitLines cs with
  | case1 => rfl
  | case2 rest ih => exact toList_joinWith_emptyLine ih
  | case3 rest ih => exact toList_joinWith_emptyLine ih
  | case4 c rest hfeed hpair hrest ih =>
    have hc : [c].getLast? ≠ some '\n' := fun hc => hfeed (Option.some.inj hc)
    have hone : unifyEnds [c] = [c] := unifyEnds_cons (by simp)
    rw [splitLines_eq_nil_iff.1 hrest, hone, dropLastEnd_of_getLast? hc]
    simp [joinWith]
  | case5 c rest hfeed hpair first more hrest ih =>
    rw [unifyEnds_cons hpair, dropLastEnd_cons c (unifyEnds_ne_nil hrest), ← ih, hrest]
    cases more <;> simp [joinWith]

/-- **The lines of a text below each other** are the text with plain ends of lines and without the last. -/
theorem joinWith_lines (text : String) :
    joinWith "\n" (lines text) = withoutLastEnd (withPlainEnds text) := by
  rw [← String.toList_inj, lines, toList_joinWith_splitLines, withoutLastEnd, withPlainEnds,
    String.toList_ofList, String.toList_ofList]

/-- A text whose lines end in line feeds, and whose last line does not end, is its lines below each other. -/
theorem joinWith_lines_of_plain {text : String} (hpair : ¬ ['\r', '\n'] <:+: text.toList)
    (hlast : text.toList.getLast? ≠ some '\n') : joinWith "\n" (lines text) = text := by
  rw [joinWith_lines, withPlainEnds, unifyEnds_of_not_infix hpair, String.ofList_toList, withoutLastEnd,
    dropLastEnd_of_getLast? hlast, String.ofList_toList]

/-! ### Lines in comments -/

/-- A start in front of each piece but the first can be put before the pieces or behind the separators. -/
theorem joinWith_append_start (sep start first : String) (rest : List String) :
    joinWith (sep ++ start) (first :: rest) = joinWith sep (first :: rest.map (start ++ ·)) := by
  rw [joinWith_cons, joinWith_cons, List.map_map]
  simp [Function.comp_def, String.append_assoc]

/-- What follows a start in a row; nothing if the row starts otherwise. -/
def behindStart? (start row : String) : Option String :=
  (start.toList.isPrefixOf? row.toList).map String.ofList

/-- The rows without the start of each but the first; nothing if one of these starts otherwise. -/
def takeStarts? (start : String) : List String → Option (List String)
  | [] => some []
  | first :: rest => (rest.mapM (behindStart? start)).map (first :: ·)

theorem behindStart?_append (start row : String) : behindStart? start (start ++ row) = some row := by
  have hrow : start.toList.isPrefixOf? (start ++ row).toList = some row.toList := by
    rw [List.isPrefixOf?_eq_some_iff_append_eq, String.toList_append]
  rw [behindStart?, hrow, Option.map_some, String.ofList_toList]

theorem takeStarts?_map (start first : String) (rest : List String) :
    takeStarts? start (first :: rest.map (start ++ ·)) = some (first :: rest) := by
  have hrest : (rest.map (start ++ ·)).mapM (behindStart? start) = some rest := by
    induction rest with
    | nil => rfl
    | cons row more ih =>
      rw [List.map_cons, List.mapM_cons, behindStart?_append, ih]
      rfl
  rw [takeStarts?, hrest, Option.map_some]

/-! ### Comments -/

/-- A text without directives that has more than indent in its last row. -/
def Begins (text : String) : Prop :=
  quietFrom true text.toList = true ∧ startsRow true text.toList = false

instance (text : String) : Decidable (Begins text) :=
  inferInstanceAs (Decidable (_ ∧ _))

theorem quietFrom_joinWith {start : String} (hstart : Begins start) {rows : List String}
    (h : ∀ row ∈ rows, '\n' ∉ row.toList) :
    quietFrom false (joinWith ("\n" ++ start) rows).toList = true := by
  induction rows with
  | nil => rfl
  | cons row rest ih =>
    rw [List.forall_mem_cons] at h
    obtain ⟨hrow, hbegun⟩ := quietFrom_of_notMem h.1
    cases rest with
    | nil => exact hrow
    | cons next more =>
      have hbehind :
          quietFrom true (start.toList ++ (joinWith ("\n" ++ start) (next :: more)).toList) = true := by
        rw [quietFrom_append_eq, hstart.1, hstart.2, ih h.2]
        rfl
      rw [joinWith, String.append_assoc, String.toList_append, quietFrom_append_eq, hrow, hbegun]
      simpa [quietFrom] using hbehind

/-- Behind a text that begins a row, lines that go on in a comment are no directives. -/
theorem Begins.docContinue {opening lineStart : String} (hopening : Begins opening) (hstart : Begins lineStart)
    (text : String) : Quiet (opening ++ Template.docContinue lineStart text) := by
  rw [Quiet, String.toList_append, quietFrom_append_eq, hopening.1, hopening.2, Bool.true_and]
  exact quietFrom_joinWith hstart fun line hline => notMem_of_mem_lines hline

end Text

namespace Template

open Text

/-- The rows of a text that goes on in a comment are its lines, each but the first behind the start. -/
theorem rowsOf_docContinue {lineStart text first : String} {rest : List String}
    (hstart : '\n' ∉ lineStart.toList) (h : lines text = first :: rest) :
    rowsOf (docContinue lineStart text) = first :: rest.map (lineStart ++ ·) := by
  have hrows : ∀ row ∈ first :: rest.map (lineStart ++ ·), '\n' ∉ row.toList := by
    have hlines : ∀ line ∈ first :: rest, '\n' ∉ line.toList := fun line hline =>
      notMem_of_mem_lines (h ▸ hline)
    rw [List.forall_mem_cons] at hlines ⊢
    refine ⟨hlines.1, ?_⟩
    intro row hrow
    obtain ⟨line, hline, rfl⟩ := List.mem_map.1 hrow
    rw [String.toList_append, List.mem_append, not_or]
    exact ⟨hstart, hlines.2 line hline⟩
  rw [docContinue, h, joinWith_append_start, rowsOf_joinWith (List.cons_ne_nil _ _), flatMap_rowsOf hrows]

theorem apply_docContinue {args : Arguments} {lineStart : String}
    (h : args.lookup "prefix" = some (.string lineStart)) (text : String) :
    Filter.docContinue.apply args (.string text) = .ok (.string (docContinue lineStart text)) := by
  simp [Filter.apply, argument, h, Except.bind]

/-- **A text that goes on in a comment keeps its lines.**  If the start of rows is on one row, the rows that
are written are the lines of the text in order, as many as there are, each but the first behind the start,
so that the lines can be had back; a text without lines is written as nothing. With an empty start, a text
without a carriage return before a line feed, and without a line feed at its end, is written as it is. -/
theorem docContinue_keeps_lines :
    (∀ (text lineStart : String) (args : Arguments), args.lookup "prefix" = some (.string lineStart) →
      '\n' ∉ lineStart.toList →
      ∃ out, Filter.docContinue.apply args (.string text) = .ok (.string out) ∧
        (lines text = [] → out = "") ∧
        (∀ first rest, lines text = first :: rest →
          rowsOf out = first :: rest.map (lineStart ++ ·)) ∧
        (lines text ≠ [] → (rowsOf out).length = (lines text).length ∧
          takeStarts? lineStart (rowsOf out) = some (lines text))) ∧
    ∀ (text : String) (args : Arguments), args.lookup "prefix" = some (.string "") →
      ¬ ['\r', '\n'] <:+: text.toList → text.toList.getLast? ≠ some '\n' →
      Filter.docContinue.apply args (.string text) = .ok (.string text) := by
  constructor
  · intro text lineStart args hargs hstart
    refine ⟨docContinue lineStart text, apply_docContinue hargs text, ?_, ?_, ?_⟩
    · intro hnone
      rw [docContinue, hnone, joinWith]
    · intro first rest hlines
      exact rowsOf_docContinue hstart hlines
    · intro hsome
      obtain ⟨first, rest, hlines⟩ := List.exists_cons_of_ne_nil hsome
      rw [rowsOf_docContinue hstart hlines, hlines]
      exact ⟨by simp, takeStarts?_map lineStart first rest⟩
  · intro text args hargs hpair hlast
    have hplain : docContinue "" text = text := by
      rw [docContinue, String.append_empty, joinWith_lines_of_plain hpair hlast]
    rw [apply_docContinue hargs, hplain]

theorem docContinue_ragged :
    (∃ out, Filter.docContinue.apply [("prefix", .string " * ")] (.string "a\r\n\nb\rc\r\r\n")
        = .ok (.string out) ∧ rowsOf out = ["a", " * ", " * b\rc\r"] ∧
        takeStarts? " * " (rowsOf out) = some ["a", "", "b\rc\r"]) ∧
      Filter.docContinue.apply [("prefix", .string "")] (.string "\ra\n\nb\r")
        = .ok (.string "\ra\n\nb\r") := by
  have hlines : lines "a\r\n\nb\rc\r\r\n" = ["a", "", "b\rc\r"] := by decide +kernel
  obtain ⟨out, happly, -, hrows, hback⟩ := docContinue_keeps_lines.1 "a\r\n\nb\rc\r\r\n" " * "
    [("prefix", .string " * ")] rfl (by decide)
  have hback := (hback (by rw [hlines]; exact List.cons_ne_nil _ _)).2
  rw [hlines] at hback
  refine ⟨⟨out, happly, hrows _ _ hlines, hback⟩, ?_⟩
  exact docContinue_keeps_lines.2 "\ra\n\nb\r" [("prefix", .string "")] rfl (by decide) (by decide)

end Template

end Faceting
