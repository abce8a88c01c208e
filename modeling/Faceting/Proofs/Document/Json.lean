import Faceting.Document.Json.Printer
import Faceting.Document.Json.Reader
import Faceting.Proofs.Basic

/-!
# Printed JSON is read back

Reading the indented form of a document gives the document (`Json.read?_pretty`), for documents whose
numbers are natural numbers of sixty-four bits and which do not nest too deep (`Json.ReadsBack`). Strings
are not restricted.

Each reader takes its part off the front of a text, so each law says what is read off a printed part and
whatever follows it. What follows matters only behind a number, which would go on with a digit, a point or
an exponent (`Json.Ends`). The fuel of the readers is counted in characters: every nested value has a
character of its own.
-/

namespace Faceting.Json

/-! ### Strings -/

theorem hexValue?_hexDigit : ∀ n < 16, hexValue? (hexDigit n) = some n := by
  decide

/-- A control character is read back from its two hexadecimal digits. -/
theorem readString_control {c : Char} (hc : c.toNat < 0x20) (seen rest : List Char) :
    readString seen ('\\' :: 'u' :: '0' :: '0' :: hexDigit (c.toNat / 16) ::
      hexDigit (c.toNat % 16) :: rest) = readString (c :: seen) rest := by
  have hhigh := hexValue?_hexDigit (c.toNat / 16) (by omega)
  have hlow := hexValue?_hexDigit (c.toNat % 16) (by omega)
  have hzero : hexValue? '0' = some 0 := by decide
  have hnumber : hexNumber? ['0', '0', hexDigit (c.toNat / 16), hexDigit (c.toNat % 16)]
      = some c.toNat := by
    simp only [hexNumber?, List.foldl_cons, List.foldl_nil, Option.bind_some, hzero, hhigh, hlow,
      Option.map_some, Option.some.injEq]
    omega
  have htrailing : isTrailing c.toNat = false := by
    simp only [isTrailing, Bool.and_eq_false_iff, decide_eq_false_iff_not]
    omega
  have hleading : isLeading c.toNat = false := by
    simp only [isLeading, Bool.and_eq_false_iff, decide_eq_false_iff_not]
    omega
  rw [readString, hnumber]
  show (if isTrailing c.toNat then none else if isLeading c.toNat then _
    else readString (Char.ofNat c.toNat :: seen) rest) = _
  rw [htrailing, hleading, Char.ofNat_toNat]
  rfl

/-- Reading takes back what was written for one character. -/
theorem readString_encodeChar (seen : List Char) (c : Char) (rest : List Char) :
    readString seen (encodeChar c ++ rest) = readString (c :: seen) rest := by
  unfold encodeChar
  split
  case h_8 =>
    rename_i hquote hslash _ _ _ _ _
    split
    · rename_i hcontrol
      exact readString_control hcontrol seen rest
    · -- the character stands for itself: it is neither a quote nor the start of an escape
      rename_i hplain
      rw [List.singleton_append, readString.eq_4]
      · rw [if_neg hplain]
      · exact hquote
      · intro _ _ _ _ _ hc
        exact absurd hc hslash
      · intro _ _ hc
        exact absurd hc hslash
  all_goals rfl

theorem readString_flatMap (seen cs rest : List Char) :
    readString seen (cs.flatMap encodeChar ++ '"' :: rest)
      = some (String.ofList (seen.reverse ++ cs), rest) := by
  induction cs generalizing seen with
  | nil => rw [List.flatMap_nil, List.nil_append, readString, List.append_nil]
  | cons c cs ih =>
    rw [List.flatMap_cons, List.append_assoc, readString_encodeChar, ih, List.reverse_cons,
      List.append_assoc, List.singleton_append]

/-- A string is read behind its opening quote. -/
theorem readString_encodeString (text : String) (rest : List Char) :
    ∃ cs, encodeString text ++ rest = '"' :: cs ∧ readString [] cs = some (text, rest) := by
  refine ⟨text.toList.flatMap encodeChar ++ '"' :: rest, by simp [encodeString], ?_⟩
  rw [readString_flatMap, List.reverse_nil, List.nil_append, String.ofList_toList]

/-! ### Numbers -/

/-- Whether a number ends before a text: it does not go on with a digit, a point or an exponent. -/
def Ends (rest : List Char) : Prop :=
  ∀ c, rest.head? = some c → c.isDigit = false ∧ c ≠ '.' ∧ c ≠ 'e' ∧ c ≠ 'E'

theorem Ends.hasTail {rest : List Char} (h : Ends rest) : hasTail rest = false := by
  cases rest with
  | nil => rfl
  | cons c more =>
    obtain ⟨-, hpoint, hlower, hupper⟩ := h c rfl
    simp [Json.hasTail, hpoint, hlower, hupper]

theorem le_ofDigitChars (digits : List Char) (n : Nat) : n ≤ Nat.ofDigitChars 10 digits n := by
  induction digits generalizing n with
  | nil => exact Nat.le_refl n
  | cons c rest ih =>
    rw [Nat.ofDigitChars_cons]
    have hrest := ih (10 * n + (c.toNat - '0'.toNat))
    omega

/-- Digits are absorbed while their number has room. -/
theorem absorb_eq {significand : Nat} {digits : List Char}
    (h : Nat.ofDigitChars 10 digits significand < Number.twoPow 64) :
    absorb significand digits = (Nat.ofDigitChars 10 digits significand, 0) := by
  induction digits generalizing significand with
  | nil => rfl
  | cons c rest ih =>
    rw [Nat.ofDigitChars_cons, Nat.mul_comm] at h ⊢
    have hnext : significand * 10 + digitValue c < Number.twoPow 64 :=
      Nat.lt_of_le_of_lt (le_ofDigitChars rest _) h
    rw [absorb, if_pos hnext]
    exact ih h

/-- A number that is not zero is written without a zero in front. -/
theorem head?_toDigits_ne_zero {n : Nat} (h : n ≠ 0) : (Nat.toDigits 10 n).head? ≠ some '0' := by
  induction n using Nat.base_induction 10 (by decide) with
  | single m hm =>
    rw [Nat.toDigits_of_lt_base hm]
    have hdigit : ∀ m < 10, m ≠ 0 → Nat.digitChar m ≠ '0' := by decide
    simpa using hdigit m hm h
  | digit m k hk hm ih =>
    rw [← Nat.toDigits_append_toDigits (by decide) hm hk, List.head?_append,
      Option.or_of_isSome (by simp [Nat.toDigits_ne_nil])]
    exact ih (by omega)

theorem takeDigits_toDigits (n : Nat) {rest : List Char} (h : Ends rest) :
    takeDigits (Nat.toDigits 10 n ++ rest) = (Nat.toDigits 10 n, rest) := by
  have hdigits : ∀ c ∈ Nat.toDigits 10 n, c.isDigit = true := fun c hc =>
    Nat.isDigit_of_mem_toDigits (by decide) (by decide) hc
  obtain ⟨htake, hdrop⟩ := Text.takeWhile_dropWhile_append hdigits fun c hc => (h c hc).1
  rw [takeDigits, htake, hdrop]

theorem exists_toDigits (n : Nat) : ∃ c cs, Nat.toDigits 10 n = c :: cs ∧ c.isDigit = true := by
  obtain ⟨c, cs, hcs⟩ := List.exists_cons_of_ne_nil (Nat.toDigits_ne_nil (n := n) (b := 10))
  exact ⟨c, cs, hcs, Nat.isDigit_of_mem_toDigits (b := 10) (n := n) (by decide) (by decide) (by simp [hcs])⟩

/-- A natural number of sixty-four bits is read back. -/
theorem readNumber_toDigits {n : Nat} (hn : n < Number.twoPow 64) {rest : List Char} (h : Ends rest) :
    readNumber (Nat.toDigits 10 n ++ rest) = some (.int n, rest) := by
  have hvalue : absorb 0 (Nat.toDigits 10 n) = (n, 0) := by
    rw [absorb_eq (by rw [Nat.ofDigitChars_ten_toDigits]; exact hn), Nat.ofDigitChars_ten_toDigits]
  obtain ⟨c, cs, hcs, hdigit⟩ := exists_toDigits n
  have hminus : c ≠ '-' := by
    rintro rfl
    exact absurd hdigit (by decide)
  have htake := takeDigits_toDigits n h
  rw [hcs, List.cons_append] at htake ⊢
  unfold readNumber
  split
  rename_i negative cs' hsign
  split at hsign
  · rename_i heq
    cases heq
    exact absurd rfl hminus
  · cases hsign
    simp only [htake]
    rw [← hcs]
    split
    · rename_i hnil
      exact absurd hnil Nat.toDigits_ne_nil
    · -- only zero starts with a zero, and it has one digit
      rename_i first more hzero
      by_cases hn0 : n = 0
      · rw [hn0, Nat.toDigits_zero] at hzero
        cases hzero
      · exact absurd (by rw [hzero]; rfl) (head?_toDigits_ne_zero hn0)
    · simp only [hvalue, h.hasTail]
      rfl

/-! ### Values -/

/-- The documents that printing and reading give back, with a number of lists and mappings inside one
another: their numbers are natural numbers of sixty-four bits. -/
inductive ReadsBack : Nat → Document → Prop
  | null {depth : Nat} : ReadsBack depth .null
  | bool {depth : Nat} (value : Bool) : ReadsBack depth (.bool value)
  | nat {depth n : Nat} : n < Number.twoPow 64 → ReadsBack depth (.int n)
  | string {depth : Nat} (text : String) : ReadsBack depth (.string text)
  | list {depth : Nat} {items : List Document} :
      (∀ item ∈ items, ReadsBack depth item) → ReadsBack (depth + 1) (.list items)
  | mapping {depth : Nat} {members : List (String × Document)} :
      (∀ member ∈ members, ReadsBack depth member.2) → ReadsBack (depth + 1) (.mapping members)

/-- A value is read off the front of every text that starts with it. -/
def IsRead (depth : Nat) (d : Document) : Prop :=
  ∀ (level fuel : Nat) (rest : List Char), 2 * (prettyChars level d).length ≤ fuel → Ends rest →
    readValue fuel depth (prettyChars level d ++ rest) = some (d, rest)

theorem skipSpace_newLine (level : Nat) (rest : List Char) :
    skipSpace (newLine level ++ rest) = skipSpace rest := by
  have hspace : ∀ n, skipSpace (List.replicate n ' ' ++ rest) = skipSpace rest := by
    intro n
    induction n with
    | zero => rfl
    | succ n ih => exact ih
  exact hspace (2 * level)

/-- A value is read alike where the texts differ in white space before it. -/
theorem readValue_of_skipSpace {cs cs' : List Char} (h : skipSpace cs = skipSpace cs') (fuel depth : Nat) :
    readValue fuel depth cs = readValue fuel depth cs' := by
  cases fuel with
  | zero => rfl
  | succ fuel => rw [readValue, readValue, h]

theorem readItems_newLine (fuel depth level : Nat) (rest : List Char) :
    readItems fuel depth (newLine level ++ rest) = readItems fuel depth rest := by
  cases fuel with
  | zero => rfl
  | succ fuel => rw [readItems, readItems, readValue_of_skipSpace (skipSpace_newLine level rest)]

theorem readMembers_newLine (fuel depth level : Nat) (rest : List Char) :
    readMembers fuel depth (newLine level ++ rest) = readMembers fuel depth rest := by
  cases fuel with
  | zero => rfl
  | succ fuel => rw [readMembers, readMembers, skipSpace_newLine level rest]

theorem ends_newLine (level : Nat) (rest : List Char) : Ends (newLine level ++ rest) := by
  intro c hc
  cases hc
  decide

theorem ends_comma (rest : List Char) : Ends (',' :: rest) := by
  intro c hc
  cases hc
  decide

/-- The items of a list are read up to its closing bracket. -/
theorem readItems_pretty (level outer fuel : Nat) {depth : Nat} {item : Document} {items : List Document}
    (hitem : IsRead depth item) (hitems : ∀ other ∈ items, IsRead depth other)
    (hfuel : 2 * (prettyChars level item ++ prettyItems level items).length < fuel) (rest : List Char) :
    readItems fuel depth
        (prettyChars level item ++ (prettyItems level items ++ (newLine outer ++ ']' :: rest)))
      = some (item :: items, rest) := by
  induction items generalizing fuel item with
  | nil =>
    obtain ⟨fuel, rfl⟩ : ∃ f, fuel = f + 1 := ⟨fuel - 1, by omega⟩
    have hread := hitem level fuel (newLine outer ++ ']' :: rest) (by simp at hfuel; omega)
      (ends_newLine outer _)
    rw [prettyItems, List.nil_append, readItems, hread]
    simp only [skipSpace_newLine]
    rfl
  | cons next items ih =>
    obtain ⟨fuel, rfl⟩ : ∃ f, fuel = f + 1 := ⟨fuel - 1, by omega⟩
    simp only [prettyItems, List.cons_append, List.append_assoc, List.length_append,
      List.length_cons] at hfuel ⊢
    have hread := hitem level fuel
      (',' :: (newLine level ++ (prettyChars level next ++
        (prettyItems level items ++ (newLine outer ++ ']' :: rest))))) (by omega) (ends_comma _)
    have hrest := ih fuel (hitems next List.mem_cons_self)
      (fun other hother => hitems other (List.mem_cons_of_mem next hother))
      (by simp only [List.length_append]; omega)
    rw [readItems, hread]
    show (readItems fuel depth (newLine level ++ _)).map _ = _
    rw [readItems_newLine, hrest]
    rfl

theorem readValue_space (fuel depth : Nat) (text : List Char) :
    readValue fuel depth (' ' :: text) = readValue fuel depth text := by
  have hskip : skipSpace (' ' :: text) = skipSpace text := rfl
  exact readValue_of_skipSpace hskip fuel depth

/-- The last member is read with the closing brace. -/
theorem readMembers_last {fuel depth : Nat} (key : String) {value : Document} {text rest after : List Char}
    (hread : readValue fuel depth text = some (value, rest)) (hclose : skipSpace rest = '\x7d' :: after) :
    readMembers (fuel + 1) depth (encodeString key ++ ':' :: ' ' :: text) = some ([(key, value)], after) := by
  obtain ⟨cs, hcs, hkey⟩ := readString_encodeString key (':' :: ' ' :: text)
  have hquote : skipSpace ('"' :: cs) = '"' :: cs := rfl
  have hcolon : skipSpace (':' :: ' ' :: text) = ':' :: ' ' :: text := rfl
  rw [hcs, readMembers]
  simp only [hquote, hkey, hcolon, readValue_space, hread, hclose]

/-- A member with a comma behind it is read, and then the others. -/
theorem readMembers_next {fuel depth : Nat} (key : String) {value : Document} {text rest after : List Char}
    (hread : readValue fuel depth text = some (value, rest)) (hcomma : skipSpace rest = ',' :: after) :
    readMembers (fuel + 1) depth (encodeString key ++ ':' :: ' ' :: text)
      = (readMembers fuel depth after).map fun others => ((key, value) :: others.1, others.2) := by
  obtain ⟨cs, hcs, hkey⟩ := readString_encodeString key (':' :: ' ' :: text)
  have hquote : skipSpace ('"' :: cs) = '"' :: cs := rfl
  have hcolon : skipSpace (':' :: ' ' :: text) = ':' :: ' ' :: text := rfl
  rw [hcs, readMembers]
  simp only [hquote, hkey, hcolon, readValue_space, hread, hcomma]

/-- The members of a mapping are read up to its closing brace. -/
theorem readMembers_pretty (level outer fuel : Nat) (key : String) {depth : Nat} {value : Document}
    {members : List (String × Document)} (hvalue : IsRead depth value)
    (hmembers : ∀ member ∈ members, IsRead depth member.2)
    (hfuel : 2 * (prettyChars level value ++ prettyMembers level members).length < fuel)
    (rest : List Char) :
    readMembers fuel depth
        (encodeString key ++ ':' :: ' ' :: (prettyChars level value ++
          (prettyMembers level members ++ (newLine outer ++ '\x7d' :: rest))))
      = some ((key, value) :: members, rest) := by
  induction members generalizing fuel key value with
  | nil =>
    obtain ⟨fuel, rfl⟩ : ∃ f, fuel = f + 1 := ⟨fuel - 1, by omega⟩
    have hread := hvalue level fuel (newLine outer ++ '\x7d' :: rest) (by simp at hfuel; omega)
      (ends_newLine outer _)
    rw [prettyMembers, List.nil_append]
    exact readMembers_last key hread (skipSpace_newLine outer _)
  | cons next members ih =>
    obtain ⟨nextKey, next⟩ := next
    obtain ⟨fuel, rfl⟩ : ∃ f, fuel = f + 1 := ⟨fuel - 1, by omega⟩
    simp only [prettyMembers, List.cons_append, List.append_assoc, List.length_append,
      List.length_cons] at hfuel ⊢
    have hread := hvalue level fuel
      (',' :: (newLine level ++ (encodeString nextKey ++ ':' :: ' ' :: (prettyChars level next ++
        (prettyMembers level members ++ (newLine outer ++ '\x7d' :: rest)))))) (by omega) (ends_comma _)
    have hrest := ih fuel nextKey (hmembers (nextKey, next) List.mem_cons_self)
      (fun member hmember => hmembers member (List.mem_cons_of_mem _ hmember))
      (by simp only [List.length_append]; omega)
    rw [readMembers_next key hread rfl, readMembers_newLine, hrest]
    rfl

theorem isSpace_of_isDigit {c : Char} (h : c.isDigit = true) : isSpace c = false := by
  cases hspace : isSpace c with
  | false => rfl
  | true =>
    have hcases : ((c = ' ' ∨ c = '\n') ∨ c = '\t') ∨ c = '\r' := by simpa [isSpace] using hspace
    rcases hcases with ((rfl | rfl) | rfl) | rfl <;> exact absurd h (by decide)

/-- A printed document starts with a character that is neither white space nor a closing bracket. -/
theorem exists_prettyChars {depth : Nat} {d : Document} (h : ReadsBack depth d) (level : Nat) :
    ∃ c cs, prettyChars level d = c :: cs ∧ isSpace c = false ∧ c ≠ ']' := by
  cases h with
  | null => exact ⟨_, _, rfl, by decide, by decide⟩
  | bool value => cases value <;> exact ⟨_, _, rfl, by decide, by decide⟩
  | @nat _ n _ =>
    obtain ⟨c, cs, hcs, hdigit⟩ := exists_toDigits n
    refine ⟨c, cs, hcs, isSpace_of_isDigit hdigit, ?_⟩
    rintro rfl
    exact absurd hdigit (by decide)
  | string text => exact ⟨_, _, rfl, by decide, by decide⟩
  | @list _ items _ => cases items <;> exact ⟨_, _, rfl, by decide, by decide⟩
  | @mapping _ members _ =>
    cases members with
    | nil => exact ⟨_, _, rfl, by decide, by decide⟩
    | cons member rest => exact ⟨_, _, rfl, by decide, by decide⟩

theorem exists_fuel {depth : Nat} {d : Document} (h : ReadsBack depth d) {level fuel : Nat}
    (hfuel : 2 * (prettyChars level d).length ≤ fuel) : ∃ less, fuel = less + 1 := by
  obtain ⟨c, cs, hcs, -⟩ := exists_prettyChars h level
  rw [hcs, List.length_cons] at hfuel
  exact ⟨fuel - 1, by omega⟩

/-- A list is read behind its opening bracket. -/
theorem readValue_bracket {fuel depth : Nat} (level : Nat) {c : Char} {cs rest : List Char}
    {items : List Document} (hspace : isSpace c = false) (hclose : c ≠ ']')
    (hread : readItems fuel depth (c :: cs) = some (items, rest)) :
    readValue (fuel + 1) (depth + 1) ('[' :: (newLine level ++ c :: cs)) = some (.list items, rest) := by
  have hskip : skipSpace (newLine level ++ c :: cs) = c :: cs := by
    rw [skipSpace_newLine]
    exact List.dropWhile_cons_of_neg (by simp [hspace])
  have hopen : skipSpace ('[' :: (newLine level ++ c :: cs)) = '[' :: (newLine level ++ c :: cs) := rfl
  rw [readValue]
  simp only [hopen, hskip]
  split
  · rename_i heq
    cases heq
    exact absurd rfl hclose
  · rw [hread]
    rfl

/-- A mapping is read behind its opening brace. -/
theorem readValue_brace {fuel depth : Nat} (level : Nat) {cs rest : List Char}
    {members : List (String × Document)}
    (hread : readMembers fuel depth ('"' :: cs) = some (members, rest)) :
    readValue (fuel + 1) (depth + 1) ('\x7b' :: (newLine level ++ '"' :: cs))
      = some (.mapping members, rest) := by
  have hskip : skipSpace (newLine level ++ '"' :: cs) = '"' :: cs := skipSpace_newLine level _
  have hopen : skipSpace ('\x7b' :: (newLine level ++ '"' :: cs))
      = '\x7b' :: (newLine level ++ '"' :: cs) := rfl
  rw [readValue]
  simp only [hopen, hskip]
  show (readMembers fuel depth ('"' :: cs)).map _ = _
  rw [hread]
  rfl

/-- **What is printed is read back.** -/
theorem ReadsBack.isRead {depth : Nat} {d : Document} (h : ReadsBack depth d) : IsRead depth d := by
  induction h with
  | null =>
    intro level fuel rest hfuel _
    obtain ⟨fuel, rfl⟩ := exists_fuel (@ReadsBack.null 0) hfuel
    rfl
  | bool value =>
    intro level fuel rest hfuel _
    obtain ⟨fuel, rfl⟩ := exists_fuel (@ReadsBack.bool 0 value) hfuel
    cases value <;> rfl
  | @nat depth n hn =>
    intro level fuel rest hfuel hrest
    obtain ⟨fuel, rfl⟩ := exists_fuel (@ReadsBack.nat depth n hn) hfuel
    obtain ⟨c, cs, hcs, hdigit⟩ := exists_toDigits n
    have hnumber := readNumber_toDigits hn hrest
    have hskip : skipSpace (c :: (cs ++ rest)) = c :: (cs ++ rest) :=
      List.dropWhile_cons_of_neg (by simp [isSpace_of_isDigit hdigit])
    show readValue (fuel + 1) depth (Nat.toDigits 10 n ++ rest) = _
    rw [hcs, List.cons_append] at hnumber ⊢
    rw [readValue, hskip]
    -- no other value starts with a digit
    split
    case h_7 => exact hnumber
    all_goals
      rename_i heq
      cases heq
      exact absurd hdigit (by decide)
  | string text =>
    intro level fuel rest hfuel _
    obtain ⟨fuel, rfl⟩ := exists_fuel (@ReadsBack.string 0 text) hfuel
    obtain ⟨cs, hcs, hread⟩ := readString_encodeString text rest
    show readValue (fuel + 1) _ (encodeString text ++ rest) = _
    rw [hcs, readValue]
    show (readString [] cs).map _ = _
    rw [hread]
    rfl
  | @list depth items hitems ih =>
    intro level fuel rest hfuel _
    obtain ⟨fuel, rfl⟩ := exists_fuel (.list hitems) hfuel
    cases items with
    | nil => rfl
    | cons item items =>
      simp only [prettyChars, newLine, List.cons_append, List.length_cons, List.length_append] at hfuel
      have hread := readItems_pretty (level + 1) level fuel (ih item List.mem_cons_self)
        (fun other hother => ih other (List.mem_cons_of_mem item hother))
        (by rw [List.length_append]; omega) rest
      obtain ⟨c, cs, hcs, hspace, hclose⟩ :=
        exists_prettyChars (hitems item List.mem_cons_self) (level + 1)
      simp only [prettyChars, List.cons_append, List.append_assoc, List.nil_append]
      rw [hcs, List.cons_append] at hread ⊢
      exact readValue_bracket (level + 1) hspace hclose hread
  | @mapping depth members hmembers ih =>
    intro level fuel rest hfuel _
    obtain ⟨fuel, rfl⟩ := exists_fuel (.mapping hmembers) hfuel
    cases members with
    | nil => rfl
    | cons member members =>
      obtain ⟨key, value⟩ := member
      simp only [prettyChars, newLine, List.cons_append, List.length_cons, List.length_append] at hfuel
      have hvalue : IsRead depth value := ih (key, value) List.mem_cons_self
      have hread := readMembers_pretty (level + 1) level fuel key hvalue
        (fun other hother => ih other (List.mem_cons_of_mem _ hother))
        (by rw [List.length_append]; omega) rest
      obtain ⟨cs, hcs, -⟩ := readString_encodeString key (':' :: ' ' ::
        (prettyChars (level + 1) value ++ (prettyMembers (level + 1) members ++
          (newLine level ++ '\x7d' :: rest))))
      simp only [prettyChars, List.cons_append, List.append_assoc, List.nil_append]
      rw [hcs] at hread ⊢
      exact readValue_brace (level + 1) hread

/-- A document that is printed with a line feed behind it is read back. -/
theorem read?_pretty {d : Document} (h : ReadsBack nestingLimit d) : read? (pretty d ++ "\n") = some d := by
  have htext : (pretty d ++ "\n").toList = prettyChars 0 d ++ ['\n'] := by
    simp [pretty]
  have hends : Ends ['\n'] := ends_newLine 0 []
  have hread := h.isRead 0 (2 * (prettyChars 0 d ++ ['\n']).length + 2) ['\n']
    (by rw [List.length_append]; omega) hends
  unfold read?
  simp only [htext, hread]
  rfl

end Faceting.Json
