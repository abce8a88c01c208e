import Faceting.Proofs.Facet.Receiver
import Faceting.Proofs.Text.Rows

/-!
# Calls line up with declarations

Declarations and calls are written as lists with a comma and a space between neighbours. Such a list can be
cut again at these places (`Text.pieces`), and the pieces are those it was made of if none of them holds a
comma (`pieces_commaList`). That is so for the arguments of calls, because the declared names are
identifiers, and so a call passes one argument for each parameter of the method, in order
(`calls_line_up`).

Types may hold commas, and the parameters of a declaration cannot be told by cutting. What is known of them
is how they are put together (`parameters_eq_intercalate`, `parameters_eq_append`).
-/

namespace Faceting

/-! ### Cutting at commas -/

namespace Text

/-- Cuts a text wherever a space follows a comma, from left to right. -/
def splitCommas : List Char → List (List Char)
  | [] => [[]]
  | ',' :: ' ' :: rest => [] :: splitCommas rest
  | c :: rest =>
    match splitCommas rest with
    | [] => [[c]]
    | piece :: more => (c :: piece) :: more

/-- The pieces of a text, between commas with a space behind them. -/
def pieces (text : String) : List String :=
  (splitCommas text.toList).map String.ofList

theorem splitCommas_cons {c : Char} (hc : c ≠ ',') {rest piece : List Char} {more : List (List Char)}
    (h : splitCommas rest = piece :: more) : splitCommas (c :: rest) = (c :: piece) :: more := by
  rw [splitCommas.eq_3 c rest fun _ hcomma _ => hc hcomma, h]

theorem splitCommas_of_notMem {cs : List Char} (h : ',' ∉ cs) : splitCommas cs = [cs] := by
  induction cs with
  | nil => rfl
  | cons c rest ih =>
    rw [List.mem_cons, not_or] at h
    exact splitCommas_cons (Ne.symm h.1) (ih h.2)

/-- What stands before the first comma is a piece. -/
theorem splitCommas_append {cs : List Char} (h : ',' ∉ cs) (rest : List Char) :
    splitCommas (cs ++ ',' :: ' ' :: rest) = cs :: splitCommas rest := by
  induction cs with
  | nil => rfl
  | cons c cs ih =>
    rw [List.mem_cons, not_or] at h
    exact splitCommas_cons (Ne.symm h.1) (ih h.2)

end Text

namespace SignatureStyle

open Text (pieces)

/-- **A list is cut into what it was made of**, if nothing in it holds a comma. -/
theorem pieces_commaList {texts : List String} (hne : texts ≠ []) (h : ∀ text ∈ texts, ',' ∉ text.toList) :
    pieces (commaList texts) = texts := by
  have hsplit : Text.splitCommas (commaList texts).toList = texts.map String.toList := by
    unfold commaList
    induction texts with
    | nil => exact absurd rfl hne
    | cons text rest ih =>
      rw [List.forall_mem_cons] at h
      cases rest with
      | nil => exact Text.splitCommas_of_notMem h.1
      | cons next more =>
        have hlist : (Text.joinWith ", " (text :: next :: more)).toList
            = text.toList ++ ',' :: ' ' :: (Text.joinWith ", " (next :: more)).toList := by
          simp [Text.joinWith]
        rw [hlist, Text.splitCommas_append h.1, ih (List.cons_ne_nil _ _) h.2]
        rfl
  rw [pieces, hsplit, List.map_map]
  simp [Function.comp_def]

/-! ### Calls -/

theorem notMem_of_wellFormed {params : List Param} (h : ∀ p ∈ params, p.WellFormed) :
    ∀ name ∈ params.map Param.name, ',' ∉ name.toList := by
  intro name hname hcomma
  obtain ⟨p, hp, rfl⟩ := List.mem_map.1 hname
  have hname := (Text.isIdentifier_iff p.name).2 (h p hp).name
  exact absurd (Text.isIdentifierPart_of_isIdentifier hname hcomma) (by decide)

/-- The pieces of a call are what it passes for the receiver, and the names of the other parameters. -/
theorem pieces_call {first : String} (hfirst : ',' ∉ first.toList) {params : List Param}
    (h : ∀ p ∈ params, p.WellFormed) :
    pieces (commaList (first :: params.map Param.name)) = first :: params.map Param.name :=
  pieces_commaList (List.cons_ne_nil _ _) (List.forall_mem_cons.2 ⟨hfirst, notMem_of_wellFormed h⟩)

section
variable {style : SignatureStyle} {kind : MethodKind} {m : Method (List String)} (hm : m.WellFormed kind)
include hm

theorem pieces_forwarded_cast (hcast : ',' ∉ style.cast.toList) :
    pieces (style.forwarded true m.complete.params) = (style.cast ++ "(data)") :: m.params.map Param.name := by
  rw [hm.receivesOnce.params]
  have hreceiver : style.cast ++ "(" ++ "data" ++ ")" = style.cast ++ "(data)" := by
    rw [String.append_assoc, String.append_assoc]
    rfl
  show pieces (commaList ((style.cast ++ "(" ++ "data" ++ ")") :: m.params.map Param.name)) = _
  rw [hreceiver]
  refine pieces_call ?_ hm.params
  rw [String.toList_append, List.mem_append, not_or]
  exact ⟨hcast, by decide⟩

theorem pieces_forwarded_plain :
    pieces (style.forwarded false m.complete.params) = "data" :: m.params.map Param.name := by
  rw [hm.receivesOnce.params]
  show pieces (commaList ("data" :: m.params.map Param.name)) = _
  exact pieces_call (by decide) hm.params

theorem pieces_routed (haccessor : ',' ∉ style.accessor.toList) :
    pieces (style.routed m.complete.params) = style.accessor :: m.params.map Param.name := by
  rw [hm.receivesOnce.params]
  exact pieces_call haccessor hm.params

end

/-! ### Declarations -/

theorem parameters_eq_intercalate (withNames : Bool) (params : List Param) :
    parameters withNames params
      = ", ".intercalate (params.map fun p => if withNames then p.type ++ " " ++ p.name else p.type) :=
  Text.joinWith_eq_intercalate ", " _

/-- The receiver stands before what is declared without it. -/
theorem parameters_eq_append (withNames : Bool) (receiver : Param) (rest : List Param) :
    parameters withNames (receiver :: rest)
      = declare withNames receiver ++
          if rest = [] then "" else ", " ++ visibleParameters withNames (receiver :: rest) := by
  cases rest with
  | nil => exact (String.append_empty).symm
  | cons next more =>
    rw [if_neg (List.cons_ne_nil next more), ← String.append_assoc]
    rfl

/-- **Calls line up with declarations.**  For each method of an accepted description, the three calls that
are made in the usual style are cut into what stands for the receiver, and the declared names in order: one
piece for each of the parameters that the method is declared with. For all parameters whatsoever, with
and without names, a declaration is the list of its parameters, and it is its first parameter with the
declaration of the others behind it, if there are any. -/
theorem calls_line_up :
    (∀ (d : Document) (s : Schema), Schema.ofDocument d = .ok s → ∀ m ∈ s.methods,
      m.complete.params.length = m.params.length + 1 ∧
        pieces (forwarded {} true m.complete.params) = "_dcast(data)" :: m.params.map Param.name ∧
        pieces (forwarded {} false m.complete.params) = "data" :: m.params.map Param.name ∧
        pieces (routed {} m.complete.params) = "O::data()" :: m.params.map Param.name) ∧
    ∀ (withNames : Bool) (params : List Param),
      parameters withNames params
          = ", ".intercalate (params.map fun p => if withNames then p.type ++ " " ++ p.name else p.type) ∧
        ∀ receiver rest, params = receiver :: rest →
          parameters withNames params
            = (if withNames then receiver.type ++ " " ++ receiver.name else receiver.type) ++
                if rest = [] then "" else ", " ++ visibleParameters withNames params := by
  constructor
  · intro d s hd m hm
    obtain ⟨list, hlist⟩ := Schema.mem_methods_iff.1 hm
    have hwell := (Schema.wellFormed_of_ofDocument hd).methods hlist
    refine ⟨?_, pieces_forwarded_cast hwell (by decide), pieces_forwarded_plain hwell,
      pieces_routed hwell (by decide)⟩
    rw [hwell.receivesOnce.params, List.length_cons]
  · intro withNames params
    refine ⟨parameters_eq_intercalate withNames params, ?_⟩
    rintro receiver rest rfl
    exact parameters_eq_append withNames receiver rest

theorem lookalike_calls_line_up :
    ∃ s size, Schema.ofDocument lookalikeDocument = .ok s ∧ size ∈ s.methods ∧
      pieces (forwarded {} true size.complete.params) = ["_dcast(data)", "self", "data_"] ∧
      pieces (forwarded {} false size.complete.params) = ["data", "self", "data_"] ∧
      pieces (routed {} size.complete.params) = ["O::data()", "self", "data_"] ∧
      parameters false size.complete.params = "Copaque, Copaque, Opaque" := by
  have hread : Schema.ofDocument lookalikeDocument = .ok _ := rfl
  have hcalls := (calls_line_up.1 lookalikeDocument _ hread _ List.mem_cons_self).2
  exact ⟨_, _, hread, List.mem_cons_self, hcalls.1, hcalls.2.1, hcalls.2.2, by decide +kernel⟩

end SignatureStyle

end Faceting
