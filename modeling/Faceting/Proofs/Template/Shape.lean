import Faceting.Proofs.Template.Render
import Mathlib.Tactic.Choose

/-!
# Templates that fit their variables

A simple check of templates against the shapes of the variables they are rendered with. Nodes that pass
(`nodesFit`) print only what is there, loop only over lists and filter only texts, and so they render
in every scope that binds variables of these shapes, with every renderer; the text depends on the values of
these variables and on nothing else (`exists_writes`). A property that all texts in these
values and all texts of the template have is a property of the text that is written, if putting texts
together keeps it (`Writes`). Nothing is asked of documentation, which is only written behind a fixed text and
with a fixed start of its further lines (`Literal.doc`).

The check has no rule for assignments and functions: it is meant for the parts of a template around
its loops over methods.
-/

namespace Faceting.Template

/-! ### Shapes -/

/-- What is known about a value. -/
inductive Shape where
  | any
  | text
  /-- A text that is only printed as documentation. -/
  | doc
  /-- A mapping with certain members, some of which are texts and some documentation. -/
  | record (texts docs others : List String)
  | list (item : Shape)
deriving DecidableEq, Repr

/-- A value has a shape. -/
def Fits : Shape → Document → Prop
  | .any, _ => True
  | .text, d => ∃ text, d = .string text
  | .doc, d => ∃ text, d = .string text
  | .record texts docs others, d => ∃ members, d = .mapping members ∧
      (∀ key ∈ texts ++ docs, ∃ text, members.lookup key = some (.string text)) ∧
      ∀ key ∈ others, ∃ value, members.lookup key = some value
  | .list item, d => ∃ items, d = .list items ∧ ∀ i ∈ items, Fits item i

/-- The shape of a part of a value. -/
def Shape.at? : List String → Shape → Option Shape
  | [], shape => some shape
  | [key], .record texts docs others =>
    if key ∈ texts then some .text
    else if key ∈ docs then some .doc
    else if key ∈ others then some .any
    else none
  | _, _ => none

theorem Fits.at? {shape partShape : Shape} {d : Document} (h : Fits shape d) {keys : List String}
    (hkeys : shape.at? keys = some partShape) :
    ∃ part, d.at? keys = some part ∧ Fits partShape part := by
  unfold Shape.at? at hkeys
  split at hkeys
  · cases hkeys
    exact ⟨d, by simp [Document.at?], h⟩
  · rename_i key texts docs others
    obtain ⟨members, rfl, htexts, hothers⟩ := h
    split at hkeys
    · rename_i hkey
      cases hkeys
      obtain ⟨text, htext⟩ := htexts key (List.mem_append_left docs hkey)
      exact ⟨.string text, by simp [Document.at?, htext], text, rfl⟩
    · split at hkeys
      · rename_i hkey
        cases hkeys
        obtain ⟨text, htext⟩ := htexts key (List.mem_append_right texts hkey)
        exact ⟨.string text, by simp [Document.at?, htext], text, rfl⟩
      · split at hkeys
        · rename_i hkey
          cases hkeys
          obtain ⟨value, hvalue⟩ := hothers key hkey
          exact ⟨value, by simp [Document.at?, hvalue], trivial⟩
        · cases hkeys
  · cases hkeys

/-! ### The check -/

/-- The shapes of variables. -/
abbrev Shapes := List (String × Shape)

/-- The keys of a path that looks nothing up. -/
def plainKeys? : List Access → Option (List String)
  | [] => some []
  | .key text :: rest => (plainKeys? rest).map (text :: ·)
  | .lookup _ _ :: _ => none

theorem eq_of_plainKeys? {steps : List Access} {keys : List String} (h : plainKeys? steps = some keys) :
    steps = keys.map .key := by
  induction steps generalizing keys with
  | nil =>
    cases h
    rfl
  | cons step rest ih =>
    cases step with
    | lookup head steps => cases h
    | key text =>
      obtain ⟨later, hlater, rfl⟩ := Option.map_eq_some_iff.1 h
      rw [ih hlater]
      rfl

/-- The shape of what a path leads to. -/
def Shapes.path? (shapes : Shapes) (head : String) (steps : List Access) : Option Shape :=
  (plainKeys? steps).bind fun keys => (shapes.lookup head).bind (·.at? keys)

/-- Filters that take a value of the shape. -/
def filtersFit : List Call → Shape → Bool
  | [], shape => shape != .doc
  | [.mk "lower" []], .text => true
  | [.mk "doc_continue" [("prefix", .mk (.text _) [] false)]], .doc => true
  | _, _ => false

/-- An expression that can be printed: a variable, perhaps behind filters. -/
def printFits (shapes : Shapes) : Expr → Bool
  | .mk (.path head steps) filters false => (shapes.path? head steps).any (filtersFit filters)
  | _ => false

/-- An expression that can be a condition: a variable. -/
def conditionFits (shapes : Shapes) : Expr → Bool
  | .mk (.path head steps) [] false => (shapes.path? head steps).isSome
  | _ => false

/-- The shape of the items of a variable that can be looped over. -/
def itemShape? (shapes : Shapes) : Expr → Option Shape
  | .mk (.path head steps) [] false =>
    match shapes.path? head steps with
    | some (.list item) => some item
    | _ => none
  | _ => none

mutual

/-- Whether a node fits variables of the given shapes. -/
def nodeFits (shapes : Shapes) : Node → Bool
  | .text _ => true
  | .print e => printFits shapes e
  | .assign _ _ => false
  | .branch cases otherwise => casesFit shapes cases && nodesFit shapes otherwise
  | .loop none item container body [] =>
    match itemShape? shapes container with
    | some shape =>
      item != "loop" && (shapes.lookup "loop").isNone && nodesFit ((item, shape) :: shapes) body
    | none => false
  | .loop _ _ _ _ _ => false
  | .foreign _ _ => false

/-- Whether nodes fit variables of the given shapes. -/
def nodesFit (shapes : Shapes) : List Node → Bool
  | [] => true
  | node :: rest => nodeFits shapes node && nodesFit shapes rest

/-- Whether the cases of a branch fit variables of the given shapes. -/
def casesFit (shapes : Shapes) : List (Expr × List Node) → Bool
  | [] => true
  | (condition, body) :: rest =>
    conditionFits shapes condition && nodesFit shapes body && casesFit shapes rest

end

/-! ### Properties of texts -/

/-- A property of texts that writing keeps. -/
structure Kept (P : String → Prop) : Prop where
  empty : P ""
  append : ∀ {first rest : String}, P first → P rest → P (first ++ rest)
  lower : ∀ {text : String}, P text → P (Text.lower text)

/-- Whatever is printed of a value of a shape has a property. -/
def Throughout (P : String → Prop) : Shape → Document → Prop
  | .any, d => P (printed false d)
  | .text, d => P (printed false d)
  | .doc, _ => True
  | .record texts _ others, d => P (printed false d) ∧
      ∀ key ∈ texts ++ others, ∀ part, d.at? [key] = some part → P (printed false part)
  | .list item, d => P (printed false d) ∧ ∀ items, d = .list items → ∀ i ∈ items, Throughout P item i

theorem Throughout.printed {P : String → Prop} {shape : Shape} {d : Document} (h : Throughout P shape d)
    (hshape : shape ≠ .doc) : P (printed false d) := by
  cases shape with
  | any => exact h
  | text => exact h
  | doc => exact absurd rfl hshape
  | record texts docs others => exact h.1
  | list item => exact h.1

theorem Throughout.at? {P : String → Prop} {shape partShape : Shape} {d part : Document}
    {keys : List String} (h : Throughout P shape d) (hkeys : shape.at? keys = some partShape)
    (hpart : d.at? keys = some part) : Throughout P partShape part := by
  unfold Shape.at? at hkeys
  split at hkeys
  · cases hkeys
    obtain rfl : d = part := by simpa [Document.at?] using hpart
    exact h
  · rename_i key texts docs others
    split at hkeys
    · rename_i hkey
      cases hkeys
      exact h.2 key (List.mem_append_left others hkey) part hpart
    · split at hkeys
      · cases hkeys
        trivial
      · split at hkeys
        · rename_i hkey
          cases hkeys
          exact h.2 key (List.mem_append_right texts hkey) part hpart
        · cases hkeys
  · cases hkeys

/-- A fixed text of a template, or one that documentation is written behind, with the text that its further
lines start with. -/
inductive Literal where
  | text (value : String)
  | doc (opening lineStart : String)
deriving DecidableEq, Repr

/-- A property of what a fixed text becomes, whatever documentation is written behind it. -/
def Literal.Satisfies (P : String → Prop) : Literal → Prop
  | .text value => P value
  | .doc opening lineStart => ∀ doc, P (opening ++ docContinue lineStart doc)

/-- The texts that filters put in front of lines. -/
def filterLiterals : List Call → List Literal
  | [.mk "doc_continue" [("prefix", .mk (.text lineStart) [] false)]] => [.doc "" lineStart]
  | _ => []

/-- The texts that an expression adds to its value. -/
def printLiterals : Expr → List Literal
  | .mk _ filters _ => filterLiterals filters

/-- The texts of an expression behind a fixed text. -/
def openedLiterals (opening : String) : List Literal → List Literal
  | [.doc "" lineStart] => [.doc opening lineStart]
  | literals => .text opening :: literals

mutual

/-- The texts in a node. -/
def nodeLiterals : Node → List Literal
  | .text value => [.text value]
  | .print e => printLiterals e
  | .assign _ _ => []
  | .branch cases otherwise => caseLiterals cases ++ nodesLiterals otherwise
  | .loop _ _ _ body empty => nodesLiterals body ++ nodesLiterals empty
  | .foreign _ _ => []

/-- The texts in nodes. -/
def nodesLiterals : List Node → List Literal
  | [] => []
  | node :: rest => nodeLiterals node ++ nodesLiterals rest

/-- The texts in the cases of a branch. Documentation may stand behind the first text of a case. -/
def caseLiterals : List (Expr × List Node) → List Literal
  | [] => []
  | (_, .text opening :: .print e :: body) :: rest =>
    openedLiterals opening (printLiterals e) ++ nodesLiterals body ++ caseLiterals rest
  | (_, body) :: rest => nodesLiterals body ++ caseLiterals rest

end

/-- The texts in the body of a case. -/
def bodyLiterals : List Node → List Literal
  | .text opening :: .print e :: body => openedLiterals opening (printLiterals e) ++ nodesLiterals body
  | body => nodesLiterals body

theorem caseLiterals_cons (condition : Expr) (body : List Node) (rest : List (Expr × List Node)) :
    caseLiterals ((condition, body) :: rest) = bodyLiterals body ++ caseLiterals rest := by
  unfold bodyLiterals
  split
  · rw [caseLiterals]
  · rw [caseLiterals]
    assumption

/-! ### What the check promises -/

/-- Values have the shapes of the variables they are for. -/
def Fitting (shapes : Shapes) (values : String → Document) : Prop :=
  ∀ name shape, shapes.lookup name = some shape → Fits shape (values name)

/-- A scope binds the variables to their values. -/
def Bound (shapes : Shapes) (values : String → Document) (s : Scope) : Prop :=
  ∀ name shape, shapes.lookup name = some shape → s.Binds name (values name)

/-- Whatever is printed of the variables has a property. -/
def Everywhere (P : String → Prop) (shapes : Shapes) (values : String → Document) : Prop :=
  ∀ name shape, shapes.lookup name = some shape → Throughout P shape (values name)

/-- Nodes write a text wherever the variables have their values. What is true of certain fixed texts and of
the variables, and is kept by writing, is true of the text that is written. -/
structure Writes (shapes : Shapes) (values : String → Document) (literals : List Literal)
    (nodes : List Node) (text : String) : Prop where
  renders : ∀ r s, Bound shapes values s → Renders r s nodes text
  keeps : ∀ P, Kept P → Everywhere P shapes values → (∀ literal ∈ literals, literal.Satisfies P) → P text

section
variable {shapes : Shapes} {values : String → Document}

/-- A path that fits leads to the same value in all scopes. -/
theorem exists_part {head : String} {steps : List Access} {shape : Shape}
    (h : shapes.path? head steps = some shape) (hvalues : Fitting shapes values) :
    ∃ keys part, steps = keys.map .key ∧ (values head).at? keys = some part ∧ Fits shape part ∧
      (∀ s, Bound shapes values s → s.Binds head (values head)) ∧
      ∀ P, Everywhere P shapes values → Throughout P shape part := by
  obtain ⟨keys, hkeys, hrest⟩ := Option.bind_eq_some_iff.1 h
  obtain ⟨headShape, hhead, hpart⟩ := Option.bind_eq_some_iff.1 hrest
  obtain ⟨part, hat, hfits⟩ := (hvalues head headShape hhead).at? hpart
  exact ⟨keys, part, eq_of_plainKeys? hkeys, hat, hfits, fun s hs => hs head headShape hhead,
    fun P hP => (hP head headShape hhead).at? hpart hat⟩

theorem exists_filtered {filters : List Call} {shape : Shape} {d : Document}
    (h : filtersFit filters shape = true) (hd : Fits shape d) :
    ∃ value, (∀ r s, evalFilters r s filters d = .ok value) ∧
      (∀ lineStart, filterLiterals filters = [.doc "" lineStart] →
        ∃ doc, printed false value = docContinue lineStart doc) ∧
      ∀ P, Kept P → Throughout P shape d → (∀ literal ∈ filterLiterals filters, literal.Satisfies P) →
        P (printed false value) := by
  unfold filtersFit at h
  split at h
  · have hshape : shape ≠ .doc := by simpa using h
    exact ⟨d, fun r s => by simp [evalFilters], fun _ hdoc => (nomatch hdoc),
      fun P _ hvalue _ => hvalue.printed hshape⟩
  · obtain ⟨text, rfl⟩ := hd
    exact ⟨.string (Text.lower text), fun r s => rfl, fun _ hdoc => (nomatch hdoc),
      fun P hP hvalue _ => hP.lower hvalue⟩
  · rename_i lineStart
    obtain ⟨text, rfl⟩ := hd
    refine ⟨.string (docContinue lineStart text), fun r s => rfl, ?_, ?_⟩
    · intro other hother
      cases hother
      exact ⟨text, rfl⟩
    · intro P _ _ hliterals
      have hdoc := hliterals (.doc "" lineStart) List.mem_cons_self text
      rw [String.empty_append] at hdoc
      exact hdoc
  · cases h

/-- What is printed is the same in all scopes. It is documentation, or has the properties of the variables. -/
theorem exists_value_of_printFits {e : Expr} (h : printFits shapes e = true)
    (hvalues : Fitting shapes values) :
    ∃ value, (∀ r s, Bound shapes values s → evalExpr r s e = .ok value) ∧
      (∀ lineStart, printLiterals e = [.doc "" lineStart] →
        ∃ doc, printed false value = docContinue lineStart doc) ∧
      ∀ P, Kept P → Everywhere P shapes values → (∀ literal ∈ printLiterals e, literal.Satisfies P) →
        P (printed false value) := by
  unfold printFits at h
  split at h
  · rename_i head steps filters
    obtain ⟨shape, hshape, hfilters⟩ := (Option.any_eq_true _ _).1 h
    obtain ⟨keys, part, rfl, hat, hfits, hbinds, hthroughout⟩ := exists_part hshape hvalues
    obtain ⟨value, hvalue, hdoc, hkeeps⟩ := exists_filtered hfilters hfits
    refine ⟨value, fun r s hs => ?_, hdoc, fun P hP hvars hliterals => ?_⟩
    · simp [evalExpr, evalTerm, value_of_binds (hbinds s hs) hat, hvalue, Except.bind, Except.map]
    · exact hkeeps P hP (hthroughout P hvars) hliterals
  · cases h

theorem exists_truth_of_conditionFits {e : Expr} (h : conditionFits shapes e = true)
    (hvalues : Fitting shapes values) :
    ∃ holds, ∀ r s, Bound shapes values s → truth r s e = .ok holds := by
  unfold conditionFits at h
  split at h
  · rename_i head steps
    obtain ⟨shape, hshape⟩ := Option.isSome_iff_exists.1 h
    obtain ⟨keys, part, rfl, hat, -, hbinds, -⟩ := exists_part hshape hvalues
    exact ⟨part.isTruthy, fun r s hs => truth_var r (hbinds s hs) hat⟩
  · cases h

theorem exists_items_of_itemShape? {e : Expr} {shape : Shape} (h : itemShape? shapes e = some shape)
    (hvalues : Fitting shapes values) :
    ∃ head keys items, e = .var head keys ∧ (values head).at? keys = some (.list items) ∧
      (∀ i ∈ items, Fits shape i) ∧ (∀ s, Bound shapes values s → s.Binds head (values head)) ∧
      ∀ P, Everywhere P shapes values → ∀ i ∈ items, Throughout P shape i := by
  unfold itemShape? at h
  split at h
  · rename_i head steps
    split at h
    · rename_i item hitem
      cases h
      obtain ⟨keys, part, rfl, hat, ⟨items, rfl, hitems⟩, hbinds, hthroughout⟩ := exists_part hitem hvalues
      exact ⟨head, keys, items, rfl, hat, hitems, hbinds, fun P hP => (hthroughout P hP).2 items rfl⟩
    · cases h
  · cases h

/-- In the body of a loop the item is one more variable. -/
theorem forall_update {motive : Shape → Document → Prop}
    (hvalues : ∀ name shape, shapes.lookup name = some shape → motive shape (values name)) {item : String}
    {shape : Shape} {d : Document} (hd : motive shape d) :
    ∀ name shape', ((item, shape) :: shapes).lookup name = some shape' →
      motive shape' (Function.update values item d name) := by
  intro name shape' hname
  by_cases hitem : name = item
  · subst hitem
    simp only [List.lookup_cons_self, Option.some.injEq] at hname
    subst hname
    rwa [Function.update_self]
  · rw [List.lookup_cons, beq_false_of_ne hitem] at hname
    rw [Function.update_of_ne hitem]
    exact hvalues name shape' hname

theorem Bound.enter {s : Scope} (hs : Bound shapes values s) (hshapes : shapes.lookup "loop" = none)
    {item : String} (hitem : item ≠ "loop") (shape : Shape) (d : Document) (index count : Nat) :
    Bound ((item, shape) :: shapes) (Function.update values item d)
      (s.enter ⟨none, item, d, index, count⟩) := by
  intro name shape' hname
  by_cases hne : name = item
  · subst hne
    rw [Function.update_self]
    exact s.binds_enter hitem d index count
  · rw [List.lookup_cons, beq_false_of_ne hne] at hname
    have hloop : name ≠ "loop" := by
      rintro rfl
      rw [hshapes] at hname
      cases hname
    rw [Function.update_of_ne hne]
    exact (hs name shape' hname).enter hloop hne d index count

theorem nodesLiterals_append (first rest : List Node) :
    nodesLiterals (first ++ rest) = nodesLiterals first ++ nodesLiterals rest := by
  induction first with
  | nil => rfl
  | cons node nodes ih => rw [List.cons_append, nodesLiterals, nodesLiterals, ih, List.append_assoc]

namespace Writes

theorem nil : Writes shapes values [] [] "" :=
  ⟨fun _ _ _ => .nil, fun _ hP _ _ => hP.empty⟩

theorem append {first rest : List Node} {text more : String} {literals literals' : List Literal}
    (hfirst : Writes shapes values literals first text) (hrest : Writes shapes values literals' rest more) :
    Writes shapes values (literals ++ literals') (first ++ rest) (text ++ more) := by
  refine ⟨fun r s hs => (hfirst.renders r s hs).append (hrest.renders r s hs), ?_⟩
  intro P hP hvars hliterals
  rw [List.forall_mem_append] at hliterals
  exact hP.append (hfirst.keeps P hP hvars hliterals.1) (hrest.keeps P hP hvars hliterals.2)

theorem text (value : String) : Writes shapes values [.text value] [.text value] value :=
  ⟨fun _ _ _ => renders_text value, fun _ _ _ hliterals => hliterals (.text value) List.mem_cons_self⟩

/-- What is printed behind a fixed text. -/
theorem opened (opening : String) {e : Expr} (h : printFits shapes e = true) (hvalues : Fitting shapes values) :
    ∃ text, Writes shapes values (openedLiterals opening (printLiterals e)) [.text opening, .print e] text := by
  obtain ⟨value, hvalue, hdoc, hkeeps⟩ := exists_value_of_printFits h hvalues
  refine ⟨opening ++ printed false value, fun r s hs => ?_, fun P hP hvars hliterals => ?_⟩
  · exact (renders_text opening).cons (renders_print (hvalue r s hs))
  · unfold openedLiterals at hliterals
    split at hliterals
    · -- documentation has the property behind the text only
      rename_i lineStart hprint
      obtain ⟨doc, hprinted⟩ := hdoc lineStart hprint
      rw [hprinted]
      exact hliterals (.doc opening lineStart) List.mem_cons_self doc
    · rw [List.forall_mem_cons] at hliterals
      exact hP.append hliterals.1 (hkeeps P hP hvars hliterals.2)

/-- The body of a case, from what is behind its nodes. -/
theorem body {body : List Node} (h : nodesFit shapes body = true) (hvalues : Fitting shapes values)
    (hdrop : ∀ k, ∃ text, Writes shapes values (nodesLiterals (body.drop k)) (body.drop k) text) :
    ∃ text, Writes shapes values (bodyLiterals body) body text := by
  unfold bodyLiterals
  split
  · rename_i opening e more
    simp only [nodesFit, nodeFits, Bool.and_eq_true] at h
    obtain ⟨start, hstart⟩ := opened opening h.2.1 hvalues
    obtain ⟨text, htext⟩ := hdrop 2
    exact ⟨start ++ text, hstart.append htext⟩
  · exact hdrop 0

/-- A branch writes its first case or what its other cases write. -/
theorem branch {condition : Expr} {body otherwise : List Node} {cases : List (Expr × List Node)}
    {text more : String} {literals literals' : List Literal}
    (h : conditionFits shapes condition = true) (hvalues : Fitting shapes values)
    (hbody : Writes shapes values literals body text)
    (hrest : Writes shapes values literals' [.branch cases otherwise] more) :
    ∃ text, Writes shapes values (literals ++ literals')
      [.branch ((condition, body) :: cases) otherwise] text := by
  obtain ⟨holds, hholds⟩ := exists_truth_of_conditionFits h hvalues
  refine ⟨if holds then text else more, fun r s hs => ?_, ?_⟩
  · refine renders_branch_cons (hholds r s hs) (fun htrue => ?_) (fun hfalse => ?_)
    · rw [if_pos htrue]
      exact hbody.renders r s hs
    · rw [if_neg (by simp [hfalse])]
      exact hrest.renders r s hs
  · intro P hP hvars hliterals
    rw [List.forall_mem_append] at hliterals
    cases holds with
    | true => exact hbody.keeps P hP hvars hliterals.1
    | false => exact hrest.keeps P hP hvars hliterals.2

end Writes

end

/-- What is kept by writing is kept by writing block after block. -/
theorem Kept.blocks {P : String → Prop} (hP : Kept P) {α : Type} {block : α → String} {items : List α}
    (h : ∀ item ∈ items, P (block item)) : P ((items.map block).foldr (· ++ ·) "") := by
  induction items with
  | nil => exact hP.empty
  | cons item rest ih =>
    exact hP.append (h item List.mem_cons_self) (ih fun i hi => h i (List.mem_cons_of_mem item hi))

mutual

theorem exists_writes_of_nodeFits :
    ∀ (node : Node) {shapes : Shapes} {values : String → Document}, nodeFits shapes node = true →
      Fitting shapes values → ∃ text, Writes shapes values (nodeLiterals node) [node] text
  | .text value, shapes, values, _, _ => ⟨value, .text value⟩
  | .print e, shapes, values, h, hvalues => by
    rw [nodeFits] at h
    obtain ⟨value, hvalue, -, hkeeps⟩ := exists_value_of_printFits h hvalues
    exact ⟨printed false value, fun r s hs => renders_print (hvalue r s hs), hkeeps⟩
  | .assign _ _, shapes, values, h, _ => by
    rw [nodeFits] at h
    cases h
  | .branch cases otherwise, shapes, values, h, hvalues => by
    rw [nodeFits, Bool.and_eq_true] at h
    obtain ⟨text, htext⟩ := exists_writes_of_nodesFit otherwise h.2 hvalues 0
    exact exists_writes_of_casesFit cases h.1 hvalues htext
  | .loop (some _) _ _ _ _, shapes, values, h, _ => by
    rw [nodeFits.eq_def] at h
    cases h
  | .loop none _ _ _ (_ :: _), shapes, values, h, _ => by
    rw [nodeFits.eq_def] at h
    cases h
  | .loop none item container body [], shapes, values, h, hvalues => by
    rw [nodeFits] at h
    split at h
    · rename_i shape hshape
      simp only [Bool.and_eq_true, bne_iff_ne, ne_eq, Option.isNone_iff_eq_none] at h
      obtain ⟨⟨hitem, hloop⟩, hbody⟩ := h
      obtain ⟨head, keys, items, rfl, hlist, hitems, hbinds, hthroughout⟩ :=
        exists_items_of_itemShape? hshape hvalues
      -- each item has its own text, which does not depend on the scope
      have hblock : ∀ d, ∃ text, d ∈ items → Writes ((item, shape) :: shapes)
          (Function.update values item d) (nodesLiterals body) body text := by
        intro d
        by_cases hd : d ∈ items
        · obtain ⟨text, htext⟩ :=
            exists_writes_of_nodesFit body hbody (forall_update hvalues (hitems d hd)) 0
          exact ⟨text, fun _ => htext⟩
        · exact ⟨"", fun hd' => absurd hd' hd⟩
      choose block hblock using hblock
      refine ⟨(items.map block).foldr (· ++ ·) "", fun r s hs => ?_, ?_⟩
      · refine renders_loop id block (hbinds s hs) (by rw [List.map_id]; exact hlist) ?_
        intro d hd index count
        exact ⟨_, (hblock d hd).renders r _ (hs.enter hloop hitem shape d index count)⟩
      · intro P hP hvars hliterals
        refine hP.blocks fun d hd => (hblock d hd).keeps P hP ?_ ?_
        · exact forall_update hvars (hthroughout P hvars d hd)
        · intro literal hliteral
          exact hliterals literal (by simp [nodesLiterals, nodeLiterals, hliteral])
    · cases h
  | .foreign _ _, shapes, values, h, _ => by
    rw [nodeFits.eq_def] at h
    cases h

/-- Nodes that fit are written from any of them on. -/
theorem exists_writes_of_nodesFit :
    ∀ (nodes : List Node) {shapes : Shapes} {values : String → Document}, nodesFit shapes nodes = true →
      Fitting shapes values →
      ∀ k, ∃ text, Writes shapes values (nodesLiterals (nodes.drop k)) (nodes.drop k) text
  | [], shapes, values, _, _, k => by
    rw [List.drop_nil]
    exact ⟨"", .nil⟩
  | node :: rest, shapes, values, h, hvalues, 0 => by
    rw [nodesFit, Bool.and_eq_true] at h
    obtain ⟨text, htext⟩ := exists_writes_of_nodeFits node h.1 hvalues
    obtain ⟨more, hmore⟩ := exists_writes_of_nodesFit rest h.2 hvalues 0
    exact ⟨text ++ more, htext.append hmore⟩
  | node :: rest, shapes, values, h, hvalues, k + 1 => by
    rw [nodesFit, Bool.and_eq_true] at h
    exact exists_writes_of_nodesFit rest h.2 hvalues k

theorem exists_writes_of_casesFit :
    ∀ (cases : List (Expr × List Node)) {shapes : Shapes} {values : String → Document}
      {otherwise : List Node} {last : String}, casesFit shapes cases = true → Fitting shapes values →
      Writes shapes values (nodesLiterals otherwise) otherwise last →
      ∃ text, Writes shapes values (caseLiterals cases ++ nodesLiterals otherwise)
        [.branch cases otherwise] text
  | [], shapes, values, otherwise, last, _, _, hlast =>
    ⟨last, fun r s hs => renders_branch_nil (hlast.renders r s hs), hlast.keeps⟩
  | (condition, body) :: rest, shapes, values, otherwise, last, h, hvalues, hlast => by
    rw [casesFit, Bool.and_eq_true, Bool.and_eq_true] at h
    obtain ⟨⟨hcondition, hnodes⟩, hrest⟩ := h
    obtain ⟨text, htext⟩ := Writes.body hnodes hvalues (exists_writes_of_nodesFit body hnodes hvalues)
    obtain ⟨more, hmore⟩ := exists_writes_of_casesFit rest hrest hvalues hlast
    rw [caseLiterals_cons, List.append_assoc]
    exact htext.branch hcondition hvalues hmore

end

/-- **Nodes that fit write the same text in every scope that binds their variables and with every renderer.** -/
theorem exists_writes {shapes : Shapes} {values : String → Document} {nodes : List Node}
    (h : nodesFit shapes nodes = true) (hvalues : Fitting shapes values) :
    ∃ text, Writes shapes values (nodesLiterals nodes) nodes text :=
  exists_writes_of_nodesFit nodes h hvalues 0

end Faceting.Template
