import Faceting.Proofs.Template.References

/-!
# What templates ask their host

Most of what a template writes follows from its nodes, the formatter and the scope. For the rest it asks its
host, in one of two ways (`Query`): a function of the language may look at the surroundings, and a template
that is left to the engine may look at anything. `nodesQueries` lists what nodes ask, in all branches.

Renderers with the same formatter that give the same answers to what nodes ask write the same
(`renderNodes_congr`). In particular, nodes that ask nothing are written in the same way whatever other
templates there are, and wherever they are rendered. The proof follows the two evaluators: one lemma for each
of their functions, and one case for each of their equations.
-/

namespace Faceting.Template

/-! ### Queries -/

/-- Something that a template asks its host for. -/
inductive Query where
  /-- What there is around. -/
  | surroundings
  /-- What a template that is left to the engine writes. -/
  | engine (name source : String)
deriving DecidableEq, Repr

/-- Two renderers give the same answer, at any place in a template. -/
def Query.SameAnswer (r r' : Renderer) : Query → Prop
  | .surroundings => r.host.surroundings = r'.host.surroundings
  | .engine name source => ∀ s, r.foreign name source s = r'.foreign name source s

/-- What a term asks for, apart from the terms inside of it. -/
def Term.queries : Term → List Query
  | .standard _ f _ => if f.asks then [.surroundings] else []
  | _ => []

/-- What an expression asks for. -/
def Expr.queries (e : Expr) : List Query :=
  e.terms.flatMap Term.queries

mutual

/-- What a node asks for. -/
def nodeQueries : Node → List Query
  | .text _ => []
  | .print e => e.queries
  | .assign _ e => e.queries
  | .branch cases otherwise => casesQueries cases ++ nodesQueries otherwise
  | .loop _ _ container body empty => container.queries ++ nodesQueries body ++ nodesQueries empty
  | .foreign name source => [.engine name source]

/-- What nodes ask for. -/
def nodesQueries : List Node → List Query
  | [] => []
  | node :: rest => nodeQueries node ++ nodesQueries rest

/-- What the cases of a branch ask for. -/
def casesQueries : List (Expr × List Node) → List Query
  | [] => []
  | (condition, body) :: rest => condition.queries ++ nodesQueries body ++ casesQueries rest

end

section
variable {r r' : Renderer}

/-! ### Expressions -/

/-- Two renderers give the same answers to what terms ask for. -/
def SameFor (r r' : Renderer) (terms : List Term) : Prop :=
  ∀ q ∈ terms.flatMap Term.queries, q.SameAnswer r r'

theorem sameFor_append {first rest : List Term} :
    SameFor r r' (first ++ rest) ↔ SameFor r r' first ∧ SameFor r r' rest := by
  unfold SameFor
  rw [List.flatMap_append, List.forall_mem_append]

theorem sameFor_cons {term : Term} {rest : List Term} :
    SameFor r r' (term :: rest) ↔ SameFor r r' [term] ∧ SameFor r r' rest :=
  @sameFor_append r r' [term] rest

/-- A function that does not look around has the same value everywhere. -/
theorem Standard.value_congr {f : Standard} {around around' : Surroundings}
    (h : f.asks = true → around = around') (moment : Moment) (args : Arguments) :
    f.value around moment args = f.value around' moment args := by
  cases f with
  | range => rfl
  | failure => rfl
  | now => rw [h rfl]
  | random => rw [h rfl]
  | environment => rw [h rfl]

theorem SameFor.surroundings {site : Nat} {f : Standard} {args : List (String × Expr)}
    (h : SameFor r r' [.standard site f args]) (hf : f.asks = true) :
    r.host.surroundings = r'.host.surroundings := by
  apply h .surroundings
  rw [List.flatMap_singleton, Term.queries, if_pos hf]
  exact List.mem_cons_self

mutual

theorem evalTerm_congr (hformatter : r.formatter = r'.formatter) :
    ∀ (t : Term) (s : Scope), SameFor r r' t.terms → evalTerm r s t = evalTerm r' s t
  | .text _, s, _ => by rw [evalTerm, evalTerm]
  | .int _, s, _ => by rw [evalTerm, evalTerm]
  | .float _, s, _ => by rw [evalTerm, evalTerm]
  | .bool _, s, _ => by rw [evalTerm, evalTerm]
  | .path _ _, s, _ => by rw [evalTerm, evalTerm]
  | .call function, s, h => by
    rw [Term.terms, sameFor_cons] at h
    rw [evalTerm, evalTerm, evalCall_congr hformatter function s h.2]
  | .standard site f args, s, h => by
    rw [Term.terms, sameFor_cons] at h
    rw [evalTerm, evalTerm, evalArgs_congr hformatter args s h.2]
    congr 1
    funext values
    exact Standard.value_congr h.1.surroundings ⟨site, s⟩ values
  | .array items, s, h => by
    rw [Term.terms, sameFor_cons] at h
    rw [evalTerm, evalTerm, evalItems_congr hformatter items s h.2]
  | .logic op lhs rhs, s, h => by
    rw [Term.terms, sameFor_cons, sameFor_append] at h
    have hlhs := truth_congr hformatter lhs s h.2.1
    have hrhs := truth_congr hformatter rhs s h.2.2
    have hleft := evalExpr_congr hformatter lhs s h.2.1
    have hright := evalExpr_congr hformatter rhs s h.2.2
    cases op <;> simp only [evalTerm, hlhs, hrhs, hleft, hright]

theorem evalCall_congr (hformatter : r.formatter = r'.formatter) :
    ∀ (c : Call) (s : Scope), SameFor r r' c.terms → evalCall r s c = evalCall r' s c
  | .mk name args, s, h => by
    rw [Call.terms] at h
    rw [evalCall, evalCall, evalArgs_congr hformatter args s h, hformatter]

theorem evalArgs_congr (hformatter : r.formatter = r'.formatter) :
    ∀ (args : List (String × Expr)) (s : Scope), SameFor r r' (argsTerms args) →
      evalArgs r s args = evalArgs r' s args
  | [], s, _ => by rw [evalArgs, evalArgs]
  | (name, e) :: rest, s, h => by
    rw [argsTerms, sameFor_append] at h
    rw [evalArgs, evalArgs, evalExpr_congr hformatter e s h.1, evalArgs_congr hformatter rest s h.2]

theorem evalItems_congr (hformatter : r.formatter = r'.formatter) :
    ∀ (items : List Expr) (s : Scope), SameFor r r' (itemsTerms items) →
      evalItems r s items = evalItems r' s items
  | [], s, _ => by rw [evalItems, evalItems]
  | e :: rest, s, h => by
    rw [itemsTerms, sameFor_append] at h
    rw [evalItems, evalItems, evalExpr_congr hformatter e s h.1, evalItems_congr hformatter rest s h.2]

theorem evalFilters_congr (hformatter : r.formatter = r'.formatter) :
    ∀ (filters : List Call) (s : Scope) (value : Document), SameFor r r' (filtersTerms filters) →
      evalFilters r s filters value = evalFilters r' s filters value
  | [], s, value, _ => by rw [evalFilters, evalFilters]
  | .mk name args :: rest, s, value, h => by
    rw [filtersTerms, sameFor_append, Call.terms] at h
    have hrest (value : Document) : evalFilters r s rest value = evalFilters r' s rest value :=
      evalFilters_congr hformatter rest s value h.2
    simp only [evalFilters, evalArgs_congr hformatter args s h.1, hrest]

theorem evalExpr_congr (hformatter : r.formatter = r'.formatter) :
    ∀ (e : Expr) (s : Scope), SameFor r r' e.terms → evalExpr r s e = evalExpr r' s e
  | .mk term filters negated, s, h => by
    rw [Expr.terms, sameFor_append] at h
    have hfilters (value : Document) : evalFilters r s filters value = evalFilters r' s filters value :=
      evalFilters_congr hformatter filters s value h.2
    rw [evalExpr.eq_def, evalExpr.eq_def]
    simp only [evalTerm_congr hformatter term s h.1, hfilters]

theorem truth_congr (hformatter : r.formatter = r'.formatter) :
    ∀ (e : Expr) (s : Scope), SameFor r r' e.terms → truth r s e = truth r' s e
  | .mk term filters negated, s, h => by
    rw [Expr.terms, sameFor_append] at h
    have hfilters (value : Document) : evalFilters r s filters value = evalFilters r' s filters value :=
      evalFilters_congr hformatter filters s value h.2
    have hterm := evalTerm_congr hformatter term s h.1
    cases term with
    | path head steps => simp only [truth, hfilters]
    | call function =>
      have hcall := h.1
      rw [Term.terms, sameFor_cons] at hcall
      rw [truth, truth, evalCall_congr hformatter function s hcall.2]
    | standard site f args =>
      have hcall := h.1
      rw [Term.terms, sameFor_cons] at hcall
      have hvalue := Standard.value_congr hcall.1.surroundings
      simp only [truth, evalArgs_congr hformatter args s hcall.2, hvalue]
    | array items => rw [truth, truth]
    | _ => simp only [truth, hterm]

end

/-! ### Nodes -/

mutual

theorem renderNode_congr (hformatter : r.formatter = r'.formatter) (markup : Bool) :
    ∀ (node : Node) (s : Scope), (∀ q ∈ nodeQueries node, q.SameAnswer r r') →
      renderNode r markup node s = renderNode r' markup node s
  | .text _, s, _ => by rw [renderNode, renderNode]
  | .print e, s, h => by
    rw [nodeQueries] at h
    rw [renderNode, renderNode, evalExpr_congr hformatter e s h]
  | .assign name e, s, h => by
    rw [nodeQueries] at h
    rw [renderNode, renderNode, evalExpr_congr hformatter e s h]
  | .branch cases otherwise, s, h => by
    rw [nodeQueries, List.forall_mem_append] at h
    rw [renderNode, renderNode, renderCases_congr hformatter markup cases s h.1,
      renderNodes_congr hformatter markup otherwise s h.2]
  | .loop key name container body empty, s, h => by
    rw [nodeQueries, List.forall_mem_append, List.forall_mem_append] at h
    obtain ⟨⟨hcontainer, hbody⟩, hempty⟩ := h
    have hloop (s : Scope) : renderNodes r markup body s = renderNodes r' markup body s :=
      renderNodes_congr hformatter markup body s hbody
    simp only [renderNode, evalExpr_congr hformatter container s hcontainer,
      renderNodes_congr hformatter markup empty s hempty, hloop]
  | .foreign name source, s, h => by
    rw [nodeQueries, List.forall_mem_singleton] at h
    rw [renderNode, renderNode, h s]

/-- **What nodes write depends on their host only through the answers to what they ask.** -/
theorem renderNodes_congr (hformatter : r.formatter = r'.formatter) (markup : Bool) :
    ∀ (nodes : List Node) (s : Scope), (∀ q ∈ nodesQueries nodes, q.SameAnswer r r') →
      renderNodes r markup nodes s = renderNodes r' markup nodes s
  | [], s, _ => by rw [renderNodes, renderNodes]
  | node :: rest, s, h => by
    rw [nodesQueries, List.forall_mem_append] at h
    have hrest (s : Scope) : renderNodes r markup rest s = renderNodes r' markup rest s :=
      renderNodes_congr hformatter markup rest s h.2
    simp only [renderNodes, renderNode_congr hformatter markup node s h.1, hrest]

theorem renderCases_congr (hformatter : r.formatter = r'.formatter) (markup : Bool) :
    ∀ (cases : List (Expr × List Node)) (s : Scope), (∀ q ∈ casesQueries cases, q.SameAnswer r r') →
      renderCases r markup cases s = renderCases r' markup cases s
  | [], s, _ => by rw [renderCases, renderCases]
  | (condition, body) :: rest, s, h => by
    rw [casesQueries, List.forall_mem_append, List.forall_mem_append] at h
    obtain ⟨⟨hcondition, hbody⟩, hrest⟩ := h
    rw [renderCases, renderCases, truth_congr hformatter condition s hcondition,
      renderNodes_congr hformatter markup body s hbody, renderCases_congr hformatter markup rest s hrest]

end

end

end Faceting.Template
