import Faceting.Template.Render

/-!
# References in templates

Rendering looks only at the branches that are taken, and a condition takes a variable that leads nowhere
for false, so a template may render and still refer to things that are not there. Two notions ask for more.

* `nodesVariables`: the variables that nodes take from the context around them, in all branches.
* `NodesDefined`: in every branch, taken or not, and for every item of a loop, each term has a value, each
  function and filter is given what it asks for, and each node renders.

A template that is left to the engine is not looked into. It has no variables here, and is not `NodesDefined`.
-/

namespace Faceting.Template

/-! ### Terms -/

mutual

/-- A term and all terms inside of it. -/
def Term.terms : Term → List Term
  | .call function => .call function :: function.terms
  | .standard site f args => .standard site f args :: argsTerms args
  | .array items => .array items :: itemsTerms items
  | .logic op lhs rhs => .logic op lhs rhs :: (lhs.terms ++ rhs.terms)
  | term => [term]

/-- All terms inside of an expression, those in the arguments of its filters included. -/
def Expr.terms : Expr → List Term
  | .mk term filters _ => term.terms ++ filtersTerms filters

/-- All terms in the arguments of a function or filter. -/
def Call.terms : Call → List Term
  | .mk _ args => argsTerms args

/-- All terms in named arguments. -/
def argsTerms : List (String × Expr) → List Term
  | [] => []
  | (_, e) :: rest => e.terms ++ argsTerms rest

/-- All terms in the items of a list. -/
def itemsTerms : List Expr → List Term
  | [] => []
  | e :: rest => e.terms ++ itemsTerms rest

/-- All terms in the arguments of filters. -/
def filtersTerms : List Call → List Term
  | [] => []
  | filter :: rest => filter.terms ++ filtersTerms rest

end

/-! ### Variables -/

mutual

/-- The variables in a step of a path. -/
def stepVariables : Access → List String
  | .key _ => []
  | .lookup head steps => head :: stepsVariables steps

/-- The variables in the steps of a path. -/
def stepsVariables : List Access → List String
  | [] => []
  | step :: rest => stepVariables step ++ stepsVariables rest

end

/-- The variables of a path. -/
def Term.variables : Term → List String
  | .path head steps => head :: stepsVariables steps
  | _ => []

/-- The variables that an expression refers to. -/
def Expr.variables (e : Expr) : List String :=
  e.terms.flatMap Term.variables

/-- Variables without the one that a node assigns. -/
def withoutAssigned (node : Node) (names : List String) : List String :=
  match node with
  | .assign name _ => names.filter (· != name)
  | _ => names

mutual

/-- The variables that a node takes from around it. A loop has variables of its own for its items. -/
def nodeVariables : Node → List String
  | .text _ => []
  | .print e => e.variables
  | .assign _ e => e.variables
  | .branch cases otherwise => casesVariables cases ++ nodesVariables otherwise
  | .loop key item container body empty =>
    container.variables ++ nodesVariables empty ++
      (nodesVariables body).filter fun name => name != item && key != some name && name != "loop"
  | .foreign _ _ => []

/-- The variables that nodes take from around them. -/
def nodesVariables : List Node → List String
  | [] => []
  | node :: rest => nodeVariables node ++ withoutAssigned node (nodesVariables rest)

/-- The variables that the cases of a branch take from around it. -/
def casesVariables : List (Expr × List Node) → List String
  | [] => []
  | (condition, body) :: rest => condition.variables ++ nodesVariables body ++ casesVariables rest

end

/-! ### Definedness -/

/-- A term has a value. -/
def Term.HasValue (r : Renderer) (s : Scope) (t : Term) : Prop :=
  ∃ value, evalTerm r s t = .ok value

/-- An expression has a value, and so has every term inside of it. -/
def Expr.Defined (r : Renderer) (s : Scope) (e : Expr) : Prop :=
  (∀ t ∈ e.terms, t.HasValue r s) ∧ ∃ value, evalExpr r s e = .ok value

mutual

/-- Everything in a node is defined, whether rendering comes to it or not. -/
def NodeDefined (r : Renderer) : Node → Scope → Prop
  | .text _, _ => True
  | .print e, s => e.Defined r s
  | .assign _ e, s => e.Defined r s
  | .branch cases otherwise, s => CasesDefined r cases s ∧ NodesDefined r otherwise s
  | .loop key name container body empty, s =>
    container.Defined r s ∧ NodesDefined r empty s ∧
      ∀ value items, evalExpr r s container = .ok value → loopItems key container value = .ok items →
        ∀ entry ∈ items, ∀ index count,
          NodesDefined r body
            (s.enter ⟨key.bind fun k => entry.1.map fun text => (k, text), name, entry.2, index, count⟩)
  | .foreign _ _, _ => False

/-- Everything in nodes is defined, and each of them renders in the scope that those before it leave. -/
def NodesDefined (r : Renderer) : List Node → Scope → Prop
  | [], _ => True
  | node :: rest, s =>
    NodeDefined r node s ∧
      ∃ text s', renderNode r false node s = .ok (text, s') ∧ NodesDefined r rest s'

/-- Everything in the cases of a branch is defined. -/
def CasesDefined (r : Renderer) : List (Expr × List Node) → Scope → Prop
  | [], _ => True
  | (condition, body) :: rest, s =>
    condition.Defined r s ∧ NodesDefined r body s ∧ CasesDefined r rest s

end

end Faceting.Template
