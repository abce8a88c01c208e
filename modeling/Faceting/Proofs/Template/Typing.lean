import Faceting.Proofs.Template.Kinds
import Faceting.Proofs.Template.References
import Faceting.Proofs.Template.Shape

/-!
# Templates that are checked against the kinds of their variables

`nodesKinds?` checks nodes ahead of rendering, from the kinds of the variables around them. It knows the
functions and filters of templates, follows assignments, and looks into all branches. Nodes that pass are
defined in every scope that binds variables of these kinds (`nodesDefined_of_nodesKinds?`).

A condition has to be a variable: a function has no truth, and what is negated may be undefined.
-/

namespace Faceting.Template

/-! ### The check -/

/-- The kind of what a path leads to. -/
def Kinds.path? (kinds : Kinds) (head : String) (steps : List Access) : Option ValueKind :=
  (plainKeys? steps).bind fun keys => (kinds.lookup head).bind (·.at? keys)

mutual

/-- The kind of a term: a constant, a variable or a function. -/
def termKind? (kinds : Kinds) : Term → Option ValueKind
  | .text _ => some .text
  | .bool _ => some .flag
  | .path head steps => kinds.path? head steps
  | .call function => callKind? kinds function
  | _ => none

/-- The kind of what a function makes of its arguments. -/
def callKind? (kinds : Kinds) : Call → Option ValueKind
  | .mk name args =>
    (Function.ofName? name).bind fun f =>
      (argKinds? kinds args).bind fun given => if f.takes given then some .text else none

/-- The kinds of named arguments. -/
def argKinds? (kinds : Kinds) : List (String × Expr) → Option Kinds
  | [] => some []
  | (name, e) :: rest =>
    (exprKind? kinds e).bind fun kind => (argKinds? kinds rest).map ((name, kind) :: ·)

/-- The kind of what filters make of a value of a kind. -/
def filtersKind? (kinds : Kinds) : List Call → ValueKind → Option ValueKind
  | [], kind => some kind
  | .mk name args :: rest, kind =>
    (Filter.ofName? name).bind fun f =>
      (argKinds? kinds args).bind fun given =>
        if f.takes given kind then filtersKind? kinds rest .text else none

/-- The kind of an expression that is not negated. -/
def exprKind? (kinds : Kinds) : Expr → Option ValueKind
  | .mk term filters false => (termKind? kinds term).bind (filtersKind? kinds filters)
  | .mk _ _ true => none

end

/-- Whether an expression is a variable of some kind, which can be a condition. -/
def isCondition (kinds : Kinds) : Expr → Bool
  | .mk (.path head steps) [] false => (kinds.path? head steps).isSome
  | _ => false

mutual

/-- The kinds of the variables behind a node. -/
def nodeKinds? (kinds : Kinds) : Node → Option Kinds
  | .text _ => some kinds
  | .print e => (exprKind? kinds e).map fun _ => kinds
  | .assign name e => (exprKind? kinds e).map fun kind => (name, kind) :: kinds
  | .branch cases otherwise =>
    if casesKeep kinds cases && nodesKinds? kinds otherwise == some kinds then some kinds else none
  | .loop none item container body [] =>
    match exprKind? kinds container with
    | some (.list kind) =>
      if isContainer container && item != "loop" && (kinds.lookup "loop").isNone &&
          (nodesKinds? ((item, kind) :: kinds) body).isSome then some kinds
      else none
    | _ => none
  | .loop _ _ _ _ _ => none
  | .foreign _ _ => none

/-- The kinds of the variables behind nodes. -/
def nodesKinds? (kinds : Kinds) : List Node → Option Kinds
  | [] => some kinds
  | node :: rest => (nodeKinds? kinds node).bind fun kinds => nodesKinds? kinds rest

/-- Whether the cases of a branch pass the check and keep the kinds of the variables. -/
def casesKeep (kinds : Kinds) : List (Expr × List Node) → Bool
  | [] => true
  | (condition, body) :: rest =>
    isCondition kinds condition && nodesKinds? kinds body == some kinds && casesKeep kinds rest

end

/-! ### What the check promises -/

/-- A scope binds variables of the given kinds. -/
structure Scope.HasKinds (s : Scope) (kinds : Kinds) : Prop where
  frames : s.frames ≠ []
  binds : ∀ name kind, kinds.lookup name = some kind → ∃ value, s.Binds name value ∧ kind.Admits value

theorem Kinds.Admit.hasKinds {kinds : Kinds} {context : Context} (h : kinds.Admit context) :
    Scope.HasKinds ⟨[{}], context⟩ kinds := by
  refine ⟨List.cons_ne_nil _ _, fun name kind hname => ?_⟩
  obtain ⟨value, hvalue, hkind⟩ := h name kind hname
  exact ⟨value, Scope.binds_of_lookup hvalue, hkind⟩

section
variable {kinds : Kinds} {s : Scope}

theorem Scope.HasKinds.assign (hs : s.HasKinds kinds) {kind : ValueKind} {value : Document}
    (hvalue : kind.Admits value) (name : String) : (s.assign name value).HasKinds ((name, kind) :: kinds) := by
  refine ⟨?_, fun other k hother => ?_⟩
  · unfold Scope.assign
    cases hframes : s.frames with
    | nil => exact absurd hframes hs.frames
    | cons frame rest => exact List.cons_ne_nil _ _
  · rcases lookup_cons_eq_some hother with ⟨rfl, rfl⟩ | ⟨hne, hother⟩
    · exact ⟨value, Scope.binds_assign hs.frames other value, hvalue⟩
    · obtain ⟨old, hold, hkind⟩ := hs.binds other k hother
      exact ⟨old, hold.assign hne value, hkind⟩

theorem Scope.HasKinds.enter (hs : s.HasKinds kinds) (hloop : kinds.lookup "loop" = none) {item : String}
    (hitem : item ≠ "loop") {kind : ValueKind} {d : Document} (hd : kind.Admits d) (index count : Nat) :
    (s.enter ⟨none, item, d, index, count⟩).HasKinds ((item, kind) :: kinds) := by
  refine ⟨s.frames_enter_ne_nil _, fun name k hname => ?_⟩
  rcases lookup_cons_eq_some hname with ⟨rfl, rfl⟩ | ⟨hne, hname⟩
  · exact ⟨d, s.binds_enter hitem d index count, hd⟩
  · have hname' : name ≠ "loop" := by
      rintro rfl
      rw [hloop] at hname
      cases hname
    obtain ⟨value, hvalue, hkind⟩ := hs.binds name k hname
    exact ⟨value, hvalue.enter hname' hne d index count, hkind⟩

/-! #### Expressions -/

theorem exists_value_of_path? {head : String} {steps : List Access} {kind : ValueKind}
    (h : kinds.path? head steps = some kind) (hs : s.HasKinds kinds) :
    ∃ value, s.value head steps = .ok value ∧ kind.Admits value := by
  obtain ⟨keys, hkeys, hrest⟩ := Option.bind_eq_some_iff.1 h
  obtain ⟨headKind, hhead, hpart⟩ := Option.bind_eq_some_iff.1 hrest
  obtain ⟨whole, hbinds, hwhole⟩ := hs.binds head headKind hhead
  obtain ⟨value, hvalue, hkind⟩ := hwhole.at? hpart
  refine ⟨value, ?_, hkind⟩
  rw [eq_of_plainKeys? hkeys]
  exact value_of_binds hbinds hvalue

variable (r : Renderer)

/-- An expression whose term is of some kind goes on with its filters. -/
theorem evalExpr_of_termKind? {term : Term} {kind : ValueKind} {value : Document} {filters : List Call}
    (h : termKind? kinds term = some kind) (hvalue : evalTerm r s term = .ok value) :
    evalExpr r s (.mk term filters false) = evalFilters r s filters value := by
  cases term with
  | logic op lhs rhs => simp [termKind?] at h
  | _ =>
    simp only [evalExpr, hvalue, Except.bind]
    cases evalFilters r s filters value <;> rfl

mutual

theorem hasValue_of_termKind? (hs : s.HasKinds kinds) :
    ∀ (term : Term) {kind : ValueKind}, termKind? kinds term = some kind →
      (∃ value, evalTerm r s term = .ok value ∧ kind.Admits value) ∧
        ∀ t ∈ term.terms, t.HasValue r s
  | .text text, kind, h => by
    rw [termKind?] at h
    cases h
    exact ⟨⟨.string text, by rw [evalTerm], text, rfl⟩, by simp [Term.terms, Term.HasValue, evalTerm]⟩
  | .bool value, kind, h => by
    rw [termKind?] at h
    cases h
    exact ⟨⟨.bool value, by rw [evalTerm], value, rfl⟩, by simp [Term.terms, Term.HasValue, evalTerm]⟩
  | .path head steps, kind, h => by
    rw [termKind?] at h
    obtain ⟨value, hvalue, hkind⟩ := exists_value_of_path? h hs
    exact ⟨⟨value, by rw [evalTerm, hvalue], hkind⟩, by simp [Term.terms, Term.HasValue, evalTerm, hvalue]⟩
  | .call function, kind, h => by
    rw [termKind?] at h
    obtain ⟨rfl, ⟨text, htext⟩, hterms⟩ := hasValue_of_callKind? hs function h
    have hvalue : evalTerm r s (.call function) = .ok (.string text) := by
      rw [evalTerm, htext]
      rfl
    refine ⟨⟨.string text, hvalue, text, rfl⟩, ?_⟩
    rw [Term.terms, List.forall_mem_cons]
    exact ⟨⟨_, hvalue⟩, hterms⟩
  | .int _, kind, h => by simp [termKind?] at h
  | .float _, kind, h => by simp [termKind?] at h
  | .array _, kind, h => by simp [termKind?] at h
  | .logic _ _ _, kind, h => by simp [termKind?] at h

theorem hasValue_of_callKind? (hs : s.HasKinds kinds) :
    ∀ (function : Call) {kind : ValueKind}, callKind? kinds function = some kind →
      kind = .text ∧ (∃ text, evalCall r s function = .ok text) ∧
        ∀ t ∈ function.terms, t.HasValue r s
  | .mk name args, kind, h => by
    rw [callKind?] at h
    obtain ⟨f, hf, h⟩ := Option.bind_eq_some_iff.1 h
    obtain ⟨given, hgiven, h⟩ := Option.bind_eq_some_iff.1 h
    obtain ⟨htakes, hkind⟩ := Option.ite_none_right_eq_some.1 h
    cases hkind
    obtain ⟨⟨values, hvalues, hadmit⟩, hterms⟩ := hasValue_of_argKinds? hs args hgiven
    obtain ⟨text, htext⟩ := Function.exists_text htakes hadmit r.formatter
    refine ⟨rfl, ⟨text, ?_⟩, hterms⟩
    rw [evalCall, hf]
    simp only [hvalues, Except.bind, htext]

theorem hasValue_of_argKinds? (hs : s.HasKinds kinds) :
    ∀ (args : List (String × Expr)) {given : Kinds}, argKinds? kinds args = some given →
      (∃ values, evalArgs r s args = .ok values ∧ given.Admit values) ∧
        ∀ t ∈ argsTerms args, t.HasValue r s
  | [], given, h => by
    rw [argKinds?] at h
    cases h
    exact ⟨⟨[], by rw [evalArgs], Kinds.admit_nil []⟩, by simp [argsTerms]⟩
  | (name, e) :: rest, given, h => by
    rw [argKinds?] at h
    obtain ⟨kind, hkind, h⟩ := Option.bind_eq_some_iff.1 h
    obtain ⟨later, hlater, rfl⟩ := Option.map_eq_some_iff.1 h
    obtain ⟨⟨value, hvalue, hadmits⟩, hterms⟩ := hasValue_of_exprKind? hs e hkind
    obtain ⟨⟨values, hvalues, hadmit⟩, hmore⟩ := hasValue_of_argKinds? hs rest hlater
    refine ⟨⟨_, evalArgs_cons hvalue hvalues, hadmit.cons_cons hadmits name⟩, ?_⟩
    rw [argsTerms, List.forall_mem_append]
    exact ⟨hterms, hmore⟩

theorem hasValue_of_filtersKind? (hs : s.HasKinds kinds) :
    ∀ (filters : List Call) {start kind : ValueKind} {value : Document},
      filtersKind? kinds filters start = some kind → start.Admits value →
      (∃ result, evalFilters r s filters value = .ok result ∧ kind.Admits result) ∧
        ∀ t ∈ filtersTerms filters, t.HasValue r s
  | [], start, kind, value, h, hvalue => by
    rw [filtersKind?] at h
    cases h
    exact ⟨⟨value, by rw [evalFilters], hvalue⟩, by simp [filtersTerms]⟩
  | .mk name args :: rest, start, kind, value, h, hvalue => by
    rw [filtersKind?] at h
    obtain ⟨f, hf, h⟩ := Option.bind_eq_some_iff.1 h
    obtain ⟨given, hgiven, h⟩ := Option.bind_eq_some_iff.1 h
    obtain ⟨htakes, hrest⟩ := Option.ite_none_right_eq_some.1 h
    obtain ⟨⟨values, hvalues, hadmit⟩, hterms⟩ := hasValue_of_argKinds? hs args hgiven
    obtain ⟨text, htext⟩ := Filter.exists_apply htakes hadmit hvalue
    obtain ⟨⟨result, hresult, hkind⟩, hmore⟩ :=
      hasValue_of_filtersKind? hs rest hrest ⟨text, rfl⟩
    refine ⟨⟨result, ?_, hkind⟩, ?_⟩
    · rw [evalFilters, hf]
      simp only [hvalues, Except.bind, htext, hresult]
    · rw [filtersTerms, Call.terms, List.forall_mem_append]
      exact ⟨hterms, hmore⟩

/-- An expression of some kind has a value of the kind, and every term inside of it has a value. -/
theorem hasValue_of_exprKind? (hs : s.HasKinds kinds) :
    ∀ (e : Expr) {kind : ValueKind}, exprKind? kinds e = some kind →
      (∃ value, evalExpr r s e = .ok value ∧ kind.Admits value) ∧ ∀ t ∈ e.terms, t.HasValue r s
  | .mk term filters false, kind, h => by
    rw [exprKind?] at h
    obtain ⟨start, hstart, hfilters⟩ := Option.bind_eq_some_iff.1 h
    obtain ⟨⟨value, hvalue, hadmits⟩, hterms⟩ := hasValue_of_termKind? hs term hstart
    obtain ⟨⟨result, hresult, hkind⟩, hmore⟩ := hasValue_of_filtersKind? hs filters hfilters hadmits
    refine ⟨⟨result, ?_, hkind⟩, ?_⟩
    · rw [evalExpr_of_termKind? r hstart hvalue, hresult]
    · rw [Expr.terms, List.forall_mem_append]
      exact ⟨hterms, hmore⟩
  | .mk _ _ true, kind, h => by
    rw [exprKind?] at h
    cases h

end

theorem defined_of_isCondition (hs : s.HasKinds kinds) {condition : Expr}
    (h : isCondition kinds condition = true) :
    condition.Defined r s ∧ ∃ holds, truth r s condition = .ok holds := by
  unfold isCondition at h
  split at h
  · rename_i head steps
    obtain ⟨kind, hkind⟩ := Option.isSome_iff_exists.1 h
    have hexpr : exprKind? kinds (.mk (.path head steps) [] false) = some kind := by
      rw [exprKind?, termKind?, hkind]
      rfl
    obtain ⟨⟨value, hvalue, -⟩, hterms⟩ := hasValue_of_exprKind? r hs _ hexpr
    obtain ⟨part, hpart, -⟩ := exists_value_of_path? hkind hs
    exact ⟨⟨hterms, value, hvalue⟩, part.isTruthy, by simp [truth, hpart, evalFilters]⟩
  · cases h

/-! #### Nodes -/

/-- A loop runs to its end if its body does for each item. -/
theorem exists_runLoop {body : Scope → Except TemplateFault (String × Scope)} {name : String}
    {items : List Document}
    (h : ∀ item ∈ items, ∀ index count, ∃ result, body (s.enter ⟨none, name, item, index, count⟩) = .ok result)
    (count index : Nat) :
    ∃ text, runLoop body s none name count index (items.map fun item => (none, item)) = .ok text := by
  induction items generalizing index with
  | nil => exact ⟨"", rfl⟩
  | cons item rest ih =>
    obtain ⟨⟨text, s'⟩, hitem⟩ := h item List.mem_cons_self index count
    obtain ⟨more, hmore⟩ := ih (fun i hi => h i (List.mem_cons_of_mem item hi)) (index + 1)
    exact ⟨text ++ more, by simp [runLoop, hitem, hmore, Except.bind, Except.map]⟩

theorem loopItems_list {container : Expr} (h : isContainer container = true) (items : List Document) :
    loopItems none container (.list items) = .ok (items.map fun item => (none, item)) := by
  simp [loopItems, h, Document.isMapping, Document.items?]

end

mutual

theorem nodeDefined_of_nodeKinds? (r : Renderer) :
    ∀ (node : Node) {kinds after : Kinds} {s : Scope}, nodeKinds? kinds node = some after →
      s.HasKinds kinds → NodeDefined r node s ∧
        ∃ text s', renderNode r false node s = .ok (text, s') ∧ s'.HasKinds after
  | .text value, kinds, after, s, h, hs => by
    rw [nodeKinds?] at h
    cases h
    exact ⟨by rw [NodeDefined]; trivial, value, s, by rw [renderNode], hs⟩
  | .print e, kinds, after, s, h, hs => by
    rw [nodeKinds?] at h
    obtain ⟨kind, hkind, rfl⟩ := Option.map_eq_some_iff.1 h
    obtain ⟨⟨value, hvalue, -⟩, hterms⟩ := hasValue_of_exprKind? r hs e hkind
    refine ⟨by rw [NodeDefined]; exact ⟨hterms, value, hvalue⟩, printed false value, s, ?_, hs⟩
    rw [renderNode, hvalue]
    rfl
  | .assign name e, kinds, after, s, h, hs => by
    rw [nodeKinds?] at h
    obtain ⟨kind, hkind, rfl⟩ := Option.map_eq_some_iff.1 h
    obtain ⟨⟨value, hvalue, hadmits⟩, hterms⟩ := hasValue_of_exprKind? r hs e hkind
    refine ⟨by rw [NodeDefined]; exact ⟨hterms, value, hvalue⟩, "", s.assign name value, ?_,
      hs.assign hadmits name⟩
    rw [renderNode, hvalue]
    rfl
  | .branch cases otherwise, kinds, after, s, h, hs => by
    rw [nodeKinds?] at h
    obtain ⟨hpass, hafter⟩ := Option.ite_none_right_eq_some.1 h
    cases hafter
    simp only [Bool.and_eq_true, beq_iff_eq] at hpass
    obtain ⟨hcases, taken, htaken, hkeep⟩ := casesDefined_of_casesKeep r cases hpass.1 hs
    obtain ⟨hotherwise, text, s', hrender, hs'⟩ :=
      nodesDefined_of_nodesKinds? r otherwise hpass.2 hs
    refine ⟨by rw [NodeDefined]; exact ⟨hcases, hotherwise⟩, ?_⟩
    -- whichever case is taken, the variables behind the branch have the kinds they had before it
    cases taken with
    | none => exact ⟨text, s', by simp [renderNode, htaken, Except.bind, hrender], hs'⟩
    | some result =>
      exact ⟨result.1, result.2, by simp [renderNode, htaken, Except.bind], hkeep result rfl⟩
  | .loop (some _) _ _ _ _, kinds, after, s, h, _ => by
    rw [nodeKinds?.eq_def] at h
    cases h
  | .loop none _ _ _ (_ :: _), kinds, after, s, h, _ => by
    rw [nodeKinds?.eq_def] at h
    cases h
  | .loop none item container body [], kinds, after, s, h, hs => by
    rw [nodeKinds?] at h
    split at h
    · rename_i kind hkind
      obtain ⟨hpass, hafter⟩ := Option.ite_none_right_eq_some.1 h
      cases hafter
      simp only [Bool.and_eq_true, bne_iff_ne, ne_eq, Option.isNone_iff_eq_none,
        Option.isSome_iff_exists] at hpass
      obtain ⟨⟨⟨hcontainer, hitem⟩, hloop⟩, inner, hinner⟩ := hpass
      obtain ⟨⟨value, hvalue, items, rfl, hitems⟩, hterms⟩ :=
        hasValue_of_exprKind? r hs container hkind
      -- in the body the item is one more variable; what the body assigns goes away with its frame
      have hbody : ∀ d ∈ items, ∀ index count, NodesDefined r body
            (s.enter ⟨none, item, d, index, count⟩) ∧
          ∃ result, renderNodes r false body (s.enter ⟨none, item, d, index, count⟩) = .ok result := by
        intro d hd index count
        obtain ⟨hdefined, text, s', hrender, -⟩ := nodesDefined_of_nodesKinds? r body hinner
          (hs.enter hloop hitem (hitems d hd) index count)
        exact ⟨hdefined, _, hrender⟩
      constructor
      · rw [NodeDefined]
        refine ⟨⟨hterms, _, hvalue⟩, by rw [NodesDefined]; trivial, ?_⟩
        intro value' entries hvalue' hentries entry hentry index count
        rw [hvalue] at hvalue'
        cases hvalue'
        rw [loopItems_list hcontainer] at hentries
        cases hentries
        obtain ⟨d, hd, rfl⟩ := List.mem_map.1 hentry
        exact (hbody d hd index count).1
      · obtain ⟨text, htext⟩ :=
          exists_runLoop (fun d hd index count => (hbody d hd index count).2) items.length 0
        refine ⟨if items.isEmpty then "" else text, s, ?_, hs⟩
        rw [renderNode, hvalue]
        simp only [Except.bind, loopItems_list hcontainer]
        cases items with
        | nil => simp [renderNodes]
        | cons d rest =>
          rw [List.length_map, htext]
          rfl
    · cases h

/-- **Nodes that pass the check are defined** in every scope that binds variables of the given kinds, they
render there, and they leave a scope with variables of the kinds that the check gives. -/
theorem nodesDefined_of_nodesKinds? (r : Renderer) :
    ∀ (nodes : List Node) {kinds after : Kinds} {s : Scope}, nodesKinds? kinds nodes = some after →
      s.HasKinds kinds → NodesDefined r nodes s ∧
        ∃ text s', renderNodes r false nodes s = .ok (text, s') ∧ s'.HasKinds after
  | [], kinds, after, s, h, hs => by
    rw [nodesKinds?] at h
    cases h
    exact ⟨by rw [NodesDefined]; trivial, "", s, by rw [renderNodes], hs⟩
  | node :: rest, kinds, after, s, h, hs => by
    rw [nodesKinds?] at h
    obtain ⟨between, hbetween, hrest⟩ := Option.bind_eq_some_iff.1 h
    obtain ⟨hnode, text, s₁, hrender, hs₁⟩ := nodeDefined_of_nodeKinds? r node hbetween hs
    obtain ⟨hnodes, more, s₂, hrenders, hs₂⟩ := nodesDefined_of_nodesKinds? r rest hrest hs₁
    refine ⟨?_, text ++ more, s₂, renderNodes_cons hrender hrenders, hs₂⟩
    rw [NodesDefined]
    exact ⟨hnode, text, s₁, hrender, hnodes⟩

theorem casesDefined_of_casesKeep (r : Renderer) :
    ∀ (cases : List (Expr × List Node)) {kinds : Kinds} {s : Scope}, casesKeep kinds cases = true →
      s.HasKinds kinds → CasesDefined r cases s ∧
        ∃ taken, renderCases r false cases s = .ok taken ∧
          ∀ result, taken = some result → result.2.HasKinds kinds
  | [], kinds, s, _, _ => by
    refine ⟨by rw [CasesDefined]; trivial, none, by rw [renderCases], fun result h => by cases h⟩
  | (condition, body) :: rest, kinds, s, h, hs => by
    rw [casesKeep] at h
    simp only [Bool.and_eq_true, beq_iff_eq] at h
    obtain ⟨⟨hcondition, hbody⟩, hrest⟩ := h
    obtain ⟨hdefined, holds, hholds⟩ := defined_of_isCondition r hs hcondition
    obtain ⟨hnodes, text, s', hrender, hs'⟩ := nodesDefined_of_nodesKinds? r body hbody hs
    obtain ⟨hcases, taken, htaken, hkeep⟩ := casesDefined_of_casesKeep r rest hrest hs
    refine ⟨by rw [CasesDefined]; exact ⟨hdefined, hnodes, hcases⟩, ?_⟩
    cases holds with
    | true =>
      refine ⟨some (text, s'), by simp [renderCases, hholds, hrender, Except.bind, Except.map], ?_⟩
      intro result hresult
      cases hresult
      exact hs'
    | false => exact ⟨taken, by simp [renderCases, hholds, htaken, Except.bind], hkeep⟩

end

end Faceting.Template
