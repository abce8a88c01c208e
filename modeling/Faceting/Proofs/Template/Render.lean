import Faceting.Template.Render

/-!
# Rules of rendering

Two notions carry every statement about what a template writes.

* `Scope.Binds`: a variable has a value, so that each part of the value is found under its path. Opening
  a loop binds its item and keeps the other variables (`Scope.binds_enter`, `Scope.Binds.enter`), and so
  does an assignment (`Scope.binds_assign`, `Scope.Binds.assign`).
* `Renders`: nodes write a text and leave the scope as it is. There is one rule for each kind of node
  and one for nodes that follow each other (`Renders.append`).
-/

namespace Faceting.Template

/-! ### Variables -/

/-- A variable has a value: every part of the value is found under its path. -/
def Scope.Binds (s : Scope) (name : String) (value : Document) : Prop :=
  ∀ steps part, value.at? steps = some part → s.find? name steps = some part

namespace Scope

theorem binds_of_lookup {context : Context} {name : String} {value : Document}
    (h : context.lookup name = some value) : Binds ⟨[{}], context⟩ name value := by
  intro steps part hpart
  show (context.lookup name).bind (·.at? steps) = some part
  rw [h]
  exact hpart

/-- The item of a loop is bound in its body. -/
theorem binds_enter (s : Scope) {name : String} (hloop : name ≠ "loop") (item : Document)
    (index count : Nat) : (s.enter ⟨none, name, item, index, count⟩).Binds name item := by
  intro steps part hpart
  have hitem : Iteration.find? ⟨none, name, item, index, count⟩ name steps = some part := by
    unfold Iteration.find?
    split
    · exact absurd rfl hloop
    · simpa using hpart
  simp [find?, enter, Frame.find?, hitem]

/-- What is bound outside of a loop is bound in its body, unless the loop takes the name. -/
theorem Binds.enter {s : Scope} {name : String} {value : Document} (h : s.Binds name value)
    (hloop : name ≠ "loop") {item : String} (hitem : name ≠ item) (d : Document) (index count : Nat) :
    (s.enter ⟨none, item, d, index, count⟩).Binds name value := by
  intro steps part hpart
  have hnone : Iteration.find? ⟨none, item, d, index, count⟩ name steps = none := by
    unfold Iteration.find?
    split
    · exact absurd rfl hloop
    · simp [hitem]
  have hs := h steps part hpart
  unfold find? at hs ⊢
  simpa [Scope.enter, Frame.find?, hnone] using hs

end Scope

theorem lookup_insert_self (name : String) (value : Document) (c : Context) :
    (c.insert name value).lookup name = some value := by
  induction c with
  | nil => simp [Context.insert]
  | cons entry rest ih =>
    obtain ⟨key, old⟩ := entry
    unfold Context.insert
    split
    · simp
    · rename_i hkey
      simpa [List.lookup_cons, beq_false_of_ne (Ne.symm hkey)] using ih

theorem lookup_insert_ne {name other : String} (h : other ≠ name) (value : Document) (c : Context) :
    (c.insert name value).lookup other = c.lookup other := by
  induction c with
  | nil => simp [Context.insert, List.lookup_cons, beq_false_of_ne h]
  | cons entry rest ih =>
    obtain ⟨key, old⟩ := entry
    unfold Context.insert
    split
    · rename_i hkey
      simp [List.lookup_cons, hkey, beq_false_of_ne h]
    · simp only [List.lookup_cons, ih]

namespace Scope

/-- A variable has the value that was assigned to it in the innermost frame. -/
theorem binds_assign {s : Scope} (hframes : s.frames ≠ []) (name : String) (value : Document) :
    (s.assign name value).Binds name value := by
  intro steps part hpart
  unfold assign
  cases hs : s.frames with
  | nil => exact absurd hs hframes
  | cons frame rest => simp [find?, Frame.find?, lookup_insert_self, hpart]

theorem Binds.assign {s : Scope} {name : String} {value : Document} (h : s.Binds name value)
    {other : String} (hother : name ≠ other) (d : Document) : (s.assign other d).Binds name value := by
  intro steps part hpart
  have hs := h steps part hpart
  unfold Scope.assign
  cases hframes : s.frames with
  | nil => simpa [hframes] using hs
  | cons frame rest =>
    unfold find? at hs ⊢
    simpa [hframes, List.findSome?_cons, Frame.find?, lookup_insert_ne hother] using hs

theorem frames_enter_ne_nil (s : Scope) (it : Iteration) : (s.enter it).frames ≠ [] :=
  List.cons_ne_nil _ _

end Scope

/-! ### Expressions -/

theorem resolveSteps_keys (s : Scope) (keys : List String) :
    resolveSteps s (keys.map .key) = .ok keys := by
  induction keys with
  | nil => rfl
  | cons key rest ih =>
    rw [List.map_cons, resolveSteps, resolveStep, ih]
    rfl

section
variable {s : Scope} {name : String} {value part : Document} {keys : List String}

theorem value_of_binds (h : s.Binds name value) (hpart : value.at? keys = some part) :
    s.value name (keys.map .key) = .ok part := by
  unfold Scope.value
  rw [resolveSteps_keys]
  simp [Except.bind, h keys part hpart]

theorem evalExpr_var (r : Renderer) (h : s.Binds name value)
    (hpart : value.at? keys = some part) : evalExpr r s (.var name keys) = .ok part := by
  unfold Expr.var Expr.ofTerm
  simp [evalExpr, evalTerm, value_of_binds h hpart, evalFilters, Except.bind, Except.map]

/-- A variable as a condition is judged by its value. -/
theorem truth_var (r : Renderer) (h : s.Binds name value)
    (hpart : value.at? keys = some part) : truth r s (.var name keys) = .ok part.isTruthy := by
  unfold Expr.var Expr.ofTerm
  simp [truth, value_of_binds h hpart, evalFilters]

end

/-! ### Nodes -/

/-- Nodes write a text, outside of markup, and leave the scope as it is. -/
def Renders (r : Renderer) (s : Scope) (nodes : List Node) (text : String) : Prop :=
  renderNodes r false nodes s = .ok (text, s)

section
variable {r : Renderer} {s : Scope}

theorem Renders.nil : Renders r s [] "" := rfl

theorem renderNodes_cons {node : Node} {rest : List Node} {text more : String} {s' s'' : Scope}
    (hnode : renderNode r false node s = .ok (text, s'))
    (hrest : renderNodes r false rest s' = .ok (more, s'')) :
    renderNodes r false (node :: rest) s = .ok (text ++ more, s'') := by
  rw [renderNodes, hnode]
  simp [Except.bind, Except.map, hrest]

/-- Nodes that follow each other write their texts one after the other. -/
theorem renderNodes_append {first rest : List Node} {text more : String} {s' s'' : Scope}
    (hfirst : renderNodes r false first s = .ok (text, s'))
    (hrest : renderNodes r false rest s' = .ok (more, s'')) :
    renderNodes r false (first ++ rest) s = .ok (text ++ more, s'') := by
  induction first generalizing s text with
  | nil =>
    cases hfirst
    rw [List.nil_append, String.empty_append]
    exact hrest
  | cons node nodes ih =>
    rw [renderNodes] at hfirst
    cases hnode : renderNode r false node s with
    | error e =>
      rw [hnode] at hfirst
      cases hfirst
    | ok result =>
      obtain ⟨start, s₁⟩ := result
      rw [hnode] at hfirst
      cases hnodes : renderNodes r false nodes s₁ with
      | error e =>
        simp [Except.bind, hnodes, Except.map] at hfirst
      | ok result =>
        obtain ⟨later, s₂⟩ := result
        simp only [Except.bind, hnodes, Except.map, Except.ok.injEq, Prod.mk.injEq] at hfirst
        obtain ⟨rfl, rfl⟩ := hfirst
        rw [List.cons_append, String.append_assoc]
        exact renderNodes_cons hnode (ih hnodes)

theorem Renders.append {first rest : List Node} {text more : String} (hfirst : Renders r s first text)
    (hrest : Renders r s rest more) : Renders r s (first ++ rest) (text ++ more) :=
  renderNodes_append hfirst hrest

theorem Renders.cons {node : Node} {rest : List Node} {text more : String}
    (hnode : Renders r s [node] text) (hrest : Renders r s rest more) :
    Renders r s (node :: rest) (text ++ more) :=
  hnode.append hrest

theorem renders_text (value : String) : Renders r s [.text value] value := by
  simp [Renders, renderNodes, renderNode, Except.bind, Except.map]

theorem renders_print {e : Expr} {value : Document} (h : evalExpr r s e = .ok value) :
    Renders r s [.print e] (printed false value) := by
  simp [Renders, renderNodes, renderNode, Except.bind, Except.map, h]

/-- An assignment writes nothing, and what follows it sees the value. -/
theorem renderNodes_assign {name : String} {e : Expr} {value : Document} {rest : List Node}
    {text : String} (h : evalExpr r s e = .ok value)
    (hrest : Renders r (s.assign name value) rest text) :
    renderNodes r false (.assign name e :: rest) s = .ok (text, s.assign name value) := by
  have hnode : renderNode r false (.assign name e) s = .ok ("", s.assign name value) := by
    simp [renderNode, h, Except.map]
  simpa using renderNodes_cons hnode hrest

/-- A branch writes its first body whose condition holds. -/
theorem renders_branch_cons {condition : Expr} {body otherwise : List Node}
    {cases : List (Expr × List Node)} {holds : Bool} {text : String}
    (hcondition : truth r s condition = .ok holds)
    (hbody : holds = true → Renders r s body text)
    (hrest : holds = false → Renders r s [.branch cases otherwise] text) :
    Renders r s [.branch ((condition, body) :: cases) otherwise] text := by
  cases holds with
  | true =>
    have hbody' : renderNodes r false body s = .ok (text, s) := hbody rfl
    simp [Renders, renderNodes, renderNode, renderCases, hcondition, hbody', Except.bind, Except.map]
  | false =>
    have hrest' : Renders r s [.branch cases otherwise] text := hrest rfl
    simpa [Renders, renderNodes, renderNode, renderCases, hcondition, Except.bind] using hrest'

theorem renders_branch_nil {otherwise : List Node} {text : String}
    (h : Renders r s otherwise text) : Renders r s [.branch [] otherwise] text := by
  have h' : renderNodes r false otherwise s = .ok (text, s) := h
  simp [Renders, renderNodes, renderNode, renderCases, h', Except.bind, Except.map]

/-! ### Loops -/

/-- A loop writes the texts of its items one after the other. -/
theorem runLoop_eq {α : Type} {body : Scope → Except TemplateFault (String × Scope)} {name : String}
    (item : α → Document) (block : α → String) {xs : List α}
    (h : ∀ x ∈ xs, ∀ index count,
      ∃ s', body (s.enter ⟨none, name, item x, index, count⟩) = .ok (block x, s'))
    (count index : Nat) :
    runLoop body s none name count index (xs.map fun x => (none, item x))
      = .ok ((xs.map block).foldr (· ++ ·) "") := by
  induction xs generalizing index with
  | nil => rfl
  | cons x rest ih =>
    obtain ⟨s', hx⟩ := h x List.mem_cons_self index count
    have hrest := ih (fun y hy => h y (List.mem_cons_of_mem x hy)) (index + 1)
    simp [runLoop, hx, hrest, Except.bind, Except.map]

/-- A loop over a list writes a block for each item. -/
theorem renders_loop {α : Type} {name head : String} {keys : List String} {body : List Node}
    {value : Document} (item : α → Document) (block : α → String) {xs : List α}
    (hbinds : s.Binds head value) (hlist : value.at? keys = some (.list (xs.map item)))
    (h : ∀ x ∈ xs, ∀ index count,
      ∃ s', renderNodes r false body (s.enter ⟨none, name, item x, index, count⟩)
        = .ok (block x, s')) :
    Renders r s [.loop none name (.var head keys) body []] ((xs.map block).foldr (· ++ ·) "") := by
  have hitems : loopItems none (.var head keys) (.list (xs.map item))
      = .ok (xs.map fun x => (none, item x)) := by
    simp [loopItems, Expr.var, Expr.ofTerm, isContainer, Document.isMapping, Document.items?]
  have hnode : renderNode r false (.loop none name (.var head keys) body []) s
      = .ok ((xs.map block).foldr (· ++ ·) "", s) := by
    rw [renderNode, evalExpr_var r hbinds hlist]
    simp only [Except.bind, hitems]
    cases xs with
    | nil => simp [renderNodes]
    | cons x rest =>
      rw [runLoop_eq item block h]
      simp [Except.map]
  simpa [Renders] using renderNodes_cons hnode Renders.nil

end

end Faceting.Template
