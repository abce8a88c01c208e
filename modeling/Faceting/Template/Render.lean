import Faceting.Template.Function

/-!
# Rendering

`renderNodes` writes a list of nodes. Expressions have two readings: as a value (`evalExpr`), for which
everything that they mention has to be defined, and as a condition (`truth`), in which a variable that
leads nowhere is false. Assignments change the innermost frame of the scope, so a scope goes through
the nodes from left to right. What a template that is left to the engine writes is for the engine to say.
-/

namespace Faceting.Template

/-- Compares two values: any two for equality, numbers for their order. A number neither equals nor
differs from what is no number. -/
def compareValues (op : Operator) (a b : Document) : Except TemplateFault Bool :=
  match op with
  | .eq => .ok (a.equals b)
  | .ne => .ok (a.toDouble?.isSome == b.toDouble?.isSome && !a.equals b)
  | op =>
    match a.toDouble?, b.toDouble? with
    | some x, some y =>
      let l := Double.toUnits x
      let r := Double.toUnits y
      .ok (match op with
        | .lt => l < r
        | .le => l ≤ r
        | .gt => l > r
        | .ge => l ≥ r
        | _ => false)
    | _, _ => .error .notNumber

/-! ### Expressions -/

mutual

/-- The value of a term. -/
def evalTerm (r : Renderer) (s : Scope) : Term → Except TemplateFault Document
  | .text value => .ok (.string value)
  | .int value => .ok (.int value)
  | .float bits => .ok (.float bits)
  | .bool value => .ok (.bool value)
  | .path head steps => s.value head steps
  | .call function => (evalCall r s function).map .string
  | .standard site f args =>
    (evalArgs r s args).bind fun args => f.value r.host.surroundings ⟨site, s⟩ args
  | .array items => (evalItems r s items).map .list
  | .logic .and lhs rhs =>
    (truth r s lhs).bind fun l =>
      if l then (truth r s rhs).map .bool else .ok (.bool false)
  | .logic .or lhs rhs =>
    (truth r s lhs).bind fun l =>
      if l then .ok (.bool true) else (truth r s rhs).map .bool
  | .logic op lhs rhs =>
    (evalExpr r s lhs).bind fun l =>
      (evalExpr r s rhs).bind fun r => (compareValues op l r).map .bool

/-- The text that a function makes. The function has to be known before its arguments are looked at. -/
def evalCall (r : Renderer) (s : Scope) : Call → Except TemplateFault String
  | .mk name args =>
    match Function.ofName? name with
    | none => .error (.unknownFunction name)
    | some f => (evalArgs r s args).bind fun args => f.text r.formatter args

/-- The values of named arguments. -/
def evalArgs (r : Renderer) (s : Scope) :
    List (String × Expr) → Except TemplateFault Arguments
  | [] => .ok []
  | (name, e) :: rest =>
    (evalExpr r s e).bind fun value => (evalArgs r s rest).map ((name, value) :: ·)

/-- The values of the items of a list. -/
def evalItems (r : Renderer) (s : Scope) : List Expr → Except TemplateFault (List Document)
  | [] => .ok []
  | e :: rest =>
    (evalExpr r s e).bind fun value => (evalItems r s rest).map (value :: ·)

/-- A value behind filters. -/
def evalFilters (r : Renderer) (s : Scope) :
    List Call → Document → Except TemplateFault Document
  | [], value => .ok value
  | .mk name args :: rest, value =>
    match Filter.ofName? name with
    | none => .error (.unknownFilter name)
    | some f =>
      (evalArgs r s args).bind fun args =>
        (f.apply args value).bind fun value => evalFilters r s rest value

/-- The value of an expression. A negated variable that leads nowhere is true; a condition that is
negated is negated once as a condition and once more as a value. -/
def evalExpr (r : Renderer) (s : Scope) : Expr → Except TemplateFault Document
  | .mk term filters negated =>
    let start := evalTerm r s term
    match term, start with
    | .path _ _, .error fault => if negated then .ok (.bool true) else .error fault
    | .logic _ _ _, .ok (.bool b) =>
      (evalFilters r s filters (.bool (b != negated))).map fun value =>
        if negated then .bool (!value.isTruthy) else value
    | _, start =>
      start.bind fun value =>
        (evalFilters r s filters value).map fun value =>
          if negated then .bool (!value.isTruthy) else value

/-- The truth of an expression as a condition. A variable is judged behind its filters, and is false
where it or they fail; a function has to give a boolean; other terms are judged without filters. -/
def truth (r : Renderer) (s : Scope) : Expr → Except TemplateFault Bool
  | .mk term filters negated =>
    match term with
    | .path head steps =>
      match s.value head steps with
      | .error _ => .ok negated
      | .ok value =>
        match evalFilters r s filters value with
        | .error _ => .ok false
        | .ok value => .ok (value.isTruthy != negated)
    | .call function => (evalCall r s function).bind fun _ => .error .notCondition
    | .standard site f args =>
      (evalArgs r s args).bind fun args =>
        (f.value r.host.surroundings ⟨site, s⟩ args).bind fun value =>
          match value with
          | .bool b => .ok (b != negated)
          | _ => .error .notCondition
    | .array _ => .error .notCondition
    | term => (evalTerm r s term).map (·.isTruthy != negated)

end

/-! ### Nodes -/

/-- The characters that are written as references where a template is markup. -/
def escapeChar : Char → String
  | '&' => "&amp;"
  | '<' => "&lt;"
  | '>' => "&gt;"
  | '"' => "&quot;"
  | '\'' => "&#x27;"
  | '/' => "&#x2F;"
  | c => String.ofList [c]

/-- A text with the characters of markup written as references. -/
def escapeText (text : String) : String :=
  text.toList.foldl (fun out c => out ++ escapeChar c) ""

/-- A value in print; in markup, texts are escaped. -/
def printed (markup : Bool) (value : Document) : String :=
  match value with
  | .string text => if markup then escapeText text else text
  | value => value.display

/-- Whether the container of a loop is one that may be looped over: a variable, a function or a list. -/
def isContainer : Expr → Bool
  | .mk (.path _ _) _ _ => true
  | .mk (.call _) _ _ => true
  | .mk (.standard _ _ _) _ _ => true
  | .mk (.array _) _ _ => true
  | _ => false

/-- The items of a loop. Keys are named for mappings and for nothing else. -/
def loopItems (key : Option String) (container : Expr) (value : Document) :
    Except TemplateFault (List (Option String × Document)) :=
  if isContainer container && key.isSome == value.isMapping then
    match value.items? with
    | some items => .ok items
    | none => .error .notIterable
  else .error .notIterable

/-- Runs the body of a loop over the items from a number on. -/
def runLoop (body : Scope → Except TemplateFault (String × Scope)) (s : Scope) (key : Option String)
    (name : String) (count : Nat) :
    Nat → List (Option String × Document) → Except TemplateFault String
  | _, [] => .ok ""
  | index, (itemKey, item) :: rest =>
    let named := key.bind fun name => itemKey.map fun key => (name, key)
    (body (s.enter ⟨named, name, item, index, count⟩)).bind fun (text, _) =>
      (runLoop body s key name count (index + 1) rest).map (text ++ ·)

mutual

/-- Writes a node. -/
def renderNode (r : Renderer) (markup : Bool) :
    Node → Scope → Except TemplateFault (String × Scope)
  | .text value, s => .ok (value, s)
  | .print e, s => (evalExpr r s e).map fun value => (printed markup value, s)
  | .assign name e, s => (evalExpr r s e).map fun value => ("", s.assign name value)
  | .branch cases otherwise, s =>
    (renderCases r markup cases s).bind fun taken =>
      match taken with
      | some result => .ok result
      | none => renderNodes r markup otherwise s
  | .loop key name container body empty, s =>
    (evalExpr r s container).bind fun value =>
      (loopItems key container value).bind fun items =>
        if items.isEmpty then renderNodes r markup empty s
        else
          (runLoop (fun s => renderNodes r markup body s) s key name items.length 0 items).map
            fun text => (text, s)
  | .foreign name source, s => (r.foreign name source s).map fun text => (text, s)

/-- Writes nodes one after the other. -/
def renderNodes (r : Renderer) (markup : Bool) :
    List Node → Scope → Except TemplateFault (String × Scope)
  | [], s => .ok ("", s)
  | node :: rest, s =>
    (renderNode r markup node s).bind fun (text, s) =>
      (renderNodes r markup rest s).map fun (more, s) => (text ++ more, s)

/-- Writes the first body whose condition holds. -/
def renderCases (r : Renderer) (markup : Bool) :
    List (Expr × List Node) → Scope → Except TemplateFault (Option (String × Scope))
  | [], _ => .ok none
  | (condition, body) :: rest, s =>
    (truth r s condition).bind fun holds =>
      if holds then (renderNodes r markup body s).map some
      else renderCases r markup rest s

end

/-- The text of a template in a context. -/
def render (r : Renderer) (markup : Bool) (nodes : List Node) (context : Context) :
    Except TemplateFault String :=
  (renderNodes r markup nodes ⟨[{}], context⟩).map (·.1)

end Faceting.Template
