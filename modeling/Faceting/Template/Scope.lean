import Faceting.Template.Fault
import Faceting.Template.Tree
import Faceting.Template.Value

/-!
# Scopes of templates

Where the variables of a template get their values. A loop opens a frame that holds its current item
and what is assigned inside its body; around all frames stands the context that the template is
rendered in. A path is looked up from the innermost frame outwards, and the first place in which the
whole path leads to a value wins.
-/

namespace Faceting.Template

/-- The variables that a template is rendered with. -/
abbrev Context := List (String × Document)

/-- The context with a variable set. -/
def Context.insert (key : String) (value : Document) : Context → Context
  | [] => [(key, value)]
  | (k, v) :: rest => if k = key then (key, value) :: rest else (k, v) :: insert key value rest

/-- The state of a loop. -/
structure Iteration where
  /-- The name of the variable for keys, and the key. -/
  key : Option (String × String)
  /-- The name of the variable for items. -/
  name : String
  item : Document
  /-- The number of the item, from zero on. -/
  index : Nat
  /-- The number of all items. -/
  count : Nat

/-- A frame: what was assigned in it, and the loop that opened it. -/
structure Frame where
  assigned : Context := []
  iteration : Option Iteration := none

/-- The frames, innermost first, and the context around them. -/
structure Scope where
  frames : List Frame := [{}]
  context : Context

/-- What a loop says about itself. -/
def Iteration.property? (it : Iteration) : String → Option Document
  | "index" => some (.int (it.index + 1))
  | "index0" => some (.int it.index)
  | "first" => some (.bool (it.index == 0))
  | "last" => some (.bool (it.index + 1 == it.count))
  | _ => none

/-- The value of a path in a loop. -/
def Iteration.find? (it : Iteration) (head : String) (steps : List String) : Option Document :=
  let own :=
    match head, steps with
    | "loop", [property] => it.property? property
    | _, _ => none
  match own with
  | some value => some value
  | none =>
    match it.key with
    | some (name, key) =>
      if head = name ∧ steps = [] then some (.string key)
      else if head = it.name then it.item.at? steps
      else none
    | none => if head = it.name then it.item.at? steps else none

/-- The value of a path in a frame: what was assigned comes first. -/
def Frame.find? (f : Frame) (head : String) (steps : List String) : Option Document :=
  match (f.assigned.lookup head).bind (·.at? steps) with
  | some value => some value
  | none => f.iteration.bind (·.find? head steps)

namespace Scope

/-- The value of a path. -/
def find? (s : Scope) (head : String) (steps : List String) : Option Document :=
  match s.frames.findSome? (·.find? head steps) with
  | some value => some value
  | none => (s.context.lookup head).bind (·.at? steps)

/-- Assigns a variable in the innermost frame. -/
def assign (s : Scope) (name : String) (value : Document) : Scope :=
  match s.frames with
  | frame :: rest =>
    { s with frames := { frame with assigned := Context.insert name value frame.assigned } :: rest }
  | [] => s

/-- Opens a frame for an item of a loop. -/
def enter (s : Scope) (iteration : Iteration) : Scope :=
  { s with frames := { iteration := some iteration } :: s.frames }

end Scope

/-- The text of a value that is used as a key or position. -/
def accessText : Document → Option String
  | .string text => some text
  | .int n => some (toString n)
  | _ => none

mutual

/-- The keys and positions of a path, with variables replaced by their values. -/
def resolveSteps (s : Scope) : List Access → Except TemplateFault (List String)
  | [] => .ok []
  | step :: rest =>
    (resolveStep s step).bind fun text => (resolveSteps s rest).map (text :: ·)

/-- The key or position of one step. -/
def resolveStep (s : Scope) : Access → Except TemplateFault String
  | .key text => .ok text
  | .lookup head steps =>
    (resolveSteps s steps).bind fun keys =>
      match (s.find? head keys).bind accessText with
      | some text => .ok text
      | none => .error (.undefined head)

end

/-- The value of a variable and the steps into it. -/
def Scope.value (s : Scope) (head : String) (steps : List Access) : Except TemplateFault Document :=
  (resolveSteps s steps).bind fun keys =>
    match s.find? head keys with
    | some value => .ok value
    | none => .error (.undefined head)

end Faceting.Template
