/-!
# Templates

A template is a list of nodes: fixed text, expressions to print, assignments, branches and loops. The
trees here are what remains of a template once the white space that its tags ask to remove is gone.

This is a part of a larger language. It has inheritance and blocks, includes, macros, sections of filters,
arithmetic, tests and many more filters, by which a template may reach any other template. A template that
uses something of the kind is not taken apart: it is a node of its own (`Node.foreign`), which holds its text
and is left to the engine of the language.
-/

namespace Faceting.Template

/-- A step from a value into one of its parts: a key or position as text, or the value of a variable. -/
inductive Access where
  | key (text : String)
  | lookup (head : String) (steps : List Access)
deriving Repr, Inhabited

/-- The operators of conditions. -/
inductive Operator where
  | and
  | or
  | eq
  | ne
  | lt
  | le
  | gt
  | ge
deriving DecidableEq, Repr, Inhabited

/-- The functions that the template language brings along. -/
inductive Standard where
  /-- The numbers of a range. -/
  | range
  /-- Makes rendering fail. -/
  | failure
  /-- The time. -/
  | now
  /-- A random number. -/
  | random
  /-- A variable of the environment. -/
  | environment
deriving DecidableEq, Repr, Inhabited

namespace Standard

/-- The name of a function in templates. -/
def name : Standard → String
  | .range => "range"
  | .failure => "throw"
  | .now => "now"
  | .random => "get_random"
  | .environment => "get_env"

/-- All functions of the language. -/
def all : List Standard :=
  [.range, .failure, .now, .random, .environment]

/-- The function of the language with a given name. -/
def ofName? (name : String) : Option Standard :=
  all.find? (·.name == name)

/-- Whether a function asks for something outside of templates and their variables. -/
def asks : Standard → Bool
  | .range => false
  | .failure => false
  | .now => true
  | .random => true
  | .environment => true

end Standard

mutual

/-- What an expression starts with. -/
inductive Term where
  | text (value : String)
  | int (value : Int)
  | float (bits : UInt64)
  | bool (value : Bool)
  | path (head : String) (steps : List Access)
  | call (function : Call)
  /-- A call of a function of the language. The site tells calls in one template apart. -/
  | standard (site : Nat) (function : Standard) (args : List (String × Expr))
  | array (items : List Expr)
  | logic (op : Operator) (lhs rhs : Expr)

/-- A term, the filters that its value goes through, and whether the result is negated. -/
inductive Expr where
  | mk (term : Term) (filters : List Call) (negated : Bool)

/-- A function or filter with its named arguments. -/
inductive Call where
  | mk (name : String) (args : List (String × Expr))

end

instance : Inhabited Term := ⟨.bool false⟩
instance : Inhabited Expr := ⟨.mk default [] false⟩
instance : Inhabited Call := ⟨.mk "" []⟩

/-- A node of a template. -/
inductive Node where
  /-- Text to be written as it stands. -/
  | text (value : String)
  /-- An expression whose value is written. -/
  | print (expr : Expr)
  /-- An assignment to a variable. -/
  | assign (name : String) (expr : Expr)
  /-- The first body whose condition holds, else the last one. -/
  | branch (cases : List (Expr × List Node)) (otherwise : List Node)
  /-- A body for each item of a container, or another body if there is none. -/
  | loop (key : Option String) (item : String) (container : Expr) (body empty : List Node)
  /-- A template that uses more of the language than is written out here. -/
  | foreign (name source : String)
deriving Inhabited

/-- Whether a node is left to the engine. -/
def Node.isForeign : Node → Bool
  | .foreign _ _ => true
  | _ => false

namespace Expr

/-- An expression without filters that is not negated. -/
def ofTerm (t : Term) : Expr :=
  .mk t [] false

/-- A variable, with keys into its value. -/
def var (head : String) (keys : List String) : Expr :=
  ofTerm (.path head (keys.map .key))

/-- A call of a function. -/
def call (name : String) (args : List (String × Expr)) : Expr :=
  ofTerm (.call (.mk name args))

/-- A boolean. -/
def bool (value : Bool) : Expr :=
  ofTerm (.bool value)

/-- A text. -/
def text (value : String) : Expr :=
  ofTerm (.text value)

/-- An expression that goes through one more filter. -/
def filter (e : Expr) (name : String) (args : List (String × Expr)) : Expr :=
  match e with
  | .mk term filters negated => .mk term (filters ++ [.mk name args]) negated

end Expr

end Faceting.Template
