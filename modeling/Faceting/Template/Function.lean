import Faceting.Schema.Encoding
import Faceting.Template.Host
import Faceting.Text.Casing

/-!
# Functions and filters of templates

Templates call the operations of a `Formatter` as functions (`Function`), call functions that the language
brings along (`Standard`), and pass values through filters. All of them take named arguments; arguments that
are not asked for do not matter. Of the filters of the language only three are written out here, besides the
filter for documentation that templates of this library use.
-/

namespace Faceting.Template

/-- Named arguments. -/
abbrev Arguments := List (String × Document)

/-- An argument that a function or filter asks for. -/
def argument (function name : String) (args : Arguments) : Except TemplateFault Document :=
  match args.lookup name with
  | some value => .ok value
  | none => .error (.missingArgument function name)

/-- An argument read as a value of some type. -/
def typedArgument {α : Type} (read : Document → Option α) (function name : String) (args : Arguments) :
    Except TemplateFault α :=
  (argument function name args).bind fun value =>
    match read value with
    | some a => .ok a
    | none => .error (.malformedArgument function name)

/-- An argument that is a boolean. -/
def flagArgument (function name : String) (args : Arguments) : Except TemplateFault Bool :=
  (argument function name args).bind fun value =>
    match value with
    | .bool b => .ok b
    | _ => .error (.notBoolean function name)

/-- An argument that is a list of parameters. -/
def paramsArgument (function : String) (args : Arguments) : Except TemplateFault (List Param) :=
  typedArgument (Document.listOf? Param.decode?) function "params" args

/-! ### Functions -/

/-- The operations of a formatter that templates may call. -/
inductive Function where
  | qualifiers
  | arglist
  | arglistDropFirst
  | argnamesForward
  | argnamesRoute
deriving DecidableEq, Repr

namespace Function

/-- The name of a function in templates. -/
def name : Function → String
  | .qualifiers => "qualifiers"
  | .arglist => "arglist"
  | .arglistDropFirst => "arglist_drop_first"
  | .argnamesForward => "argnames_forward"
  | .argnamesRoute => "argnames_route"

/-- All functions. -/
def all : List Function :=
  [.qualifiers, .arglist, .arglistDropFirst, .argnamesForward, .argnamesRoute]

/-- The function with a given name. -/
def ofName? (name : String) : Option Function :=
  all.find? (·.name == name)

/-- The text that a function makes of its arguments. -/
def text (formatter : Formatter) (f : Function) (args : Arguments) : Except TemplateFault String := do
  match f with
  | .qualifiers =>
    let q ← typedArgument Qualifiers.decode? f.name "q" args
    return formatter.qualifiers q
  | .arglist =>
    let params ← paramsArgument f.name args
    let withNames ← flagArgument f.name "with_names" args
    return formatter.parameters withNames params
  | .arglistDropFirst =>
    let params ← paramsArgument f.name args
    let withNames ← flagArgument f.name "with_names" args
    return formatter.visibleParameters withNames params
  | .argnamesForward =>
    let params ← paramsArgument f.name args
    let castReceiver ← flagArgument f.name "cast_receiver" args
    return formatter.forwarded castReceiver params
  | .argnamesRoute =>
    let params ← paramsArgument f.name args
    return formatter.routed params

end Function

/-! ### Functions of the language -/

/-- A number that is not negative. -/
def natural? : Document → Option Nat
  | .int n => if 0 ≤ n then some n.toNat else none
  | _ => none

/-- A whole number. -/
def integer? : Document → Option Int
  | .int n => some n
  | _ => none

namespace Standard

/-- An argument read as a value of some type, or its default where it is left out. -/
def argument {α : Type} (f : Standard) (read : Document → Option α) (otherwise : Option α) (name : String)
    (args : Arguments) : Except TemplateFault α :=
  match ((args.lookup name).map read).getD otherwise with
  | some a => .ok a
  | none => .error (.badCall f.name)

/-- The numbers from a start on that lie below a stop, in steps. -/
def numbers (start stop step : Nat) : List Nat :=
  (List.range ((stop - start + step - 1) / step)).map fun i => start + i * step

/-- The value that a function of the language gives at some moment. -/
def value (around : Surroundings) (moment : Moment) (f : Standard) (args : Arguments) :
    Except TemplateFault Document := do
  match f with
  | .range =>
    let start ← f.argument natural? (some 0) "start" args
    let step ← f.argument natural? (some 1) "step_by" args
    let stop ← f.argument natural? none "end" args
    if stop < start ∨ step = 0 then throw (.badCall f.name)
    return .list ((numbers start stop step).map fun (n : Nat) => .int n)
  | .failure =>
    let message ← f.argument Document.string? none "message" args
    throw (.other message)
  | .now =>
    let utc ← f.argument Document.bool? (some false) "utc" args
    let timestamp ← f.argument Document.bool? (some false) "timestamp" args
    let time := around.clock moment
    return if timestamp then .int time.seconds else .string (if utc then time.universal else time.zoned)
  | .random =>
    let start ← f.argument integer? (some 0) "start" args
    let stop ← f.argument integer? none "end" args
    if stop ≤ start then throw (.badCall f.name)
    return .int (start + around.draw moment % (stop - start))
  | .environment =>
    let name ← f.argument Document.string? none "name" args
    match (around.environment name).map Document.string with
    | some value => return value
    | none =>
      match args.lookup "default" with
      | some value => return value
      | none => throw (.unset name)

end Standard

/-! ### Filters -/

/-- The text with a start put in front of every line but the first. -/
def docContinue (lineStart text : String) : String :=
  Text.joinWith ("\n" ++ lineStart) (Text.lines text)

/-- The filters that are written out. -/
inductive Filter where
  | docContinue
  | upper
  | lower
  | length
deriving DecidableEq, Repr

namespace Filter

/-- The name of a filter in templates. -/
def name : Filter → String
  | .docContinue => "doc_continue"
  | .upper => "upper"
  | .lower => "lower"
  | .length => "length"

/-- All filters. -/
def all : List Filter :=
  [.docContinue, .upper, .lower, .length]

/-- The filter with a given name. -/
def ofName? (name : String) : Option Filter :=
  all.find? (·.name == name)

/-- The value that a filter makes of a value. -/
def apply (f : Filter) (args : Arguments) (value : Document) : Except TemplateFault Document :=
  match f, value with
  | .docContinue, .string text =>
    (argument f.name "prefix" args).bind fun lineStart =>
      match lineStart with
      | .string lineStart => .ok (.string (Template.docContinue lineStart text))
      | _ => .error .lineStartNotText
  | .docContinue, _ => .error .docNotText
  | .upper, .string text => .ok (.string (Text.upper text))
  | .lower, .string text => .ok (.string (Text.lower text))
  | .length, .string text => .ok (.int text.length)
  | .length, .list items => .ok (.int items.length)
  | .length, .mapping members => .ok (.int members.length)
  | f, _ => .error (.filterValue f.name)

end Filter

end Faceting.Template
