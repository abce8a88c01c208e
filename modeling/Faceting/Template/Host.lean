import Faceting.Signature
import Faceting.Template.Scope

/-!
# What templates are rendered with

A `Renderer` holds a library of templates, the formatter of signatures that templates call, and the host
that they are rendered in. A host has two parts, and nothing is assumed of either.

* `Surroundings` are what functions of the language ask for: the environment, the time, random numbers. Each
  call gets an answer of its own, so two runs of the same template may be told different things.
* An `Engine` is the language beyond the part that is written out in this library. It says which texts are
  templates that need it, and what they become. Such a template may refer to any other template, so the
  engine is given all templates of the library by their names.
-/

namespace Faceting.Template

/-- Templates by name. -/
structure Library where
  templates : List (String × List Node)

/-- The template with a name. -/
def Library.find? (l : Library) (name : String) : Option (List Node) :=
  l.templates.lookup name

/-- When a function is called: the site of the call, and the variables there. -/
structure Moment where
  site : Nat
  scope : Scope

/-- The time at some moment. -/
structure Clock where
  /-- The seconds since the beginning of 1970. -/
  seconds : Int
  /-- The time in words, in universal time. -/
  universal : String
  /-- The time in words, in the zone of the place. -/
  zoned : String
deriving DecidableEq, Repr, Inhabited

/-- What there is outside of templates and their variables. -/
structure Surroundings where
  /-- The variables of the environment. -/
  environment : String → Option String
  /-- The time of a call. -/
  clock : Moment → Clock
  /-- The number that is drawn for a call. -/
  draw : Moment → Nat

instance : Inhabited Surroundings :=
  ⟨⟨fun _ => none, fun _ => default, fun _ => 0⟩⟩

/-- The template language beyond what is written out here. The usual one has nothing beyond. -/
structure Engine where
  /-- Whether a text is a template that uses more of the language than is written out here. -/
  reads : String → Bool := fun _ => false
  /-- Whether the references between templates lead somewhere. -/
  links : (String → Option (List Node)) → Bool := fun _ => true
  /-- What such a template writes. It may look at every other template. -/
  writes : (String → Option (List Node)) → Formatter → Surroundings → (name source : String) → Scope →
    Except TemplateFault String := fun _ _ _ _ _ _ => .error .unparsable

/-- Where templates are rendered. -/
structure Host where
  engine : Engine := {}
  surroundings : Surroundings

instance : Inhabited Host :=
  ⟨{ surroundings := default }⟩

end Faceting.Template

namespace Faceting

/-- What templates are rendered with. -/
structure Renderer where
  library : Template.Library
  formatter : Formatter := ({} : SignatureStyle)
  host : Template.Host

/-- What a template that is left to the engine writes. -/
def Renderer.foreign (r : Renderer) (name source : String) (s : Template.Scope) :
    Except TemplateFault String :=
  r.host.engine.writes r.library.find? r.formatter r.host.surroundings name source s

end Faceting
