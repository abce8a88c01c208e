import Faceting.Files.Monad
import Faceting.Template.Builtin.Abstract
import Faceting.Template.Builtin.Any
import Faceting.Template.Builtin.Representation
import Faceting.Template.Builtin.Router
import Faceting.Template.Builtin.Xfer
import Faceting.Template.Parser
import Faceting.Template.Render

/-!
# Libraries of templates

A library holds templates by name. It starts with the built-in ones (`Library.builtin`); templates
given as text are added to it, in place of one with the same name (`Library.add`). The engine of the host
decides which texts are left to it, and whether the templates of a library find each other.

A library can also be taken from a directory (`Library.ofDirectory`): its files with the ending of templates
are the templates, named by their paths below the directory. Built-in templates fill what the directory lacks.
-/

namespace Faceting.Template

/-- The template of a text, unless the text is none. -/
def Engine.template? (e : Engine) (name source : String) : Option (List Node) :=
  if e.reads source then some [.foreign name source] else parse? source

namespace Library

/-- The built-in templates. -/
def builtin : Library :=
  ⟨[("abstract_facet.hpp.tera", Builtin.abstractHeader),
    ("facet_any.hpp.tera", Builtin.anyHeader),
    ("facet_any.cpp.tera", Builtin.anyBody),
    ("facet_xfer.hpp.tera", Builtin.xferHeader),
    ("facet_xfer.cpp.tera", Builtin.xferBody),
    ("facet_router.hpp.tera", Builtin.routerHeader),
    ("facet_repr.hpp.tera", Builtin.representationHeader)]⟩

/-- Whether there is a template with the name. -/
def has (l : Library) (name : String) : Bool :=
  (l.find? name).isSome

/-- The names of the templates, in ascending order. -/
def names (l : Library) : List String :=
  (l.templates.map (·.1)).mergeSort (fun a b => a ≤ b)

/-- The library with a template under a name. -/
def insert (l : Library) (name : String) (nodes : List Node) : Library :=
  ⟨l.templates.filter (·.1 != name) ++ [(name, nodes)]⟩

/-- Whether the templates find each other: only those that are left to the engine look for others. -/
def fits (l : Library) (e : Engine) : Bool :=
  l.templates.all (fun (_, nodes) => !nodes.any Node.isForeign) || e.links l.find?

/-- The library with the template of a text under a name. -/
def add (e : Engine) (l : Library) (name source : String) : Except RenderError Library :=
  match e.template? name source with
  | none => .error (.render name .unparsable)
  | some nodes =>
    if (l.insert name nodes).fits e then .ok (l.insert name nodes) else .error (.render name .dangling)

/-- The library with the templates of several texts. -/
def addAll (e : Engine) (l : Library) : List (String × String) → Except RenderError Library
  | [] => .ok l
  | (name, source) :: rest => (l.add e name source).bind (·.addAll e rest)

/-- Whether templates of that name are markup, in which printed texts are escaped. -/
def isMarkup (name : String) : Bool :=
  [".html", ".htm", ".xml"].any fun ending => ending.toList.isSuffixOf name.toList

/-! ### Directories of templates -/

/-- Whether a path has the ending of templates. -/
def isTemplatePath (p : Path) : Bool :=
  ".tera".toList.isSuffixOf p.text.toList

/-- The library with templates of another that it lacks. -/
def fillFrom (l other : Library) : Library :=
  ⟨l.templates ++ other.templates.filter fun (name, _) => !l.has name⟩

section
variable {m : Type → Type} {σ : Type} [Monad m] [MonadFiles m σ]

/-- The library with templates from files of a directory. -/
def addFiles (e : Engine) (dir : Path) : List Path → Library → ExceptT RenderError m Library
  | [], l => return l
  | p :: rest, l => do
    match ← (Files.readText (dir.join p) : m _) with
    | .error fault => throw (.templateLoad dir fault.message)
    | .ok source =>
      match e.template? p.text source with
      | none => throw (.templateLoad dir (RenderError.render p.text .unparsable).message)
      | some nodes => addFiles e dir rest (l.insert p.text nodes)

/-- The templates of a directory, filled up with the built-in ones. They have to find each other before
and after. -/
def ofDirectory (e : Engine) (dir : Path) : ExceptT RenderError m Library := do
  unless ← (Files.isDirectory dir : m Bool) do throw (.templateLoad dir "not a directory")
  let files ← (MonadFiles.filesBelow dir : m _)
  let own ← addFiles e dir (files.filter isTemplatePath) ⟨[]⟩
  unless own.fits e && (own.fillFrom builtin).fits e do
    throw (.templateLoad dir TemplateFault.dangling.message)
  return own.fillFrom builtin

end

end Library

end Faceting.Template

namespace Faceting.Renderer

/-- The built-in templates in a style. -/
def builtin (host : Template.Host) (style : SignatureStyle := {}) : Renderer :=
  { library := .builtin, formatter := style, host := host }

/-- The text of a template in a context. -/
def render (r : Renderer) (name : String) (context : Template.Context) : Except RenderError String :=
  match r.library.find? name with
  | none => .error (.templateNotFound name)
  | some nodes =>
    (Template.render r (Template.Library.isMarkup name) nodes context).mapError (.render name)

end Faceting.Renderer
