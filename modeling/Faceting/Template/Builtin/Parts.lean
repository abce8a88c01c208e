import Faceting.Template.Tree
import Faceting.Text.Split

/-!
# Parts of the built-in templates

What the built-in templates have in common: the comment at the top, the two namespaces, groups for the
extraction of documentation, and the loops over types and methods.
-/

namespace Faceting.Template.Builtin

/-- Rows of text, one below the other. -/
def rows (texts : List String) : Node :=
  .text (Text.joinWith "\n" texts)

/-- A variable. -/
def variableNode (name : String) : Node :=
  .print (.var name [])

/-- A part of a variable. -/
def part (name key : String) : Node :=
  .print (.var name [key])

/-- One of the names of the facet. -/
def facetName (key : String) : Node :=
  part "names" key

/-- Nodes that are there only if a condition holds. -/
def when (condition : Expr) (nodes : List Node) : Node :=
  .branch [(condition, nodes)] []

/-- The comment at the top of an artifact, which tells what it was made from. -/
def banner (kind : String) : List Node :=
  [.text "/** @file ", variableNode "output_name",
   rows ["", " *", " *  Generated automagically from ingredients:", " *  1. code generator:", " *       ["],
   variableNode "generator",
   rows ["]", " *     arguments:", " *       --input ["],
   variableNode "idl_path",
   rows ["]", " *  2. template for " ++ kind ++ " file:", " *       ["],
   variableNode "template_name",
   rows ["]", " *  3. idl for facet methods", " *       ["],
   variableNode "idl_path",
   rows ["]", " **/", "", ""]]

/-- A name in the namespaces of the facet. -/
def qualified (name : Node) : List Node :=
  [variableNode "namespace1", .text "::", variableNode "namespace2", .text "::", name]

/-- The beginning of the namespaces of the facet. -/
def openNamespaces : List Node :=
  [.text "namespace ", variableNode "namespace1", rows [" \x7b", "namespace "],
   variableNode "namespace2", rows [" \x7b", ""]]

/-- The end of the namespaces of the facet and of the artifact. -/
def closeNamespaces : List Node :=
  [rows ["", "\x7d /*namespace "], variableNode "namespace2", rows ["*/", "\x7d /*namespace "],
   variableNode "namespace1", rows ["*/", "", "/* end "], variableNode "output_name", rows [" */", ""]]

/-- A class of the facet declared ahead, in one line. -/
def forward (declaration : List Node) : List Node :=
  [.text "namespace ", variableNode "namespace1", .text " \x7b namespace ", variableNode "namespace2",
   .text " \x7b "] ++ declaration ++ [.text "; \x7d \x7d"]

/-- An include of one of the headers of the facet. -/
def includeHeader (key : String) : List Node :=
  [.text "#include \"", facetName key, .text "\""]

/-- Nodes that are there only if documentation is marked up. -/
def whenMarkup (nodes : List Node) : Node :=
  when (.var "using_doxygen" []) nodes

/-- The beginning of a group of documentation. -/
def openGroup (title : List Node) : List Node :=
  [rows ["", "        /** @defgroup "], variableNode "namespace2", .text "-", facetName "lower_name",
   .text "-"] ++ title ++ [rows [" **/", "        ///@\x7b"]]

/-- The end of a group of documentation. -/
def closeGroup : Node :=
  rows ["", "        ///@\x7d"]

/-- Documentation as text, whose lines behind the first start as given. -/
def docText (doc : Expr) (lineStart : String) : Node :=
  .print (doc.filter "doc_continue" [("prefix", .text lineStart)])

/-- The documentation of a type or method, if it has any. -/
def memberDoc (variableName : String) : Node :=
  when (.var variableName ["doc"])
    [rows ["", "        /** "], docText (.var variableName ["doc"]) "         *  ", .text " **/"]

/-- Something for each type of the facet. -/
def eachType (body : List Node) : Node :=
  .loop none "t" (.var "types" []) body []

/-- Something for each method in one of the two lists of methods. -/
def eachMethod (list : String) (body : List Node) : Node :=
  .loop none "m" (.var list []) body []

/-- The types of the abstract interface under their own names. -/
def typeAliases : Node :=
  eachType
    [rows ["", "        using "], part "t" "name", .text " = ", facetName "abstract_name", .text "::",
     part "t" "name", .text ";"]

/-- The parameters of a method. -/
def methodParams : String × Expr :=
  ("params", .var "m" ["params"])

/-- The qualifiers of a method, kept in a variable. -/
def assignQualifiers : Node :=
  .assign "q" (.call "qualifiers" [("q", .var "m" ["qualifiers"])])

/-- The qualifiers of a method behind a space, if it has any. -/
def spacedQualifiers : Node :=
  when (.var "q" []) [.text " ", variableNode "q"]

/-- The parameter list of a method. -/
def parameterList (withNames : Bool) : Node :=
  .print (.call "arglist" [methodParams, ("with_names", .bool withNames)])

/-- The parameter list of a method without its receiver. -/
def visibleList : Expr :=
  .call "arglist_drop_first" [methodParams, ("with_names", .bool true)]

/-- Return type and name of a method, and the opening parenthesis. -/
def methodHead : List Node :=
  [part "m" "return_type", .text " ", part "m" "name", .text "("]

end Faceting.Template.Builtin
