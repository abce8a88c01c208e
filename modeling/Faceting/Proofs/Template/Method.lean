import Faceting.Facet
import Faceting.Proofs.Template.Render
import Faceting.Template.Library

/-!
# Methods in templates

What the parts of the built-in templates write in a scope that binds `m` to a method. The functions that
templates call get the parameters and qualifiers of the method as documents, and read them back
(`Document.listOf?_map`), so that each of them gives the text that the formatter gives for the method
itself.
-/

namespace Faceting

/-! ### Reading back -/

theorem Param.decode?_toDocument (p : Param) : Param.decode? p.toDocument = some p := rfl

theorem Qualifiers.decode?_toDocument (q : Qualifiers) : Qualifiers.decode? q.toDocument = some q := rfl

namespace Template

/-- A text behind a separator; nothing if there is no text. -/
def behind (separator text : String) : String :=
  if text = "" then "" else separator ++ text

/-- The documentation of a type or method as a comment of its own; nothing if there is none. -/
def docBlock (doc : String) : String :=
  if doc = "" then "" else "\n        /** " ++ docContinue "         *  " doc ++ " **/"

/-! ### Functions

What a function makes of its arguments does not depend on where they come from, only on their values. -/

section
variable {r : Renderer} {s : Scope}

theorem evalExpr_call {name : String} {f : Function} {args : List (String × Expr)} {values : Arguments}
    {text : String} (hname : Function.ofName? name = some f) (hargs : evalArgs r s args = .ok values)
    (htext : f.text r.formatter values = .ok text) :
    evalExpr r s (.call name args) = .ok (.string text) := by
  simp [Expr.call, Expr.ofTerm, evalExpr, evalTerm, evalCall, evalFilters, hname, hargs, htext,
    Except.bind, Except.map]

theorem evalArgs_cons {name : String} {e : Expr} {rest : List (String × Expr)} {value : Document}
    {values : Arguments} (he : evalExpr r s e = .ok value)
    (hrest : evalArgs r s rest = .ok values) :
    evalArgs r s ((name, e) :: rest) = .ok ((name, value) :: values) := by
  simp [evalArgs, he, hrest, Except.bind, Except.map]

theorem evalExpr_bool (value : Bool) : evalExpr r s (.bool value) = .ok (.bool value) := rfl

theorem paramsArgument_eq (function : String) (params : List Param) (rest : Arguments) :
    paramsArgument function (("params", .list (params.map Param.toDocument)) :: rest) = .ok params := by
  unfold paramsArgument typedArgument
  simp [argument, Document.listOf?_map fun p _ => Param.decode?_toDocument p, Except.bind]

variable {e : Expr}

theorem evalExpr_callQualifiers {q : Qualifiers} (h : evalExpr r s e = .ok q.toDocument) :
    evalExpr r s (.call "qualifiers" [("q", e)]) = .ok (.string (r.formatter.qualifiers q)) :=
  evalExpr_call (f := .qualifiers) rfl (evalArgs_cons h rfl) rfl

variable {params : List Param} (h : evalExpr r s e = .ok (.list (params.map Param.toDocument)))
include h

/-- Parameters and a flag, as arguments of a function. -/
theorem evalArgs_params (flag : String) (value : Bool) :
    evalArgs r s [("params", e), (flag, .bool value)]
      = .ok [("params", .list (params.map Param.toDocument)), (flag, .bool value)] :=
  evalArgs_cons h (evalArgs_cons (evalExpr_bool value) rfl)

theorem evalExpr_callArglist (withNames : Bool) :
    evalExpr r s (.call "arglist" [("params", e), ("with_names", .bool withNames)])
      = .ok (.string (r.formatter.parameters withNames params)) := by
  refine evalExpr_call (f := .arglist) rfl (evalArgs_params h "with_names" withNames) ?_
  unfold Function.text
  rw [paramsArgument_eq]
  rfl

theorem evalExpr_callArglistDropFirst (withNames : Bool) :
    evalExpr r s (.call "arglist_drop_first" [("params", e), ("with_names", .bool withNames)])
      = .ok (.string (r.formatter.visibleParameters withNames params)) := by
  refine evalExpr_call (f := .arglistDropFirst) rfl (evalArgs_params h "with_names" withNames) ?_
  unfold Function.text
  rw [paramsArgument_eq]
  rfl

theorem evalExpr_callArgnamesForward (castReceiver : Bool) :
    evalExpr r s (.call "argnames_forward" [("params", e), ("cast_receiver", .bool castReceiver)])
      = .ok (.string (r.formatter.forwarded castReceiver params)) := by
  refine evalExpr_call (f := .argnamesForward) rfl (evalArgs_params h "cast_receiver" castReceiver) ?_
  unfold Function.text
  rw [paramsArgument_eq]
  rfl

theorem evalExpr_callArgnamesRoute :
    evalExpr r s (.call "argnames_route" [("params", e)])
      = .ok (.string (r.formatter.routed params)) := by
  refine evalExpr_call (f := .argnamesRoute) rfl (evalArgs_cons h rfl) ?_
  unfold Function.text
  rw [paramsArgument_eq]
  rfl

end

/-! ### Methods as arguments -/

section
variable {host : Host} {style : SignatureStyle} {s : Scope} {m : Method String}

theorem evalExpr_qualifiers (h : s.Binds "m" m.document) :
    evalExpr (.builtin host style) s (.call "qualifiers" [("q", .var "m" ["qualifiers"])])
      = .ok (.string (style.qualifiers m.qualifiers)) :=
  evalExpr_callQualifiers (evalExpr_var _ h rfl)

theorem evalExpr_arglist (h : s.Binds "m" m.document) (withNames : Bool) :
    evalExpr (.builtin host style) s (.call "arglist" [Builtin.methodParams, ("with_names", .bool withNames)])
      = .ok (.string (SignatureStyle.parameters withNames m.params)) :=
  evalExpr_callArglist (evalExpr_var _ h rfl) withNames

theorem evalExpr_visibleList (h : s.Binds "m" m.document) :
    evalExpr (.builtin host style) s Builtin.visibleList
      = .ok (.string (SignatureStyle.visibleParameters true m.params)) :=
  evalExpr_callArglistDropFirst (evalExpr_var _ h rfl) true

theorem evalExpr_forward (h : s.Binds "m" m.document) (castReceiver : Bool) :
    evalExpr (.builtin host style) s
        (.call "argnames_forward" [Builtin.methodParams, ("cast_receiver", .bool castReceiver)])
      = .ok (.string (style.forwarded castReceiver m.params)) :=
  evalExpr_callArgnamesForward (evalExpr_var _ h rfl) castReceiver

theorem evalExpr_route (h : s.Binds "m" m.document) :
    evalExpr (.builtin host style) s (.call "argnames_route" [Builtin.methodParams])
      = .ok (.string (style.routed m.params)) :=
  evalExpr_callArgnamesRoute (evalExpr_var _ h rfl)

theorem renders_parameterList (h : s.Binds "m" m.document) (withNames : Bool) :
    Renders (.builtin host style) s [Builtin.parameterList withNames]
      (SignatureStyle.parameters withNames m.params) :=
  renders_print (evalExpr_arglist h withNames)

end

/-! ### Parts -/

section
variable {r : Renderer} {s : Scope} {m : Method String}

/-- A part of a variable that is a text is written as it is. -/
theorem renders_part {name key : String} {value : Document} {text : String} (h : s.Binds name value)
    (hpart : value.at? [key] = some (.string text)) : Renders r s [Builtin.part name key] text :=
  renders_print (evalExpr_var r h hpart)

theorem renders_variable {name text : String} (h : s.Binds name (.string text)) :
    Renders r s [Builtin.variableNode name] text := by
  have hvalue : evalExpr r s (.var name []) = .ok (.string text) := evalExpr_var r h rfl
  exact renders_print hvalue

theorem renders_printText {e : Expr} {text : String} (h : evalExpr r s e = .ok (.string text)) :
    Renders r s [.print e] text :=
  renders_print h

theorem renders_when {condition : Expr} {nodes : List Node} {holds : Bool} {text : String}
    (hcondition : truth r s condition = .ok holds) (hnodes : Renders r s nodes text) :
    Renders r s [Builtin.when condition nodes] (if holds then text else "") := by
  refine renders_branch_cons hcondition (fun htrue => ?_) (fun hfalse => ?_)
  · rw [if_pos htrue]
    exact hnodes
  · rw [if_neg (by simp [hfalse])]
    exact renders_branch_nil .nil

theorem renders_methodName (h : s.Binds "m" m.document) :
    Renders r s [Builtin.part "m" "name"] m.name :=
  renders_part h rfl

theorem renders_returnType (h : s.Binds "m" m.document) :
    Renders r s [Builtin.part "m" "return_type"] m.returnType :=
  renders_part h rfl

theorem renders_methodHead (h : s.Binds "m" m.document) :
    Renders r s Builtin.methodHead (m.returnType ++ (" " ++ (m.name ++ "("))) :=
  (renders_returnType h).cons
    ((renders_text " ").cons ((renders_methodName h).cons (renders_text "(")))

/-- A variable that is written behind a separator, if there is anything to write. -/
theorem renders_behind {name text : String} (h : s.Binds name (.string text)) (separator : String) :
    Renders r s
      [Builtin.when (.var name []) [.text separator, Builtin.variableNode name]] (behind separator text) := by
  have hvalue : (Document.string text).at? [] = some (.string text) := rfl
  have htruth : truth r s (.var name []) = .ok (text != "") := truth_var r h hvalue
  have hwhen := renders_when htruth ((renders_text separator).cons (renders_variable h))
  unfold behind
  simpa using hwhen

theorem renders_spacedQualifiers {q : String} (h : s.Binds "q" (.string q)) :
    Renders r s [Builtin.spacedQualifiers] (behind " " q) :=
  renders_behind h " "

/-- Rows that are known are written as one text. -/
theorem renders_rows {texts : List String} {text : String} (h : Text.joinWith "\n" texts = text) :
    Renders r s [Builtin.rows texts] text := by
  rw [Builtin.rows, h]
  exact renders_text text

theorem renders_memberDoc {name doc : String} {value : Document} (h : s.Binds name value)
    (hdoc : value.at? ["doc"] = some (.string doc)) :
    Renders r s [Builtin.memberDoc name] (docBlock doc) := by
  have htext : evalExpr r s ((Expr.var name ["doc"]).filter "doc_continue"
      [("prefix", .text "         *  ")]) = .ok (.string (docContinue "         *  " doc)) := by
    simp only [Expr.var, Expr.ofTerm, Expr.filter, evalExpr, evalTerm, value_of_binds h hdoc]
    rfl
  have htruth : truth r s (.var name ["doc"]) = .ok (doc != "") := truth_var r h hdoc
  have hrows : Renders r s [Builtin.rows ["", "        /** "]] "\n        /** " :=
    renders_rows (by decide)
  have hwhen := renders_when htruth (hrows.cons ((renders_printText htext).cons (renders_text " **/")))
  unfold Builtin.memberDoc Builtin.docText docBlock
  rw [String.append_assoc]
  simpa using hwhen

end

end Template

end Faceting
