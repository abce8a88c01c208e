import Faceting.Proofs.Template.Method

/-!
# Kinds of values in templates

A `ValueKind` says what a value is the document of, and so which members it has (`ValueKind.Admits.at?`)
and which functions and filters of templates take it (`Function.exists_text`, `Filter.exists_apply`).
-/

namespace Faceting.Template

/-! ### Kinds of values -/

/-- What a value is the document of. -/
inductive ValueKind where
  | text
  /-- A text that may be missing. -/
  | optionalText
  | flag
  | qualifiers
  /-- The parameters of a method. -/
  | params
  /-- The names of a facet. -/
  | names
  | typeAlias
  | method
  | implementation
  | list (item : ValueKind)
deriving DecidableEq, Repr

/-- The kinds of variables, arguments or members. -/
abbrev Kinds := List (String × ValueKind)

namespace ValueKind

/-- A value is of a kind. -/
def Admits : ValueKind → Document → Prop
  | .text, d => ∃ text, d = .string text
  | .optionalText, d => ∃ text?, d = Document.ofString? text?
  | .flag, d => ∃ value, d = .bool value
  | .qualifiers, d => ∃ q : Qualifiers, d = q.toDocument
  | .params, d => ∃ params : List Param, d = .list (params.map Param.toDocument)
  | .names, d => ∃ names : Names, d = names.toDocument
  | .typeAlias, d => ∃ t : TypeAlias String, d = t.document
  | .method, d => ∃ m : Method String, d = m.document
  | .implementation, d => ∃ i : Implementation, d = i.toDocument
  | .list item, d => ∃ items, d = .list items ∧ ∀ i ∈ items, item.Admits i

theorem admits_list {α : Type} (item : ValueKind) (write : α → Document) (h : ∀ a, item.Admits (write a))
    (as : List α) : (ValueKind.list item).Admits (.list (as.map write)) := by
  refine ⟨as.map write, rfl, fun d hd => ?_⟩
  obtain ⟨a, -, rfl⟩ := List.mem_map.1 hd
  exact h a

/-- The members of values of a kind. -/
def members : ValueKind → Kinds
  | .qualifiers => [("is_const", .flag), ("noexcept", .flag)]
  | .names =>
    [("facet", .text), ("lower_name", .text), ("abstract_name", .text), ("interface_name", .text),
     ("impl_name", .text), ("any_name", .text), ("xfer_name", .text), ("router_name", .text),
     ("abstract_header", .text), ("any_header", .text), ("any_body", .text), ("xfer_header", .text),
     ("xfer_body", .text), ("router_header", .text)]
  | .typeAlias => [("name", .text), ("definition", .text), ("doc", .text)]
  | .method =>
    [("name", .text), ("return_type", .text), ("kind", .text), ("qualifiers", .qualifiers),
     ("params", .params), ("doc", .text)]
  | .implementation =>
    [("name", .text), ("impl_name", .text), ("header", .text), ("include", .optionalText)]
  | _ => []

/-- The kind of the part of a value that keys lead to. -/
def at? : List String → ValueKind → Option ValueKind
  | [], kind => some kind
  | key :: rest, kind => (kind.members.lookup key).bind (at? rest)

end ValueKind

/-- Named values are of the given kinds. -/
def Kinds.Admit (kinds : Kinds) (values : List (String × Document)) : Prop :=
  ∀ name kind, kinds.lookup name = some kind →
    ∃ value, values.lookup name = some value ∧ kind.Admits value

/-- What is found under a name behind one more entry. -/
theorem lookup_cons_eq_some {kinds : Kinds} {first name : String} {k kind : ValueKind}
    (h : ((first, k) :: kinds : Kinds).lookup name = some kind) :
    (name = first ∧ kind = k) ∨ (name ≠ first ∧ kinds.lookup name = some kind) := by
  by_cases hname : name = first
  · subst hname
    rw [List.lookup_cons_self] at h
    cases h
    exact .inl ⟨rfl, rfl⟩
  · rw [List.lookup_cons, beq_false_of_ne hname] at h
    exact .inr ⟨hname, h⟩

namespace Kinds

theorem admit_nil (values : List (String × Document)) : Admit [] values := by
  intro name kind h
  cases h

theorem Admit.cons {kinds : Kinds} {values : List (String × Document)} {name : String} {kind : ValueKind}
    {value : Document} (hvalue : values.lookup name = some value) (hkind : kind.Admits value)
    (h : Admit kinds values) : Admit ((name, kind) :: kinds) values := by
  intro other k hother
  rcases lookup_cons_eq_some hother with ⟨rfl, rfl⟩ | ⟨-, hother⟩
  · exact ⟨value, hvalue, hkind⟩
  · exact h other k hother

/-- One more argument, in front. -/
theorem Admit.cons_cons {kinds : Kinds} {values : List (String × Document)} {kind : ValueKind}
    {value : Document} (h : Admit kinds values) (hkind : kind.Admits value) (name : String) :
    Admit ((name, kind) :: kinds) ((name, value) :: values) := by
  intro other k hother
  rcases lookup_cons_eq_some hother with ⟨rfl, rfl⟩ | ⟨hne, hother⟩
  · exact ⟨value, List.lookup_cons_self, hkind⟩
  · rw [List.lookup_cons, beq_false_of_ne hne]
    exact h other k hother

end Kinds

namespace ValueKind

open Kinds (Admit admit_nil)

/-- A value of a kind that has members is a mapping with members of their kinds. -/
theorem Admits.members {kind : ValueKind} {d : Document} (h : kind.Admits d) :
    kind.members = [] ∨ ∃ entries, d = .mapping entries ∧ Admit kind.members entries := by
  cases kind with
  | qualifiers =>
    obtain ⟨q, rfl⟩ := h
    exact .inr ⟨_, rfl, .cons rfl ⟨_, rfl⟩ <| .cons rfl ⟨_, rfl⟩ <| admit_nil _⟩
  | names =>
    obtain ⟨names, rfl⟩ := h
    exact .inr ⟨_, rfl, .cons rfl ⟨_, rfl⟩ <| .cons rfl ⟨_, rfl⟩ <| .cons rfl ⟨_, rfl⟩ <|
      .cons rfl ⟨_, rfl⟩ <| .cons rfl ⟨_, rfl⟩ <| .cons rfl ⟨_, rfl⟩ <| .cons rfl ⟨_, rfl⟩ <|
      .cons rfl ⟨_, rfl⟩ <| .cons rfl ⟨_, rfl⟩ <| .cons rfl ⟨_, rfl⟩ <| .cons rfl ⟨_, rfl⟩ <|
      .cons rfl ⟨_, rfl⟩ <| .cons rfl ⟨_, rfl⟩ <| .cons rfl ⟨_, rfl⟩ <| admit_nil _⟩
  | typeAlias =>
    obtain ⟨t, rfl⟩ := h
    exact .inr ⟨_, rfl, .cons rfl ⟨_, rfl⟩ <| .cons rfl ⟨_, rfl⟩ <| .cons rfl ⟨_, rfl⟩ <| admit_nil _⟩
  | method =>
    obtain ⟨m, rfl⟩ := h
    exact .inr ⟨_, rfl, .cons rfl ⟨_, rfl⟩ <| .cons rfl ⟨_, rfl⟩ <| .cons rfl ⟨_, rfl⟩ <|
      .cons rfl ⟨_, rfl⟩ <| .cons rfl ⟨_, rfl⟩ <| .cons rfl ⟨_, rfl⟩ <| admit_nil _⟩
  | implementation =>
    obtain ⟨i, rfl⟩ := h
    exact .inr ⟨_, rfl, .cons rfl ⟨_, rfl⟩ <| .cons rfl ⟨_, rfl⟩ <| .cons rfl ⟨_, rfl⟩ <|
      .cons rfl ⟨_, rfl⟩ <| admit_nil _⟩
  | _ => exact .inl rfl

theorem Admits.at? {kind part : ValueKind} {d : Document} {keys : List String} (h : kind.Admits d)
    (hkeys : kind.at? keys = some part) : ∃ value, d.at? keys = some value ∧ part.Admits value := by
  induction keys generalizing kind d with
  | nil =>
    cases hkeys
    exact ⟨d, rfl, h⟩
  | cons key rest ih =>
    obtain ⟨member, hmember, hrest⟩ := Option.bind_eq_some_iff.1 hkeys
    rcases h.members with hnone | ⟨entries, rfl, hentries⟩
    · rw [hnone] at hmember
      cases hmember
    · obtain ⟨value, hvalue, hkind⟩ := hentries key member hmember
      obtain ⟨result, hresult, hpart⟩ := ih hkind hrest
      exact ⟨result, by rw [Document.at?, hvalue]; exact hresult, hpart⟩

end ValueKind

/-! ### Arguments -/

/-- What a function asks for. -/
def Function.parameters : Function → Kinds
  | .qualifiers => [("q", .qualifiers)]
  | .arglist => [("params", .params), ("with_names", .flag)]
  | .arglistDropFirst => [("params", .params), ("with_names", .flag)]
  | .argnamesForward => [("params", .params), ("cast_receiver", .flag)]
  | .argnamesRoute => [("params", .params)]

/-- Whether arguments of the given kinds are what a function asks for. -/
def Function.takes (f : Function) (given : Kinds) : Bool :=
  f.parameters.all fun parameter => given.lookup parameter.1 == some parameter.2

/-- Whether a filter takes a value of a kind and arguments of the given kinds, and makes a text of them. -/
def Filter.takes (f : Filter) (given : Kinds) (kind : ValueKind) : Bool :=
  match f with
  | .docContinue => kind == .text && given.lookup "prefix" == some .text
  | .upper => kind == .text
  | .lower => kind == .text
  | .length => false

section
variable {given : Kinds} {args : Arguments}

theorem typedArgument_eq {α : Type} {read : Document → Option α} {name : String} {value : Document} {a : α}
    (h : args.lookup name = some value) (hread : read value = some a) (function : String) :
    typedArgument read function name args = .ok a := by
  simp [typedArgument, argument, h, hread, Except.bind]

theorem flagArgument_eq {name : String} {b : Bool} (h : args.lookup name = some (.bool b))
    (function : String) : flagArgument function name args = .ok b := by
  simp [flagArgument, argument, h, Except.bind]

/-- A function that is given what it asks for makes a text. -/
theorem Function.exists_text {f : Function} (h : f.takes given = true) (hargs : given.Admit args)
    (formatter : Formatter) : ∃ text, f.text formatter args = .ok text := by
  have hparameters : ∀ parameter ∈ f.parameters,
      ∃ value, args.lookup parameter.1 = some value ∧ parameter.2.Admits value := by
    intro parameter hparameter
    have hgiven := List.all_eq_true.1 h parameter hparameter
    exact hargs parameter.1 parameter.2 (by simpa using hgiven)
  have hparams {params : List Param} (function : String)
      (hlist : args.lookup "params" = some (.list (params.map Param.toDocument))) :
      paramsArgument function args = .ok params :=
    typedArgument_eq hlist (Document.listOf?_map fun p _ => Param.decode?_toDocument p) function
  cases f with
  | qualifiers =>
    simp only [parameters, List.forall_mem_cons] at hparameters
    obtain ⟨⟨_, hq, q, rfl⟩, -⟩ := hparameters
    refine ⟨formatter.qualifiers q, ?_⟩
    unfold Function.text
    rw [typedArgument_eq hq (Qualifiers.decode?_toDocument q)]
    rfl
  | arglist =>
    simp only [parameters, List.forall_mem_cons] at hparameters
    obtain ⟨⟨_, hlist, params, rfl⟩, ⟨_, hflag, withNames, rfl⟩, -⟩ := hparameters
    refine ⟨formatter.parameters withNames params, ?_⟩
    unfold Function.text
    rw [hparams _ hlist, flagArgument_eq hflag]
    rfl
  | arglistDropFirst =>
    simp only [parameters, List.forall_mem_cons] at hparameters
    obtain ⟨⟨_, hlist, params, rfl⟩, ⟨_, hflag, withNames, rfl⟩, -⟩ := hparameters
    refine ⟨formatter.visibleParameters withNames params, ?_⟩
    unfold Function.text
    rw [hparams _ hlist, flagArgument_eq hflag]
    rfl
  | argnamesForward =>
    simp only [parameters, List.forall_mem_cons] at hparameters
    obtain ⟨⟨_, hlist, params, rfl⟩, ⟨_, hflag, castReceiver, rfl⟩, -⟩ := hparameters
    refine ⟨formatter.forwarded castReceiver params, ?_⟩
    unfold Function.text
    rw [hparams _ hlist, flagArgument_eq hflag]
    rfl
  | argnamesRoute =>
    simp only [parameters, List.forall_mem_cons] at hparameters
    obtain ⟨⟨_, hlist, params, rfl⟩, -⟩ := hparameters
    refine ⟨formatter.routed params, ?_⟩
    unfold Function.text
    rw [hparams _ hlist]
    rfl

/-- A filter that takes what it is given makes a text. -/
theorem Filter.exists_apply {f : Filter} {kind : ValueKind} {value : Document}
    (h : f.takes given kind = true) (hargs : given.Admit args) (hvalue : kind.Admits value) :
    ∃ text, f.apply args value = .ok (.string text) := by
  cases f with
  | docContinue =>
    simp only [Filter.takes, Bool.and_eq_true, beq_iff_eq] at h
    obtain ⟨rfl, hgiven⟩ := h
    obtain ⟨text, rfl⟩ := hvalue
    obtain ⟨_, hlookup, lineStart, rfl⟩ := hargs "prefix" .text hgiven
    exact ⟨Template.docContinue lineStart text, by simp [Filter.apply, argument, hlookup, Except.bind]⟩
  | upper =>
    obtain rfl : kind = .text := by simpa [Filter.takes] using h
    obtain ⟨text, rfl⟩ := hvalue
    exact ⟨Text.upper text, rfl⟩
  | lower =>
    obtain rfl : kind = .text := by simpa [Filter.takes] using h
    obtain ⟨text, rfl⟩ := hvalue
    exact ⟨Text.lower text, rfl⟩
  | length => cases h

end

end Faceting.Template
