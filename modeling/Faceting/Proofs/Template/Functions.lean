import Faceting.Artifact.Render
import Faceting.Proofs.Document.Json
import Faceting.Proofs.Basic
import Faceting.Proofs.Template.Method

/-!
# Functions of templates are the operations of the formatter

A template calls a function with parts of a method. The method was written as a document into the context of
the facet, a path of the template leads to it, and the function reads its argument back from the part that
it is given. None of these steps can fail, and none of them changes anything: the function gives the text
that the formatter gives for the method itself (`functions_eq_formatter`), whatever the formatter does.

What is to be shown is that a path that leads to a method also leads to its parts. A path is tried in one
place after the other, and so a longer path could be found in a place before. It is not, because a place
where a path leads nowhere is none where it leads further (`LeadsOn`).
-/

namespace Faceting

/-! ### Parts of values -/

namespace Document

theorem at?_append (keys more : List String) (d : Document) :
    d.at? (keys ++ more) = (d.at? keys).bind (·.at? more) := by
  induction keys generalizing d with
  | nil => rfl
  | cons key rest ih =>
    cases d <;> simp [at?, funext ih, Option.bind_assoc]

/-- The text of a number names its position. -/
theorem position?_toString (n : Nat) : position? (toString n) = some n := by
  have hdigits : (toString n).toList = Nat.toDigits 10 n := Nat.toList_repr
  have hall : (Nat.toDigits 10 n).all Char.isDigit = true :=
    List.all_eq_true.2 fun c hc => Nat.isDigit_of_mem_toDigits (by decide) (by decide) hc
  have hvalue : (Nat.toDigits 10 n).foldl (fun n c => n * 10 + (c.toNat - '0'.toNat)) 0 = n := by
    have h := Nat.ofDigitChars_ten_toDigits (n := n)
    unfold Nat.ofDigitChars at h
    simpa only [Nat.mul_comm] using h
  unfold position?
  rw [hdigits]
  by_cases hzero : n = 0
  · subst hzero
    rfl
  · have hhead := Json.head?_toDigits_ne_zero hzero
    split
    · rename_i hnil
      exact absurd hnil Nat.toDigits_ne_nil
    · rename_i hone
      rw [hone] at hhead
      exact absurd rfl hhead
    · rename_i hcons
      rw [hcons] at hhead
      exact absurd rfl hhead
    · rw [if_pos hall, hvalue]

end Document

namespace Template

/-! ### Paths into parts -/

/-- Where keys lead nowhere they lead nowhere with one more key, and where they lead to a value they lead to
its part of that key with it. -/
structure LeadsOn (key : String) (find : List String → Option Document) : Prop where
  nowhere : ∀ {keys}, find keys = none → find (keys ++ [key]) = none
  part : ∀ {keys d value}, find keys = some d → d.at? [key] = some value → find (keys ++ [key]) = some value

/-- A key under which no loop says anything about itself. -/
def IsPlain (key : String) : Prop := ∀ it : Iteration, it.property? key = none

/-- What a loop says about itself under a path. -/
def Iteration.own? (it : Iteration) (head : String) (keys : List String) : Option Document :=
  match head, keys with
  | "loop", [property] => it.property? property
  | _, _ => none

/-- The key of the item of a loop over a mapping. -/
def Iteration.itemKey? (it : Iteration) (head : String) (keys : List String) : Option Document :=
  it.key.bind fun pair => if head = pair.1 ∧ keys = [] then some (.string pair.2) else none

/-- The item of a loop, or a part of it. -/
def Iteration.itemPart? (it : Iteration) (head : String) (keys : List String) : Option Document :=
  if head = it.name then it.item.at? keys else none

theorem or_eq_match (first second : Option Document) :
    first.or second = match first with
      | some value => some value
      | none => second := by
  cases first <;> rfl

theorem Iteration.find?_eq (it : Iteration) (head : String) (keys : List String) :
    it.find? head keys = (it.own? head keys).or ((it.itemKey? head keys).or (it.itemPart? head keys)) := by
  unfold find? itemKey?
  rw [or_eq_match]
  cases it.key with
  | none => rfl
  | some pair =>
    by_cases h : head = pair.1 ∧ keys = []
    · simp only [if_pos h, Option.bind_some, Option.some_or]
      rfl
    · simp only [if_neg h, Option.bind_some, Option.none_or]
      rfl

section
variable {key : String} {first second : List String → Option Document}

theorem leadsOn_none : LeadsOn key fun _ => none :=
  ⟨fun _ => rfl, fun h => nomatch h⟩

theorem leadsOn_at? (d : Document) : LeadsOn key fun keys => d.at? keys := by
  constructor
  · intro keys h
    rw [Document.at?_append, h, Option.bind_none]
  · intro keys value part h hpart
    rw [Document.at?_append, h, Option.bind_some, hpart]

theorem leadsOn_bind {α : Type} (o : Option α) {find : α → List String → Option Document}
    (h : ∀ a, LeadsOn key (find a)) : LeadsOn key fun keys => o.bind (find · keys) := by
  cases o with
  | none => exact leadsOn_none
  | some a => exact h a

/-- A second place is tried where the first has nothing. -/
theorem LeadsOn.or (hfirst : LeadsOn key first) (hsecond : LeadsOn key second) :
    LeadsOn key fun keys => (first keys).or (second keys) := by
  constructor
  · intro keys h
    obtain ⟨hnone, hnone'⟩ := Option.or_eq_none_iff.1 h
    rw [hfirst.nowhere hnone, hsecond.nowhere hnone', Option.none_or]
  · intro keys d value h hpart
    rcases Option.or_eq_some_iff.1 h with hfound | ⟨hnone, hfound⟩
    · rw [hfirst.part hfound hpart, Option.some_or]
    · rw [hfirst.nowhere hnone, hsecond.part hfound hpart, Option.none_or]

theorem leadsOn_findSome? {α : Type} {find : α → List String → Option Document}
    (h : ∀ a, LeadsOn key (find a)) (places : List α) :
    LeadsOn key fun keys => places.findSome? (find · keys) := by
  induction places with
  | nil => exact leadsOn_none
  | cons a rest ih =>
    have hcons : ∀ keys, (a :: rest).findSome? (find · keys)
        = (find a keys).or (rest.findSome? (find · keys)) := by
      intro keys
      rw [List.findSome?_cons]
      cases find a keys <;> rfl
    simpa only [hcons] using (h a).or ih

/-- The item of a loop is reached by the name of the item only. -/
theorem leadsOn_item (it : Iteration) (head : String) :
    LeadsOn key (it.itemPart? head) := by
  unfold Iteration.itemPart?
  by_cases h : head = it.name
  · simpa only [if_pos h] using leadsOn_at? it.item
  · simpa only [if_neg h] using leadsOn_none

/-- The key of an item is a text, and a text has no parts. -/
theorem leadsOn_key (it : Iteration) (head : String) :
    LeadsOn key (it.itemKey? head) := by
  refine leadsOn_bind it.key fun pair => ⟨fun _ => ?_, fun {keys d value} h hpart => ?_⟩
  · exact if_neg fun hkeys => List.append_ne_nil_of_right_ne_nil _ (List.cons_ne_nil _ _) hkeys.2
  · split at h
    · cases h
      exact nomatch hpart
    · exact nomatch h

theorem at?_of_property? {it : Iteration} {property : String} {d : Document}
    (h : it.property? property = some d) : d.at? [key] = none := by
  unfold Iteration.property? at h
  split at h <;> cases h <;> rfl

/-- What a loop says about itself has no parts. -/
theorem leadsOn_own (hkey : IsPlain key) (it : Iteration) (head : String) :
    LeadsOn key (it.own? head) := by
  constructor
  · intro keys _
    unfold Iteration.own?
    split
    · rename_i property hkeys _
      have hsingle : keys ++ [key] = [] ++ [property] := hkeys
      obtain ⟨_, hlast⟩ := List.append_inj' hsingle rfl
      rw [← List.singleton_inj.1 hlast]
      exact hkey it
    · rfl
  · intro keys d value h hpart
    unfold Iteration.own? at h
    split at h
    · rw [at?_of_property? h] at hpart
      exact nomatch hpart
    · exact nomatch h

theorem leadsOn_iteration (hkey : IsPlain key) (it : Iteration) (head : String) :
    LeadsOn key (it.find? head) := by
  have h := (leadsOn_own hkey it head).or ((leadsOn_key it head).or (leadsOn_item it head))
  simpa only [← Iteration.find?_eq] using h

theorem leadsOn_frame (hkey : IsPlain key) (f : Frame) (head : String) : LeadsOn key (f.find? head) := by
  have hassigned : LeadsOn key fun keys => (f.assigned.lookup head).bind (·.at? keys) :=
    leadsOn_bind _ leadsOn_at?
  have h := hassigned.or (leadsOn_bind f.iteration fun it => leadsOn_iteration hkey it head)
  simp only [or_eq_match] at h
  exact h

theorem leadsOn_scope (hkey : IsPlain key) (s : Scope) (head : String) : LeadsOn key (s.find? head) := by
  have hframes := leadsOn_findSome? (fun f => leadsOn_frame hkey f head) s.frames
  have h := hframes.or (leadsOn_bind (s.context.lookup head) leadsOn_at?)
  simp only [or_eq_match] at h
  exact h

end

theorem resolveSteps_snoc {s : Scope} {steps : List Access} {keys : List String}
    (h : resolveSteps s steps = .ok keys) (key : String) :
    resolveSteps s (steps ++ [.key key]) = .ok (keys ++ [key]) := by
  induction steps generalizing keys with
  | nil =>
    cases h
    rfl
  | cons step rest ih =>
    rw [resolveSteps] at h
    obtain ⟨text, hstep, h⟩ := bind_eq_ok h
    cases hrest : resolveSteps s rest with
    | error fault =>
      rw [hrest] at h
      cases h
    | ok more =>
      rw [hrest] at h
      cases h
      rw [List.cons_append, resolveSteps, hstep, ih hrest]
      rfl

theorem find?_of_value {s : Scope} {head : String} {steps : List Access} {d : Document}
    (h : s.value head steps = .ok d) :
    ∃ keys, resolveSteps s steps = .ok keys ∧ s.find? head keys = some d := by
  obtain ⟨keys, hkeys, h⟩ := bind_eq_ok h
  refine ⟨keys, hkeys, ?_⟩
  split at h
  · rename_i value hvalue
    cases h
    exact hvalue
  · exact nomatch h

/-- A path that leads to a value leads to the parts of the value, one step further. -/
theorem value_part {s : Scope} {head key : String} {steps : List Access} {d part : Document}
    (h : s.value head steps = .ok d) (hkey : IsPlain key) (hpart : d.at? [key] = some part) :
    s.value head (steps ++ [.key key]) = .ok part := by
  obtain ⟨keys, hkeys, hfind⟩ := find?_of_value h
  unfold Scope.value
  rw [resolveSteps_snoc hkeys key]
  simp only [Except.bind, (leadsOn_scope hkey s head).part hfind hpart]

theorem evalExpr_path {r : Renderer} {s : Scope} {head : String} {steps : List Access}
    {d : Document} (h : s.value head steps = .ok d) :
    evalExpr r s (.ofTerm (.path head steps)) = .ok d := by
  simp [Expr.ofTerm, evalExpr, evalTerm, h, evalFilters, Except.bind, Except.map]

/-! ### Comparing expressions

Calls whose arguments are paths of keys and booleans can be compared. So what a text is read as is found out by
computation. -/

/-- Whether two paths have the same keys. -/
def sameSteps : List Access → List Access → Bool
  | [], [] => true
  | .key k :: rest, .key k' :: rest' => k == k' && sameSteps rest rest'
  | _, _ => false

/-- Whether two arguments are the same path or the same boolean. -/
def sameArgument : Expr → Expr → Bool
  | .mk (.path head steps) [] false, .mk (.path head' steps') [] false =>
    head == head' && sameSteps steps steps'
  | .mk (.bool value) [] false, .mk (.bool value') [] false => value == value'
  | _, _ => false

/-- Whether two lists have the same arguments with the same names. -/
def sameArguments : List (String × Expr) → List (String × Expr) → Bool
  | [], [] => true
  | (name, arg) :: rest, (name', arg') :: rest' =>
    name == name' && sameArgument arg arg' && sameArguments rest rest'
  | _, _ => false

/-- Whether nodes print one call and nothing else. -/
def printsCall (e : Expr) : List Node → Bool
  | [.print (.mk (.call (.mk name args)) [] false)] =>
    match e with
    | .mk (.call (.mk name' args')) [] false => name == name' && sameArguments args args'
    | _ => false
  | _ => false

theorem eq_of_sameSteps {steps steps' : List Access} (h : sameSteps steps steps' = true) :
    steps = steps' := by
  fun_induction sameSteps steps steps' with
  | case1 => rfl
  | case2 k rest k' rest' ih =>
    rw [Bool.and_eq_true, beq_iff_eq] at h
    rw [h.1, ih h.2]
  | case3 => cases h

theorem eq_of_sameArgument {e e' : Expr} (h : sameArgument e e' = true) : e = e' := by
  unfold sameArgument at h
  split at h
  · rw [Bool.and_eq_true, beq_iff_eq] at h
    rw [h.1, eq_of_sameSteps h.2]
  · rw [beq_iff_eq] at h
    rw [h]
  · cases h

theorem eq_of_sameArguments {args args' : List (String × Expr)} (h : sameArguments args args' = true) :
    args = args' := by
  fun_induction sameArguments args args' with
  | case1 => rfl
  | case2 name arg rest name' arg' rest' ih =>
    rw [Bool.and_eq_true, Bool.and_eq_true, beq_iff_eq] at h
    rw [h.1.1, eq_of_sameArgument h.1.2, ih h.2]
  | case3 => cases h

theorem eq_of_printsCall {e : Expr} {nodes : List Node} (h : printsCall e nodes = true) :
    nodes = [.print e] := by
  unfold printsCall at h
  split at h
  · split at h
    · rw [Bool.and_eq_true, beq_iff_eq] at h
      rw [h.1, eq_of_sameArguments h.2]
    · cases h
  · cases h

/-! ### Calls with the parts of a method -/

/-- A call of a function with a part of a method. -/
inductive MethodCall where
  | qualifiers
  | arglist (withNames : Bool)
  | arglistDropFirst (withNames : Bool)
  | argnamesForward (castReceiver : Bool)
  | argnamesRoute
deriving DecidableEq, Repr

namespace MethodCall

/-- The call as a template writes it, for a method that is named `m`. -/
def source : MethodCall → String
  | qualifiers => "\x7b\x7b qualifiers(q=m.qualifiers) \x7d\x7d"
  | arglist true => "\x7b\x7b arglist(params=m.params, with_names=true) \x7d\x7d"
  | arglist false => "\x7b\x7b arglist(params=m.params, with_names=false) \x7d\x7d"
  | arglistDropFirst true => "\x7b\x7b arglist_drop_first(params=m.params, with_names=true) \x7d\x7d"
  | arglistDropFirst false => "\x7b\x7b arglist_drop_first(params=m.params, with_names=false) \x7d\x7d"
  | argnamesForward true => "\x7b\x7b argnames_forward(params=m.params, cast_receiver=true) \x7d\x7d"
  | argnamesForward false => "\x7b\x7b argnames_forward(params=m.params, cast_receiver=false) \x7d\x7d"
  | argnamesRoute => "\x7b\x7b argnames_route(params=m.params) \x7d\x7d"

/-- The call for the method that a path leads to. -/
def expr (head : String) (steps : List Access) (call : MethodCall) : Expr :=
  let part key := Expr.ofTerm (.path head (steps ++ [.key key]))
  match call with
  | qualifiers => .call "qualifiers" [("q", part "qualifiers")]
  | arglist withNames => .call "arglist" [("params", part "params"), ("with_names", .bool withNames)]
  | arglistDropFirst withNames =>
    .call "arglist_drop_first" [("params", part "params"), ("with_names", .bool withNames)]
  | argnamesForward castReceiver =>
    .call "argnames_forward" [("params", part "params"), ("cast_receiver", .bool castReceiver)]
  | argnamesRoute => .call "argnames_route" [("params", part "params")]

/-- The operation of the formatter that the call is for, on the method itself. -/
def answer (formatter : Formatter) (call : MethodCall) (m : Method String) : String :=
  match call with
  | qualifiers => formatter.qualifiers m.qualifiers
  | arglist withNames => formatter.parameters withNames m.params
  | arglistDropFirst withNames => formatter.visibleParameters withNames m.params
  | argnamesForward castReceiver => formatter.forwarded castReceiver m.params
  | argnamesRoute => formatter.routed m.params

theorem parse?_source (call : MethodCall) : parse? call.source = some [.print (call.expr "m" [])] := by
  have hcheck : (parse? call.source).any (printsCall (call.expr "m" [])) = true := by
    cases call with
    | qualifiers => decide +kernel
    | arglist withNames => cases withNames <;> decide +kernel
    | arglistDropFirst withNames => cases withNames <;> decide +kernel
    | argnamesForward castReceiver => cases castReceiver <;> decide +kernel
    | argnamesRoute => decide +kernel
  cases hparse : parse? call.source with
  | none =>
    rw [hparse] at hcheck
    cases hcheck
  | some nodes =>
    rw [hparse] at hcheck
    rw [eq_of_printsCall hcheck]

section
variable {r : Renderer} {s : Scope} {head : String} {steps : List Access} {m : Method String}

/-- Wherever a path leads to a method, the call with it gives what the formatter gives. -/
theorem evalExpr_expr (h : s.value head steps = .ok m.document) (call : MethodCall) :
    evalExpr r s (call.expr head steps) = .ok (.string (call.answer r.formatter m)) := by
  have hqualifiers : s.value head (steps ++ [.key "qualifiers"]) = .ok m.qualifiers.toDocument :=
    value_part h (fun _ => rfl) rfl
  have hparams : s.value head (steps ++ [.key "params"])
      = .ok (.list (m.params.map Param.toDocument)) :=
    value_part h (fun _ => rfl) rfl
  cases call with
  | qualifiers => exact evalExpr_callQualifiers (evalExpr_path hqualifiers)
  | arglist withNames => exact evalExpr_callArglist (evalExpr_path hparams) withNames
  | arglistDropFirst withNames => exact evalExpr_callArglistDropFirst (evalExpr_path hparams) withNames
  | argnamesForward castReceiver =>
    exact evalExpr_callArgnamesForward (evalExpr_path hparams) castReceiver
  | argnamesRoute => exact evalExpr_callArgnamesRoute (evalExpr_path hparams)

end

end MethodCall

/-! ### Methods of a facet -/

theorem lookup_listKey (f : Facet) (provenance : Provenance) (kind : MethodKind) :
    (f.context provenance).lookup kind.listKey = some (.list ((f.methodsIn kind).map Method.document)) := by
  cases kind <;> rfl

/-- A method is reached by its position in the list of its kind. -/
theorem value_position {f : Facet} {kind : MethodKind} {position : Nat} {m : Method String}
    (h : (f.methodsIn kind)[position]? = some m) (provenance : Provenance) :
    (⟨[{}], f.context provenance⟩ : Scope).value kind.listKey [.key (toString position)]
      = .ok m.document := by
  have hbinds := Scope.binds_of_lookup (lookup_listKey f provenance kind)
  have hitem : (Document.list ((f.methodsIn kind).map Method.document)).at? [toString position]
      = some m.document := by
    rw [Document.at?, Document.position?_toString]
    simp [h, Document.at?]
  exact value_of_binds hbinds hitem

/-- A loop gives its item the name of the loop, whatever the name is. -/
theorem value_enter (s : Scope) (name : String) (item : Document) (index count : Nat) :
    (s.enter ⟨none, name, item, index, count⟩).value name [] = .ok item := by
  have hfind : (s.enter ⟨none, name, item, index, count⟩).find? name [] = some item := by
    simp [Scope.find?, Scope.enter, Frame.find?, Iteration.find?, Document.at?]
  simp [Scope.value, resolveSteps, Except.bind, hfind]

/-- **The functions of templates are the operations of the formatter.** With every formatter, library and
host, and for each call with a part of a method, as a template writes it: wherever a path leads to the method
the call evaluates, and to the text that the operation gives for the method itself. A path leads to each
method of a facet, by its position in the list of its kind and, in a loop over the list, by the name of the
item; so such a loop writes the texts for all methods in their order. -/
theorem functions_eq_formatter (r : Renderer) (call : MethodCall) :
    parse? call.source = some [.print (call.expr "m" [])] ∧
    (∀ (m : Method String) (s : Scope) (head : String) (steps : List Access),
      s.value head steps = .ok m.document →
        evalExpr r s (call.expr head steps) = .ok (.string (call.answer r.formatter m))) ∧
    ∀ (f : Facet) (provenance : Provenance) (kind : MethodKind),
      (∀ (position : Nat) (m : Method String), (f.methodsIn kind)[position]? = some m →
        evalExpr r ⟨[{}], f.context provenance⟩
            (call.expr kind.listKey [.key (toString position)])
          = .ok (.string (call.answer r.formatter m))) ∧
      ∀ name, Template.render r false
          [.loop none name (.var kind.listKey []) [.print (call.expr name [])] []] (f.context provenance)
        = .ok (((f.methodsIn kind).map (call.answer r.formatter)).foldr (· ++ ·) "") := by
  refine ⟨call.parse?_source, fun m s head steps h => call.evalExpr_expr h, ?_⟩
  intro f provenance kind
  refine ⟨fun position m h => call.evalExpr_expr (value_position h provenance), fun name => ?_⟩
  have hbinds := Scope.binds_of_lookup (lookup_listKey f provenance kind)
  have hloop : Renders r ⟨[{}], f.context provenance⟩
      [.loop none name (.var kind.listKey []) [.print (call.expr name [])] []]
      (((f.methodsIn kind).map (call.answer r.formatter)).foldr (· ++ ·) "") := by
    refine renders_loop Method.document (call.answer r.formatter) hbinds rfl fun m _ index count => ?_
    exact ⟨_, renders_print (call.evalExpr_expr (value_enter _ name m.document index count))⟩
  unfold Template.render
  rw [hloop]
  rfl

/-- A formatter that writes the type of a parameter behind its name. -/
def namesFirst : Formatter where
  qualifiers q := if q.isConst then "reads" else "writes"
  parameters withNames params :=
    Text.joinWith "; " (params.map fun p => if withNames then p.name ++ ": " ++ p.type else p.type)
  forwarded _ params := Text.joinWith " " (params.map (·.name))
  routed params := Text.joinWith " " (params.map (·.name)).reverse

/-- A method with a parameter whose type has quotes and brackets in it. -/
def quotedMethod : Method String :=
  ⟨"put", "void", .nonconst, {}, [.receiver .nonconst, ⟨"Tag<'\"', \"[0]\">", "tag"⟩, ⟨"int", "n"⟩], ""⟩

/-- The method is the second of its list. -/
def quotedFacet : Facet :=
  { (default : Facet) with nonconstMethods := [default, quotedMethod] }

theorem quotedFacet_visibleList :
    (quotedFacet.methodsIn .nonconst)[1]? = some quotedMethod ∧
    evalExpr ⟨.builtin, namesFirst, default⟩ ⟨[{}], quotedFacet.context default⟩
        ((MethodCall.arglistDropFirst true).expr "nonconst_methods" [.key (toString 1)])
      = .ok (.string "tag: Tag<'\"', \"[0]\">; n: int") :=
  ⟨rfl, ((functions_eq_formatter ⟨.builtin, namesFirst, default⟩ (.arglistDropFirst true)).2.2 quotedFacet
    default .nonconst).1 1 quotedMethod rfl⟩

end Template

end Faceting
