import Faceting.Facet
import Faceting.Proofs.Schema.WellFormed
import Mathlib.Data.List.Forall2
import Mathlib.Logic.Function.Iterate

/-!
# Receivers

A completed method has its receiver as first parameter. Two laws about adding it fit together:

* a list that starts with the receiver of its kind is left alone (`withReceiver_of_head?`), so adding the
  receiver again changes nothing (`iterate_withReceiver`);
* a list in which no parameter has the name of the receiver gets the receiver in front
  (`withReceiver_of_forall_ne`). Such are the lists of parameters that can be declared.

So each method of an accepted description has its receiver exactly once (`receiver_exactly_once`).
-/

namespace Faceting

/-! ### Adding the receiver -/

section
variable (kind : MethodKind) (params : List Param)

theorem startsWithReceiver_iff :
    params.head?.any (·.isReceiver kind) = true ↔ params.head? = some (Param.receiver kind) := by
  have hreceiver : ∀ p : Param, p.isReceiver kind = true ↔ p = Param.receiver kind := fun p => beq_iff_eq
  rw [Option.any_eq_true]
  constructor
  · intro h
    obtain ⟨p, hhead, hp⟩ := h
    rw [hhead, (hreceiver p).1 hp]
  · intro h
    exact ⟨Param.receiver kind, h, (hreceiver _).2 rfl⟩

/-- A list that starts with the receiver is left alone. -/
theorem withReceiver_of_head? {kind : MethodKind} {params : List Param}
    (h : params.head? = some (Param.receiver kind)) : withReceiver kind params = params := by
  rw [withReceiver, if_pos ((startsWithReceiver_iff kind params).2 h)]

/-- A list that starts with anything else gets the receiver in front. -/
theorem withReceiver_of_head?_ne {kind : MethodKind} {params : List Param}
    (h : params.head? ≠ some (Param.receiver kind)) :
    withReceiver kind params = Param.receiver kind :: params := by
  rw [withReceiver, if_neg fun hstart => h ((startsWithReceiver_iff kind params).1 hstart)]

theorem head?_withReceiver : (withReceiver kind params).head? = some (Param.receiver kind) := by
  by_cases h : params.head? = some (Param.receiver kind)
  · rw [withReceiver_of_head? h]
    exact h
  · rw [withReceiver_of_head?_ne h]
    rfl

/-- Adding the receiver again and again is adding it once. -/
theorem iterate_withReceiver (n : Nat) :
    (withReceiver kind)^[n + 1] params = withReceiver kind params := by
  have hfixed : withReceiver kind (withReceiver kind params) = withReceiver kind params :=
    withReceiver_of_head? (head?_withReceiver kind params)
  rw [Function.iterate_succ_apply]
  exact Function.iterate_fixed hfixed n

/-- The receiver is added to a list in which no parameter has its name. -/
theorem withReceiver_of_forall_ne {kind : MethodKind} {params : List Param}
    (h : ∀ p ∈ params, p.name ≠ "data") : withReceiver kind params = Param.receiver kind :: params := by
  apply withReceiver_of_head?_ne
  intro hhead
  exact h _ (List.mem_of_head? hhead) rfl

end

/-! ### Methods of accepted descriptions -/

/-- The second method is the first, of a kind, with the receiver of that kind in front of its parameters
and nowhere else. -/
structure Method.ReceivesOnce (kind : MethodKind) (declared : Method (List String))
    (completed : Method String) : Prop where
  declaredKind : declared.kind = kind
  completedKind : completed.kind = kind
  params : completed.params = Param.receiver kind :: declared.params
  visible : completed.visibleParams = declared.params
  once : (completed.params.map Param.name).count "data" = 1
  first : (completed.params.map Param.name).head? = some "data"

theorem Method.WellFormed.receivesOnce {kind : MethodKind} {m : Method (List String)}
    (h : m.WellFormed kind) : m.ReceivesOnce kind m.complete := by
  have hnames : ∀ p ∈ m.params, p.name ≠ "data" := fun p hp => (h.params p hp).notReceiver
  have hparams : m.complete.params = Param.receiver kind :: m.params := by
    show withReceiver m.kind m.params = _
    rw [h.kind]
    exact withReceiver_of_forall_ne hnames
  have hfree : (m.params.map Param.name).count "data" = 0 := by
    rw [List.count_eq_zero]
    intro hmem
    obtain ⟨p, hp, hname⟩ := List.mem_map.1 hmem
    exact hnames p hp hname
  refine ⟨h.kind, h.kind, hparams, ?_, ?_, ?_⟩
  · show m.complete.params.tail = m.params
    rw [hparams]
    rfl
  · rw [hparams]
    show ("data" :: m.params.map Param.name).count "data" = 1
    rw [List.count_cons_self, hfree]
  · rw [hparams]
    rfl

/-- Methods of a kind have their receivers when they are completed. -/
theorem forall₂_receivesOnce {kind : MethodKind} {ms : List (Method (List String))}
    (h : ∀ m ∈ ms, m.WellFormed kind) :
    List.Forall₂ (Method.ReceivesOnce kind) ms (ms.map Method.complete) := by
  rw [List.forall₂_map_right_iff, List.forall₂_same]
  exact fun m hm => (h m hm).receivesOnce

/-- **The receiver is there exactly once.**  In the facet of an accepted description each method of either
list has the receiver of that list before the declared parameters, which are unchanged, and no other
parameter with its name. For all parameters whatsoever, adding the receiver any number of times is adding
it once, and it is then the first. -/
theorem receiver_exactly_once :
    (∀ (d : Document) (s : Schema), Schema.ofDocument d = .ok s →
      List.Forall₂ (Method.ReceivesOnce .const) s.constMethods (Facet.ofSchema s).constMethods ∧
        List.Forall₂ (Method.ReceivesOnce .nonconst) s.nonconstMethods
          (Facet.ofSchema s).nonconstMethods) ∧
      ∀ (kind : MethodKind) (params : List Param) (n : Nat),
        (withReceiver kind)^[n + 1] params = withReceiver kind params ∧
          (withReceiver kind params).head? = some (Param.receiver kind) := by
  constructor
  · intro d s hd
    have hs := Schema.wellFormed_of_ofDocument hd
    exact ⟨forall₂_receivesOnce hs.constMethods, forall₂_receivesOnce hs.nonconstMethods⟩
  · intro kind params n
    exact ⟨iterate_withReceiver kind params n, head?_withReceiver kind params⟩

/-- A description with a parameter that has the type of a receiver, and one whose name begins with the
name of a receiver. -/
def lookalikeDocument : Document :=
  .mapping [("facet", .string "Draw"), ("namespace1", .string "a"), ("namespace2", .string "b"),
    ("brief", .string ""),
    ("const_methods", .list [.mapping [("name", .string "size"), ("return", .string "int"),
      ("const", .bool false), ("args", .list [.mapping [("type", .string "Copaque"), ("name", .string "self")],
        .mapping [("type", .string "Opaque"), ("name", .string "data_")]])]]),
    ("nonconst_methods", .list [.mapping [("name", .string "clear"), ("return", .string "void")]])]

theorem lookalike_receiver :
    ∃ s size clear size' clear', Schema.ofDocument lookalikeDocument = .ok s ∧
      s.constMethods = [size] ∧ s.nonconstMethods = [clear] ∧
      (Facet.ofSchema s).constMethods = [size'] ∧ (Facet.ofSchema s).nonconstMethods = [clear'] ∧
      size.ReceivesOnce .const size' ∧ clear.ReceivesOnce .nonconst clear' := by
  refine ⟨_, _, _, _, _, rfl, rfl, rfl, rfl, rfl, ?_⟩
  obtain ⟨hconst, hnonconst⟩ := receiver_exactly_once.1 lookalikeDocument _ rfl
  obtain ⟨hsize, -⟩ := List.forall₂_cons.1 hconst
  obtain ⟨hclear, -⟩ := List.forall₂_cons.1 hnonconst
  exact ⟨hsize, hclear⟩

end Faceting
