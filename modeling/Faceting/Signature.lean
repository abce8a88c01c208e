import Faceting.Schema
import Faceting.Text.Split

/-!
# Signatures

How the parameters and qualifiers of a method are written in declarations and in calls. A `Formatter` is
whatever does that for templates; the one that is used writes in a `SignatureStyle`, which holds the
words that are not given by the method.
-/

namespace Faceting

/-- The operations on signatures that templates may call. The first parameter is the receiver. -/
structure Formatter where
  /-- The qualifiers behind a parameter list. -/
  qualifiers : Qualifiers → String
  /-- The parameter list of a declaration, with or without names. -/
  parameters : (withNames : Bool) → List Param → String
  /-- The parameter list of a declaration, without the receiver. -/
  visibleParameters : (withNames : Bool) → List Param → String :=
    fun withNames params => parameters withNames params.tail
  /-- The arguments of a call that passes all parameters on, the receiver cast down if asked for. -/
  forwarded : (castReceiver : Bool) → List Param → String
  /-- The arguments of a call from a router. -/
  routed : List Param → String

/-- The words of signatures and calls. -/
structure SignatureStyle where
  /-- The function that casts the receiver down to its representation. -/
  cast : String := "_dcast"
  /-- The expression for the receiver in a router. -/
  accessor : String := "O::data()"
  /-- The mark of methods that do not throw. -/
  nothrow : String := "noexcept"
deriving DecidableEq, Repr, Inhabited

namespace SignatureStyle

/-- Pieces of a list in a signature or call. -/
def commaList (pieces : List String) : String :=
  Text.joinWith ", " pieces

/-- A parameter in a declaration, with or without its name. -/
def declare (withNames : Bool) (p : Param) : String :=
  if withNames then p.type ++ " " ++ p.name else p.type

/-- The qualifiers behind a parameter list. -/
def qualifiers (style : SignatureStyle) (q : Qualifiers) : String :=
  Text.joinWith " "
    ((if q.isConst then ["const"] else []) ++ (if q.noexcept then [style.nothrow] else []))

/-- The parameter list of a declaration. -/
def parameters (withNames : Bool) (params : List Param) : String :=
  commaList (params.map (declare withNames))

/-- The parameter list of a declaration, without the receiver. -/
def visibleParameters (withNames : Bool) (params : List Param) : String :=
  parameters withNames params.tail

/-- The arguments of a call that passes all parameters on, the receiver cast down if asked for. -/
def forwarded (style : SignatureStyle) (castReceiver : Bool) (params : List Param) : String :=
  match params with
  | [] => ""
  | receiver :: rest =>
    commaList
      ((if castReceiver then style.cast ++ "(" ++ receiver.name ++ ")" else receiver.name) ::
        rest.map Param.name)

/-- The arguments of a call from a router, in which the accessor stands for the receiver. -/
def routed (style : SignatureStyle) (params : List Param) : String :=
  match params with
  | [] => ""
  | _ :: rest => commaList (style.accessor :: rest.map Param.name)

/-- The formatter that writes in a style. -/
def formatter (style : SignatureStyle) : Formatter where
  qualifiers := style.qualifiers
  parameters := parameters
  forwarded := style.forwarded
  routed := style.routed

instance : Coe SignatureStyle Formatter := ⟨formatter⟩

end SignatureStyle

end Faceting
