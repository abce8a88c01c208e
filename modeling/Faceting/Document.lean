/-!
# Documents

A document is what a description, a configuration or a manifest says once its text has been read,
whichever format the text was in. Readers keep the members of a mapping as they were written, in
order and with repetitions; `Document.canonical` is the form in which each key stands once, with
the value that was written last, and keys are in ascending order.
-/

namespace Faceting

/-- A value of a data format. A float is held by its bits, so that equal documents are equal values
also where a number is not equal to itself. -/
inductive Document where
  | null
  | bool (value : Bool)
  | int (value : Int)
  | float (bits : UInt64)
  | string (text : String)
  | list (items : List Document)
  | mapping (members : List (String × Document))
deriving Repr, Inhabited

namespace Document

/-- Whether the document is a mapping. -/
def isMapping : Document → Bool
  | .mapping _ => true
  | _ => false

/-- Puts a member into members that are in ascending order of keys, in place of one with that key. -/
def insertMember (key : String) (value : Document) :
    List (String × Document) → List (String × Document)
  | [] => [(key, value)]
  | (k, v) :: rest =>
    if key < k then (key, value) :: (k, v) :: rest
    else if key = k then (key, value) :: rest
    else (k, v) :: insertMember key value rest

/-- The members in ascending order of keys, of members with one key only the last. -/
def collapse (members : List (String × Document)) : List (String × Document) :=
  members.foldl (fun sorted (key, value) => insertMember key value sorted) []

mutual

/-- The form in which every mapping has each key once and its keys in ascending order. -/
def canonical : Document → Document
  | .list items => .list (canonicalItems items)
  | .mapping members => .mapping (collapse (canonicalMembers members))
  | .null => .null
  | .bool value => .bool value
  | .int value => .int value
  | .float bits => .float bits
  | .string text => .string text

/-- The canonical forms of the items of a list. -/
def canonicalItems : List Document → List Document
  | [] => []
  | item :: rest => canonical item :: canonicalItems rest

/-- The members with the canonical forms of their values. -/
def canonicalMembers : List (String × Document) → List (String × Document)
  | [] => []
  | (key, value) :: rest => (key, canonical value) :: canonicalMembers rest

end

/-- The value of a member of a mapping; of several with that key the first. -/
def member? (key : String) : Document → Option Document
  | .mapping members => members.lookup key
  | _ => none

end Document

end Faceting
