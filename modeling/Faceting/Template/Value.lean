import Faceting.Document
import Faceting.Number.Shortest
import Faceting.Text.Split

/-!
# Values in templates

How templates look at documents: whether a value counts as true, what it looks like in print, whether
two values are equal, what its items are, and which part of it a path leads to.
-/

namespace Faceting.Document

/-- A number as a double. -/
def toDouble? : Document → Option UInt64
  | .int n => some (Double.ofInt n)
  | .float bits => some bits
  | _ => none

/-- Whether a value counts as true: not null, not false, not zero and not empty. -/
def isTruthy : Document → Bool
  | .null => false
  | .bool value => value
  | .int n => n != 0
  | .float bits => Double.toUnits bits != 0
  | .string text => text != ""
  | .list items => !items.isEmpty
  | .mapping members => !members.isEmpty

mutual

/-- A value as it is printed: null is empty, lists stand in brackets, and mappings are not shown. -/
def display : Document → String
  | .null => ""
  | .bool true => "true"
  | .bool false => "false"
  | .int n => toString n
  | .float bits => Double.toText bits
  | .string text => text
  | .list items => "[" ++ Text.joinWith ", " (displayItems items) ++ "]"
  | .mapping _ => "[object]"

/-- The printed items of a list. -/
def displayItems : List Document → List String
  | [] => []
  | item :: rest => display item :: displayItems rest

end

mutual

/-- Whether two documents in canonical form are the same. -/
def same : Document → Document → Bool
  | .null, .null => true
  | .bool a, .bool b => a == b
  | .int a, .int b => a == b
  | .float a, .float b => a == b
  | .string a, .string b => a == b
  | .list a, .list b => sameItems a b
  | .mapping a, .mapping b => sameMembers a b
  | _, _ => false

/-- Whether two lists have the same items. -/
def sameItems : List Document → List Document → Bool
  | [], [] => true
  | a :: as, b :: bs => same a b && sameItems as bs
  | _, _ => false

/-- Whether two mappings have the same members. -/
def sameMembers : List (String × Document) → List (String × Document) → Bool
  | [], [] => true
  | (k, a) :: as, (l, b) :: bs => k == l && same a b && sameMembers as bs
  | _, _ => false

end

/-- Whether two values are equal: numbers by their value, with no number equal to anything else. -/
def equals (a b : Document) : Bool :=
  match a.toDouble?, b.toDouble? with
  | some x, some y => Double.toUnits x == Double.toUnits y
  | none, none => same a.canonical b.canonical
  | _, _ => false

/-- The items that a loop runs over, each with its key in a mapping: the items of a list, the
characters of a text, the members of a mapping in ascending order of keys. -/
def items? : Document → Option (List (Option String × Document))
  | .list items => some (items.map fun item => (none, item))
  | .string text => some (text.toList.map fun c => (none, .string (String.ofList [c])))
  | .mapping members => some ((collapse members).map fun (key, value) => (some key, value))
  | _ => none

/-- The position in a list that a text names: decimal digits without a leading zero. -/
def position? (text : String) : Option Nat :=
  match text.toList with
  | [] => none
  | ['0'] => some 0
  | '0' :: _ => none
  | digits =>
    if digits.all Char.isDigit then
      some (digits.foldl (fun n c => n * 10 + (c.toNat - '0'.toNat)) 0)
    else none

/-- The part of a value that keys and positions lead to. -/
def at? : List String → Document → Option Document
  | [], d => some d
  | key :: rest, .mapping members => (members.lookup key).bind (at? rest)
  | key :: rest, .list items => ((position? key).bind (items[·]?)).bind (at? rest)
  | _ :: _, _ => none

end Faceting.Document
