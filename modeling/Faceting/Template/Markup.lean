import Faceting.Template.Tree
import Faceting.Text.Character

/-!
# Markup of templates

The structure of a template's text. A tag may have a dash at either end; a dash removes the white space
between the tag and the text next to it. `toNodes` carries that out and leaves the nodes.

* A dash at the start of a tag trims the end of the text before it, one at its end the start of the text
  behind it; the parts of a branch trim each other's bodies.
* In a loop with an alternative body, the dashes of the first and the last tag apply to the first body,
  and dashes inside the alternative body have no effect at all.
-/

namespace Faceting.Template

/-- Whether a tag has a dash at its start and at its end. -/
structure Dashes where
  left : Bool
  right : Bool
deriving DecidableEq, Repr, Inhabited

/-- An element of a template's text. -/
inductive Markup where
  | text (value : String)
  | comment (dashes : Dashes)
  | print (dashes : Dashes) (expr : Expr)
  | assign (dashes : Dashes) (name : String) (expr : Expr)
  | raw (first : Dashes) (value : String) (last : Dashes)
  | branch (cases : List (Dashes × Expr × List Markup)) (otherwise : Option (Dashes × List Markup))
      (last : Dashes)
  | loop (first : Dashes) (key : Option String) (item : String) (container : Expr)
      (body : List Markup) (empty : List Markup) (last : Dashes)
deriving Inhabited

/-- The text without the white space at its start, at its end, or both. -/
def trimText (start finish : Bool) (text : String) : String :=
  let cs := text.toList
  let cs := if start then cs.dropWhile Text.isBlank else cs
  String.ofList (if finish then (cs.reverse.dropWhile Text.isBlank).reverse else cs)

namespace Markup

/-- Whether the element starts with a dash. -/
def startsWithDash : Markup → Bool
  | .text _ => false
  | .comment dashes => dashes.left
  | .print dashes _ => dashes.left
  | .assign dashes _ _ => dashes.left
  | .raw first _ _ => first.left
  | .branch ((dashes, _, _) :: _) _ _ => dashes.left
  | .branch [] _ _ => false
  | .loop first _ _ _ _ _ _ => first.left

/-- Whether the element ends with a dash. -/
def endsWithDash : Markup → Bool
  | .text _ => false
  | .comment dashes => dashes.right
  | .print dashes _ => dashes.right
  | .assign dashes _ _ => dashes.right
  | .raw _ _ last => last.right
  | .branch _ _ last => last.right
  | .loop _ _ _ _ _ _ last => last.right

end Markup

/-- Whether a dash follows: that of the next element, or the one behind the list. -/
def dashFollows (after : Bool) : List Markup → Bool
  | [] => after
  | next :: _ => next.startsWithDash

/-- Whether the case behind a list of cases starts with a dash. -/
def caseFollows (after : Bool) : List (Dashes × Expr × List Markup) → Bool
  | [] => after
  | (dashes, _, _) :: _ => dashes.left

mutual

/-- The nodes of elements that stand between two tags; `before` and `after` say whether those have a
dash on this side, and `active` whether dashes count. -/
def toNodes (active before after : Bool) : List Markup → List Node
  | [] => []
  | .text value :: rest =>
    let text := trimText (active && before) (active && dashFollows after rest) value
    if text = "" then toNodes active false after rest
    else .text text :: toNodes active false after rest
  | .comment dashes :: rest => toNodes active dashes.right after rest
  | element :: rest => toNode active element :: toNodes active element.endsWithDash after rest

/-- The node of an element that is neither text nor a comment. -/
def toNode (active : Bool) : Markup → Node
  | .text value => .text value
  | .comment _ => .text ""
  | .print _ e => .print e
  | .assign _ name e => .assign name e
  | .raw first value last => .text (trimText (active && first.right) (active && last.left) value)
  | .branch cases none last => .branch (toCases active last.left cases) []
  | .branch cases (some (dashes, body)) last =>
    .branch (toCases active dashes.left cases) (toNodes active dashes.right last.left body)
  | .loop first key item container body empty last =>
    .loop key item container (toNodes active first.right last.left body) (toNodes false false false empty)

/-- The cases of a branch; `after` says whether the tag behind the last one starts with a dash. -/
def toCases (active after : Bool) : List (Dashes × Expr × List Markup) → List (Expr × List Node)
  | [] => []
  | (dashes, condition, body) :: rest =>
    (condition, toNodes active dashes.right (caseFollows after rest) body) :: toCases active after rest

end

end Faceting.Template
