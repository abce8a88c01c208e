import Faceting.Number.Decimal
import Faceting.Template.Markup

/-!
# Reading templates

`Template.parse?` reads the text of a template. Text runs up to the next opening of a tag; tags print
(`{{ … }}`), comment (`{# … #}`) or control (`{% … %}`). Every reader takes what it reads off the front
of the text and gives what is left, or nothing if the text does not start that way.

What is read is the part of the language that is written out here: paths, literals, lists, comparisons,
conditions, calls, filters, assignments, branches, loops, raw text and comments. Blocks, includes, imports,
macros, arithmetic and tests belong to the language too, and texts with them are not read here.
-/

namespace Faceting.Template

/-- A reader of the front of a text. -/
abbrev Read (α : Type) := Option (α × List Char)

/-! ### Words and literals -/

/-- Whether white space inside a tag. -/
def isTagSpace (c : Char) : Bool :=
  c == ' ' || c == '\t' || c == '\r' || c == '\n'

/-- The text behind its white space. -/
def skipTagSpace (cs : List Char) : List Char :=
  cs.dropWhile isTagSpace

/-- The text behind a given beginning. -/
def dropWord? : List Char → List Char → Option (List Char)
  | [], cs => some cs
  | w :: ws, c :: cs => if w = c then dropWord? ws cs else none
  | _ :: _, [] => none

/-- The text behind a word and at least one white space. -/
def dropSpaced? (word : String) (cs : List Char) : Option (List Char) :=
  (dropWord? word.toList cs).bind fun rest =>
    if rest.head?.any isTagSpace then some (skipTagSpace rest) else none

/-- Whether a name may hold the character. -/
def isNameChar (c : Char) : Bool :=
  c.isAlphanum || c == '_'

/-- Reads a name. -/
def readName (cs : List Char) : Read String :=
  let name := cs.takeWhile isNameChar
  match name with
  | [] => none
  | c :: _ => if c.isDigit then none else some (String.ofList name, cs.drop name.length)

/-- Reads a text in quotes of one of three kinds; nothing is escaped in it. -/
def readQuoted (cs : List Char) : Read String :=
  match cs with
  | quote :: rest =>
    if quote == '"' || quote == '\'' || quote == '\x60' then
      let text := rest.takeWhile (· != quote)
      match rest.drop text.length with
      | _ :: rest => some (String.ofList text, rest)
      | [] => none
    else none
  | [] => none

/-- The digits of a whole number without leading zeros, and what follows. -/
def wholeDigits (cs : List Char) : List Char × List Char :=
  match cs with
  | '0' :: rest => (['0'], rest)
  | cs => (cs.takeWhile Char.isDigit, cs.dropWhile Char.isDigit)

/-- Reads a number, with a minus sign if it has one. -/
def readNumber (cs : List Char) : Read Term :=
  let (negative, body) := match cs with | '-' :: rest => (true, rest) | cs => (false, cs)
  let (whole, rest) := wholeDigits body
  if whole.isEmpty then none
  else
    let fraction :=
      match rest with
      | '.' :: rest => (rest.takeWhile Char.isDigit, rest.dropWhile Char.isDigit)
      | rest => ([], rest)
    if fraction.1.isEmpty then
      let n : Int := if negative then -(Decimal.value 0 whole : Int) else Decimal.value 0 whole
      if Number.fitsSigned n then some (.int n, rest) else none
    else
      (Decimal.toDouble? ((if negative then ['-'] else []) ++ whole ++ '.' :: fraction.1)).map
        fun bits => (.float bits, fraction.2)

/-- Reads a boolean. -/
def readBool (cs : List Char) : Read Bool :=
  let word (text : String) (value : Bool) : Read Bool :=
    (dropWord? text.toList cs).map (value, ·)
  (word "true" true).or <| (word "false" false).or <| (word "True" true).or (word "False" false)

/-! ### Paths -/

/-- Reads the steps of a path: keys behind dots, and texts, numbers and further paths in brackets. -/
def readSteps : (fuel : Nat) → List Char → List Access × List Char
  | fuel + 1, '.' :: rest =>
    let key := rest.takeWhile isNameChar
    if key.isEmpty then ([], '.' :: rest)
    else
      let (steps, rest) := readSteps fuel (rest.drop key.length)
      (.key (String.ofList key) :: steps, rest)
  | fuel + 1, '[' :: rest =>
    let index : Read Access :=
      match readQuoted rest with
      | some (text, rest) => some (.key text, rest)
      | none =>
        match readNumber rest with
        | some (.int n, rest) => some (.key (toString n), rest)
        | some _ => none
        | none =>
          (readName rest).map fun (head, rest) =>
            let (steps, rest) := readSteps fuel rest
            (.lookup head steps, rest)
    match index with
    | some (step, ']' :: after) =>
      let (steps, after) := readSteps fuel after
      (step :: steps, after)
    | _ => ([], '[' :: rest)
  | _, cs => ([], cs)

/-! ### Expressions -/

/-- Reads the operator of a comparison. -/
def readComparison (cs : List Char) : Read Operator :=
  match cs with
  | '<' :: '=' :: rest => some (.le, rest)
  | '>' :: '=' :: rest => some (.ge, rest)
  | '<' :: rest => some (.lt, rest)
  | '>' :: rest => some (.gt, rest)
  | '=' :: '=' :: rest => some (.eq, rest)
  | '!' :: '=' :: rest => some (.ne, rest)
  | _ => none

/-- Arguments of which the last with each name is kept. -/
def lastArguments (args : List (String × Expr)) : List (String × Expr) :=
  args.foldl (fun kept arg => kept.filter (·.1 != arg.1) ++ [arg]) []

/-- An expression with its negation turned. -/
def negateExpr : Expr → Expr
  | .mk term filters negated => .mk term filters (!negated)

/-- The call of a function. What is left of the text tells where the call stands. -/
def callTerm (site : Nat) (name : String) (args : List (String × Expr)) : Term :=
  match Standard.ofName? name with
  | some f => .standard site f args
  | none => .call (.mk name args)

mutual

/-- Reads a disjunction. -/
def readLogic : (fuel : Nat) → List Char → Read Expr
  | 0, _ => none
  | fuel + 1, cs => (readConjunction fuel cs).map fun (lhs, rest) => readMore fuel lhs rest
where
  /-- Reads further members of a disjunction. -/
  readMore : (fuel : Nat) → Expr → List Char → Expr × List Char
    | 0, lhs, cs => (lhs, cs)
    | fuel + 1, lhs, cs =>
      match (dropSpaced? "or" (skipTagSpace cs)).bind (readConjunction fuel) with
      | some (rhs, rest) => readMore fuel (.ofTerm (.logic .or lhs rhs)) rest
      | none => (lhs, cs)

/-- Reads a conjunction. -/
def readConjunction : (fuel : Nat) → List Char → Read Expr
  | 0, _ => none
  | fuel + 1, cs => (readCondition fuel cs).map fun (lhs, rest) => readMore fuel lhs rest
where
  /-- Reads further members of a conjunction. -/
  readMore : (fuel : Nat) → Expr → List Char → Expr × List Char
    | 0, lhs, cs => (lhs, cs)
    | fuel + 1, lhs, cs =>
      match (dropSpaced? "and" (skipTagSpace cs)).bind (readCondition fuel) with
      | some (rhs, rest) => readMore fuel (.ofTerm (.logic .and lhs rhs)) rest
      | none => (lhs, cs)

/-- Reads a comparison or a logical expression in parentheses, negated or not. -/
def readCondition : (fuel : Nat) → List Char → Read Expr
  | 0, _ => none
  | fuel + 1, cs =>
    let (negated, cs) :=
      match dropSpaced? "not" cs with
      | some rest => (true, rest)
      | none => (false, cs)
    let read : Read Expr :=
      match cs with
      | '(' :: rest =>
        (readLogic fuel (skipTagSpace rest)).bind fun (e, rest) =>
          match skipTagSpace rest with
          | ')' :: rest => some (e, rest)
          | _ => none
      | cs =>
        (readOperand fuel cs).bind fun (lhs, rest) =>
          match readComparison (skipTagSpace rest) with
          | none => some (lhs, rest)
          | some (op, after) =>
            match readOperand fuel (skipTagSpace after) with
            | some (rhs, rest) => some (.ofTerm (.logic op lhs rhs), rest)
            | none => some (lhs, rest)
    read.map fun (e, rest) => (if negated then negateExpr e else e, rest)

/-- Reads a term and its filters. -/
def readOperand : (fuel : Nat) → List Char → Read Expr
  | 0, _ => none
  | fuel + 1, cs =>
    (readTerm fuel cs).map fun (term, rest) =>
      let (filters, rest) := readFilters fuel rest
      (.mk term filters false, rest)

/-- Reads a term. -/
def readTerm : (fuel : Nat) → List Char → Read Term
  | 0, _ => none
  | fuel + 1, cs =>
    match readQuoted cs with
    | some (text, rest) => some (.text text, rest)
    | none =>
      match readBool cs with
      | some (value, rest) => some (.bool value, rest)
      | none =>
        match readName cs with
        | none => readNumber cs
        | some (name, rest) =>
          match readArguments fuel (skipTagSpace rest) with
          | some (args, rest) => some (callTerm rest.length name args, rest)
          | none =>
            let (steps, rest) := readSteps (rest.length + 1) rest
            some (.path name steps, rest)

/-- Reads filters behind bars. -/
def readFilters : (fuel : Nat) → List Char → List Call × List Char
  | 0, cs => ([], cs)
  | fuel + 1, cs =>
    match skipTagSpace cs with
    | '|' :: rest =>
      match readName (skipTagSpace rest) with
      | none => ([], cs)
      | some (name, rest) =>
        let (args, rest) :=
          match readArguments fuel (skipTagSpace rest) with
          | some (args, rest) => (args, rest)
          | none => ([], rest)
        let (filters, rest) := readFilters fuel rest
        (.mk name args :: filters, rest)
    | _ => ([], cs)

/-- Reads named arguments in parentheses. -/
def readArguments : (fuel : Nat) → List Char → Read (List (String × Expr))
  | fuel + 1, '(' :: rest =>
    (readNamed fuel (skipTagSpace rest)).map fun (args, rest) => (lastArguments args, rest)
  | _, _ => none

/-- Reads named arguments up to the closing parenthesis. -/
def readNamed : (fuel : Nat) → List Char → Read (List (String × Expr))
  | 0, _ => none
  | _ + 1, ')' :: rest => some ([], rest)
  | fuel + 1, cs =>
    (readName cs).bind fun (name, rest) =>
      match skipTagSpace rest with
      | '=' :: rest =>
        (readValue fuel (skipTagSpace rest)).bind fun (value, rest) =>
          match skipTagSpace rest with
          | ')' :: rest => some ([(name, value)], rest)
          | ',' :: rest =>
            (readNamed fuel (skipTagSpace rest)).map fun (args, rest) => ((name, value) :: args, rest)
          | _ => none
      | _ => none

/-- Reads a logical expression or a list. -/
def readValue : (fuel : Nat) → List Char → Read Expr
  | 0, _ => none
  | fuel + 1, cs =>
    match cs with
    | '[' :: rest =>
      (readItems fuel (skipTagSpace rest)).map fun (items, rest) =>
        let (filters, rest) := readFilters fuel rest
        (.mk (.array items) filters false, rest)
    | cs => readLogic fuel cs

/-- Reads the items of a list up to the closing bracket. -/
def readItems : (fuel : Nat) → List Char → Read (List Expr)
  | 0, _ => none
  | _ + 1, ']' :: rest => some ([], rest)
  | fuel + 1, cs =>
    (readCondition fuel cs).bind fun (item, rest) =>
      match skipTagSpace rest with
      | ']' :: rest => some ([item], rest)
      | ',' :: rest => (readItems fuel (skipTagSpace rest)).map fun (items, rest) => (item :: items, rest)
      | _ => none

end

/-! ### Tags -/

/-- The fuel that is enough for the expressions of a text. -/
def expressionFuel (cs : List Char) : Nat :=
  8 * cs.length + 8

/-- Reads the end of a tag: whether it has a dash, and the rest. -/
def closeTag? (mark : Char) (cs : List Char) : Read Bool :=
  match skipTagSpace cs with
  | '-' :: m :: '\x7d' :: rest => if m = mark then some (true, rest) else none
  | m :: '\x7d' :: rest => if m = mark then some (false, rest) else none
  | _ => none

/-- A dash at the start of what is behind the opening of a tag. -/
def openDash (cs : List Char) : Bool × List Char :=
  match cs with
  | '-' :: rest => (true, rest)
  | cs => (false, cs)

/-- The text up to the next opening of a tag, and the rest. -/
def takeText : List Char → List Char × List Char
  | [] => ([], [])
  | '\x7b' :: c :: rest =>
    if c == '\x7b' || c == '%' || c == '#' then ([], '\x7b' :: c :: rest)
    else let (text, rest) := takeText (c :: rest); ('\x7b' :: text, rest)
  | c :: rest => let (text, rest) := takeText rest; (c :: text, rest)

/-- Reads the rest of a comment: the dash at its end, and what is behind it. -/
def readComment : List Char → Read Bool
  | '-' :: '#' :: '\x7d' :: rest => some (true, rest)
  | '#' :: '\x7d' :: rest => some (false, rest)
  | _ :: rest => readComment rest
  | [] => none

/-- Reads a control tag that is a single word: its dashes and the rest. -/
def wordTag? (word : String) (cs : List Char) : Read Dashes :=
  match cs with
  | '\x7b' :: '%' :: rest =>
    let (left, rest) := openDash rest
    (dropWord? word.toList (skipTagSpace rest)).bind fun rest =>
      (closeTag? '%' rest).map fun (right, rest) => (⟨left, right⟩, rest)
  | _ => none

/-- The text up to the tag that ends it, and the dashes of that tag. -/
def takeRaw : List Char → Option (List Char × Dashes × List Char)
  | [] => none
  | c :: rest =>
    match wordTag? "endraw" (c :: rest) with
    | some (dashes, rest) => some ([], dashes, rest)
    | none => (takeRaw rest).map fun (text, dashes, rest) => (c :: text, dashes, rest)

/-- Reads a tag with a condition: its dashes, the condition and the rest. -/
def conditionTag? (word : String) (cs : List Char) : Read (Dashes × Expr) :=
  match cs with
  | '\x7b' :: '%' :: rest =>
    let (left, rest) := openDash rest
    (dropSpaced? word (skipTagSpace rest)).bind fun rest =>
      (readLogic (expressionFuel rest) rest).bind fun (condition, rest) =>
        (closeTag? '%' rest).map fun (right, rest) => ((⟨left, right⟩, condition), rest)
  | _ => none

/-- Reads an assignment. -/
def assignTag? (cs : List Char) : Read Markup :=
  match cs with
  | '\x7b' :: '%' :: rest =>
    let (left, rest) := openDash rest
    (dropSpaced? "set" (skipTagSpace rest)).bind fun rest =>
      (readName rest).bind fun (name, rest) =>
        match skipTagSpace rest with
        | '=' :: rest =>
          let rest := skipTagSpace rest
          (readValue (expressionFuel rest) rest).bind fun (value, rest) =>
            (closeTag? '%' rest).map fun (right, rest) => (.assign ⟨left, right⟩ name value, rest)
        | _ => none
  | _ => none

/-- The opening tag of a loop. -/
structure LoopTag where
  dashes : Dashes
  key : Option String
  item : String
  container : Expr

/-- Reads what a loop runs over: a term with filters, or a list. -/
def readContainer (cs : List Char) : Read Expr :=
  match cs with
  | '[' :: _ => readValue (expressionFuel cs) cs
  | cs => readOperand (expressionFuel cs) cs

/-- Reads the opening tag of a loop. -/
def loopTag? (cs : List Char) : Read LoopTag :=
  match cs with
  | '\x7b' :: '%' :: rest =>
    let (left, rest) := openDash rest
    (dropSpaced? "for" (skipTagSpace rest)).bind fun rest =>
      (readName rest).bind fun (first, rest) =>
        let names : Read (Option String × String) :=
          match rest with
          | ',' :: rest =>
            (readName (skipTagSpace rest)).map fun (second, rest) => ((some first, second), rest)
          | rest => some ((none, first), rest)
        names.bind fun ((key, item), rest) =>
          if rest.head?.any isTagSpace then
            (dropSpaced? "in" (skipTagSpace rest)).bind fun rest =>
              (readContainer rest).bind fun (container, rest) =>
                (closeTag? '%' rest).map fun (right, rest) => (⟨⟨left, right⟩, key, item, container⟩, rest)
          else none
  | _ => none

/-- Reads an expression to print. -/
def printTag? (cs : List Char) : Read Markup :=
  match cs with
  | '\x7b' :: '\x7b' :: rest =>
    let (left, rest) := openDash rest
    let rest := skipTagSpace rest
    (readValue (expressionFuel rest) rest).bind fun (e, rest) =>
      match skipTagSpace rest with
      | '-' :: '\x7d' :: '\x7d' :: rest => some (.print ⟨left, true⟩ e, rest)
      | '\x7d' :: '\x7d' :: rest => some (.print ⟨left, false⟩ e, rest)
      | _ => none
  | _ => none

/-- Reads a comment. -/
def commentTag? (cs : List Char) : Read Markup :=
  match cs with
  | '\x7b' :: '#' :: rest =>
    let (left, rest) := openDash rest
    (readComment rest).map fun (right, rest) => (.comment ⟨left, right⟩, rest)
  | _ => none

/-- Reads text that is not looked into. -/
def rawTag? (cs : List Char) : Read Markup :=
  (wordTag? "raw" cs).bind fun (first, rest) =>
    (takeRaw rest).map fun (text, last, rest) => (.raw first (String.ofList text) last, rest)

/-- The first reader that reads something. -/
def firstOf {α : Type} (cs : List Char) : List (List Char → Read α) → Read α
  | [] => none
  | read :: rest => (read cs).or (firstOf cs rest)

mutual

/-- Reads elements up to the end of the text or a tag that starts none; that tag is left. -/
def readElements : (fuel : Nat) → List Char → List Markup × List Char
  | 0, cs => ([], cs)
  | fuel + 1, cs =>
    match readElement fuel cs with
    | some (element, rest) =>
      let (elements, rest) := readElements fuel rest
      (element :: elements, rest)
    | none => ([], cs)

/-- Reads one element. -/
def readElement : (fuel : Nat) → List Char → Read Markup
  | 0, _ => none
  | fuel + 1, cs =>
    let (text, rest) := takeText cs
    if text.isEmpty then
      match firstOf cs [printTag?, commentTag?, assignTag?, rawTag?] with
      | some read => some read
      | none =>
        match conditionTag? "if" cs with
        | some ((dashes, condition), rest) => readBranch fuel [] dashes condition rest
        | none =>
          match loopTag? cs with
          | some (tag, rest) => readLoop fuel tag rest
          | none => none
    else some (.text (String.ofList text), rest)

/-- Reads the rest of a branch, from the body of a case on; `cases` are those before, last first. -/
def readBranch : (fuel : Nat) → (cases : List (Dashes × Expr × List Markup)) → Dashes → Expr →
    List Char → Read Markup
  | 0, _, _, _, _ => none
  | fuel + 1, cases, dashes, condition, cs =>
    let (body, rest) := readElements fuel cs
    let cases := (dashes, condition, body) :: cases
    match conditionTag? "elif" rest with
    | some ((dashes, condition), rest) => readBranch fuel cases dashes condition rest
    | none =>
      match wordTag? "else" rest with
      | some (dashes, rest) =>
        let (otherwise, rest) := readElements fuel rest
        (wordTag? "endif" rest).map fun (last, rest) =>
          (.branch cases.reverse (some (dashes, otherwise)) last, rest)
      | none =>
        (wordTag? "endif" rest).map fun (last, rest) => (.branch cases.reverse none last, rest)

/-- Reads the rest of a loop. -/
def readLoop : (fuel : Nat) → LoopTag → List Char → Read Markup
  | 0, _, _ => none
  | fuel + 1, tag, cs =>
    let (body, rest) := readElements fuel cs
    let (empty, rest) :=
      match wordTag? "else" rest with
      | some (_, rest) => readElements fuel rest
      | none => ([], rest)
    (wordTag? "endfor" rest).map fun (last, rest) =>
      (.loop tag.dashes tag.key tag.item tag.container body empty last, rest)

end

/-- Reads the text of a template. -/
def parse? (text : String) : Option (List Node) :=
  let cs := text.toList
  let (elements, rest) := readElements (4 * cs.length + 4) cs
  if rest.isEmpty then some (toNodes true false false elements) else none

end Faceting.Template
