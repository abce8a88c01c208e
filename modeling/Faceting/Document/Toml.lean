import Faceting.Document.Toml.Number

/-!
# Reading TOML

`Toml.read?` reads a text line by line into a tree of entries (`Entry`). A table remembers how it came
about, because that decides what may still be added to it: a table that headers or dotted keys only
passed through may be opened once by a header of its own; a table made by dotted keys grows by dotted
keys alone; a table in braces is complete.
-/

namespace Faceting.Toml

/-- What a key of a table stands for. -/
inductive Entry where
  /-- A value, complete as it stands. -/
  | value (document : Document)
  /-- A table. `passed` says that no header has opened it, `dotted` that dotted keys made it. -/
  | table (passed dotted : Bool) (members : List (String × Entry))
  /-- The tables of a list that headers in double brackets make. -/
  | tables (items : List (List (String × Entry)))
deriving Inhabited

/-- The members of a table. -/
abbrev Members := List (String × Entry)

mutual

/-- The document of an entry. -/
def Entry.document : Entry → Document
  | .value d => d
  | .table _ _ members => .mapping (documents members)
  | .tables items => .list (tableDocuments items)

/-- The documents of the members of a table. -/
def documents : List (String × Entry) → List (String × Document)
  | [] => []
  | (key, entry) :: rest => (key, entry.document) :: documents rest

/-- The documents of a list of tables. -/
def tableDocuments : List (List (String × Entry)) → List Document
  | [] => []
  | members :: rest => .mapping (documents members) :: tableDocuments rest

end

/-- Members with the entry of a key replaced, or added at the end. -/
def put (key : String) (entry : Entry) : Members → Members
  | [] => [(key, entry)]
  | (k, e) :: rest => if k = key then (key, entry) :: rest else (k, e) :: put key entry rest

/-- Applies a change to the last element of a list; nothing for the empty list. -/
def changeLast {α : Type} (f : α → Option α) (xs : List α) : Option (List α) :=
  match xs.reverse with
  | last :: before => (f last).map fun last => (last :: before).reverse
  | [] => none

/-- Changes the table at a path that a header names, making the tables on the way. -/
def inTable (f : Members → Option Members) : (path : List String) → Members → Option Members
  | [], members => f members
  | key :: path, members =>
    match members.lookup key with
    | none => (inTable f path []).map fun inner => put key (.table true false inner) members
    | some (.value _) => none
    | some (.tables items) =>
      (changeLast (inTable f path) items).map fun items => put key (.tables items) members
    | some (.table passed dotted inner) =>
      (inTable f path inner).map fun inner => put key (.table passed dotted inner) members

/-- Adds a value under a dotted key, making the tables on the way; `dotted` says whether dotted keys made
the table that the path starts at. -/
def addDotted (entry : Entry) : (dotted : Bool) → (path : List String) → (key : String) → Members →
    Option Members
  | _, [], key, members =>
    if (members.lookup key).isSome then none else some (members ++ [(key, entry)])
  | _, part :: path, key, members =>
    let check (dotted : Bool) : Bool := dotted || !path.isEmpty
    match members.lookup part with
    | none =>
      (addDotted entry true path key []).map fun inner => put part (.table true true inner) members
    | some (.value _) => none
    | some (.tables items) =>
      if check false then
        (changeLast (addDotted entry false path key) items).map fun items =>
          put part (.tables items) members
      else none
    | some (.table passed dotted inner) =>
      if passed && check dotted then
        (addDotted entry dotted path key inner).map fun inner =>
          put part (.table passed dotted inner) members
      else none

/-- Adds a value under a key of one or more parts. -/
def addValue (parts : List String) (entry : Entry) (members : Members) : Option Members :=
  match parts.reverse with
  | key :: path => addDotted entry false path.reverse key members
  | [] => none

/-- The text behind a given beginning. -/
def dropWord? : List Char → List Char → Option (List Char)
  | [], cs => some cs
  | w :: ws, c :: cs => if w = c then dropWord? ws cs else none
  | _ :: _, [] => none

/-- Reads a number, a date or a time. -/
def number? (cs : List Char) : Option (Document × List Char) :=
  match dateTime? cs with
  | some read => some read
  | none =>
    match float? cs with
    | some read => some read
    | none => integer? cs

mutual

/-- Reads a value; `depth` is the number of lists and tables that it may open. -/
def readValue : (fuel depth : Nat) → List Char → Option (Document × List Char)
  | 0, _, _ => none
  | fuel + 1, depth, cs =>
    match cs with
    | '"' :: _ => (string? cs).map fun (text, rest) => (.string text, rest)
    | '\'' :: _ => (string? cs).map fun (text, rest) => (.string text, rest)
    | '[' :: rest =>
      match depth with
      | 0 => none
      | depth + 1 =>
        (readItems fuel depth rest).map fun (items, rest) => (.list items, rest)
    | '\x7b' :: rest =>
      match depth with
      | 0 => none
      | depth + 1 =>
        match skipBlanks rest with
        | '\x7d' :: rest => some (.mapping [], rest)
        | rest =>
          (readMembers fuel depth [] rest).map fun (members, rest) =>
            (.mapping (documents members), rest)
    | 't' :: rest => (dropWord? ['r', 'u', 'e'] rest).map (.bool true, ·)
    | 'f' :: rest => (dropWord? ['a', 'l', 's', 'e'] rest).map (.bool false, ·)
    | cs => number? cs

/-- Reads the items of a list up to its closing bracket. -/
def readItems : (fuel depth : Nat) → List Char → Option (List Document × List Char)
  | 0, _, _ => none
  | fuel + 1, depth, cs =>
    (skipLines (cs.length + 1) cs).bind fun cs =>
      match cs with
      | ']' :: rest => some ([], rest)
      | cs =>
        (readValue fuel depth cs).bind fun (item, rest) =>
          (skipLines (rest.length + 1) rest).bind fun rest =>
            match rest with
            | ']' :: rest => some ([item], rest)
            | ',' :: rest => (readItems fuel depth rest).map fun (items, rest) => (item :: items, rest)
            | _ => none

/-- Reads the members of a table in braces, of which there is at least one, up to its closing brace. -/
def readMembers : (fuel depth : Nat) → Members → List Char → Option (Members × List Char)
  | 0, _, _, _ => none
  | fuel + 1, depth, members, cs =>
    (key? cs).bind fun (parts, rest) =>
      match rest with
      | '=' :: rest =>
        (readValue fuel depth (skipBlanks rest)).bind fun (value, rest) =>
          (addValue parts (.value value) members).bind fun members =>
            match skipBlanks rest with
            | '\x7d' :: rest => some (members, rest)
            | ',' :: rest => readMembers fuel depth members rest
            | _ => none
      | _ => none

end

/-- The tables read so far, and the path of the one that is open. -/
structure Reading where
  root : Members := []
  path : List String := []

/-- Opens the table of a header. -/
def openTable (parts : List String) (r : Reading) : Option Reading :=
  match parts.reverse with
  | [] => none
  | key :: before =>
    let opened (members : Members) : Option Members :=
      match members.lookup key with
      | none => some (put key (.table false false []) members)
      | some (.table true false inner) => some (put key (.table false false inner) members)
      | _ => none
    (inTable opened before.reverse r.root).map fun root => ⟨root, parts⟩

/-- Adds a table to the list of a header in double brackets. -/
def openItem (parts : List String) (r : Reading) : Option Reading :=
  match parts.reverse with
  | [] => none
  | key :: before =>
    let add (members : Members) : Option Members :=
      match members.lookup key with
      | none => some (put key (.tables [[]]) members)
      | some (.tables items) => some (put key (.tables (items ++ [[]])) members)
      | _ => none
    (inTable add before.reverse r.root).map fun root => ⟨root, parts⟩

/-- Reads the header of a table. -/
def readHeader (cs : List Char) (r : Reading) : Option (Reading × List Char) :=
  match cs with
  | '[' :: rest =>
    (key? rest).bind fun (parts, rest) =>
      (dropWord? [']', ']'] rest).bind fun rest =>
        (endLine? rest).bind fun rest => (openItem parts r).map (·, rest)
  | cs =>
    (key? cs).bind fun (parts, rest) =>
      (dropWord? [']'] rest).bind fun rest =>
        (endLine? rest).bind fun rest => (openTable parts r).map (·, rest)

/-- Reads a key and its value. -/
def readPair (cs : List Char) (r : Reading) : Option (Reading × List Char) :=
  (key? cs).bind fun (parts, rest) =>
    match rest with
    | '=' :: rest =>
      (readValue (2 * rest.length + 2) (nestingLimit - 1) (skipBlanks rest)).bind fun (value, rest) =>
        (endLine? rest).bind fun rest =>
          (inTable (addValue parts (.value value)) r.path r.root).map fun root => (⟨root, r.path⟩, rest)
    | _ => none

/-- Reads lines up to the end of the text. -/
def readLines : (fuel : Nat) → Reading → List Char → Option Reading
  | 0, _, _ => none
  | fuel + 1, r, cs =>
    match skipBlanks cs with
    | [] => some r
    | '#' :: rest => (endLine? ('#' :: rest)).bind (readLines fuel r)
    | '[' :: rest => (readHeader rest r).bind fun (r, rest) => readLines fuel r rest
    | rest =>
      match newline? rest with
      | some rest => readLines fuel r rest
      | none => (readPair rest r).bind fun (r, rest) => readLines fuel r rest

/-- Reads a text. Every line takes at least one character, so the fuel does not run out. -/
def read? (text : String) : Option Document :=
  let cs :=
    match text.toList with
    | '\ufeff' :: rest => rest
    | cs => cs
  (readLines (cs.length + 1) {} cs).map fun r => .mapping (documents r.root)

end Faceting.Toml
