import ActorMesh.Toml.Calendar
import ActorMesh.Toml.Numbers
import ActorMesh.Toml.Tree

/-!
# Documents of TOML

A document is a row of statements, each on lines of its own: headers and keys with values. Values
nest up to `maxDepth` levels, which is also the bound of a dotted key.

`parse?` gives the tree of tables that a text describes, or nothing if the text is at fault.
-/

namespace ActorMesh.Toml

/-- How many levels arrays and tables between braces may nest, and how many parts a key may have. -/
def maxDepth : Nat := 79

/-- What may stand in a key without marks. -/
def isBareKey (c : Char) : Bool := c.isAlphanum || c = '_' || c = '-'

/-- Takes one part of a key with the blanks around it. -/
def keyPart : Reader String := fun cs =>
  let cs := blanks cs
  let part : Option (String × List Char) :=
    match cs with
    | '"' :: _ | '\'' :: _ => shortString cs
    | _ =>
      let bare := cs.takeWhile isBareKey
      if bare.isEmpty then none else some (String.ofList bare, cs.drop bare.length)
  part.map fun (k, rest) => (k, blanks rest)

/-- Takes a key: the parts before its last one, and that. -/
def key : Reader (List String × String) := fun cs =>
  (items keyPart '.' cs).bind fun (parts, rest) =>
    if parts.length > maxDepth then none
    else parts.getLast?.map fun last => ((parts.dropLast, last), rest)

/-- Takes a value that holds no others. -/
def plainValue : Reader Tree := fun cs =>
  match cs with
  | '"' :: _ | '\'' :: _ => (string cs).map fun (s, rest) => (.text s, rest)
  | 't' :: _ => (expectAll ['t', 'r', 'u', 'e'] cs).map fun rest => (.truth true, rest)
  | 'f' :: _ => (expectAll ['f', 'a', 'l', 's', 'e'] cs).map fun rest => (.truth false, rest)
  | _ =>
    match calendar cs with
    | some rest => some (.moment, rest)
    | none =>
      match realNumber cs with
      | some (inRange, rest) => if inRange then some (.real, rest) else none
      | none =>
        match wordNumber cs with
        | some (_, rest) => some (.real, rest)
        | none => (integer cs).bind fun (n, rest) => n.map fun n => (.integer n, rest)

/-- Takes a key and its value. -/
def pair (value : Reader Tree) : Reader ((List String × String) × Tree) := fun cs => do
  let (k, cs) ← key cs
  let cs ← expect '=' cs
  let (v, cs) ← value (blanks cs)
  return ((k, v), blanks cs)

/-- Takes the rest of an array. -/
def arrayRest (value : Reader Tree) : Reader Tree := fun cs => do
  let (vs, cs) ← itemsOrNone
    (fun cs => (value (spacing cs)).map fun (v, rest) => (v, spacing rest)) ',' cs
  let cs := if vs.isEmpty then cs else (expect ',' cs).getD cs
  let cs ← expect ']' (spacing cs)
  return (.array vs, cs)

/-- Takes the rest of a table between braces. -/
def bracesRest (value : Reader Tree) : Reader Tree := fun cs => do
  let (pairs, cs) ← itemsOrNone (pair value) ',' cs
  let cs ← expect '\x7d' (blanks cs)
  let es ← Entries.assignAll [] pairs
  return (.table .braces es, cs)

/-- Takes a value; arrays and tables in it nest at most `depth` levels. -/
def value : Nat → Reader Tree
  | 0, cs => plainValue cs
  | depth + 1, cs =>
    match cs with
    | '[' :: rest => arrayRest (value depth) rest
    | '\x7b' :: rest => bracesRest (value depth) rest
    | _ => plainValue cs

/-- A header or a key with its value. -/
inductive Statement
  | table (key : List String × String)
  | item (key : List String × String)
  | pair (key : List String × String) (value : Tree)

/-- Takes a statement with its line. -/
def statement : Reader Statement := fun cs => do
  let (s, cs) ← match cs with
    | '[' :: '[' :: rest => do
      let (k, cs) ← key rest
      let cs ← expectAll [']', ']'] cs
      pure (Statement.item k, cs)
    | '[' :: rest => do
      let (k, cs) ← key rest
      let cs ← expect ']' cs
      pure (Statement.table k, cs)
    | _ => (pair (value maxDepth)).mapping (fun p => Statement.pair p.1 p.2) cs
  let cs ← lineEnd cs
  return (s, cs)

/-- Takes all statements after those that are done, last ones first. Each takes a character of the
bound. -/
def statements (done : List Statement) : List Char → List Char → Option (List Statement)
  | [], cs => if (spacing cs).isEmpty then some done.reverse else none
  | _ :: bound, cs =>
    match comment (spacing cs) with
    | [] => some done.reverse
    | _ =>
      match statement (spacing cs) with
      | some (s, rest) => statements (s :: done) bound rest
      | none => none

/-- The keys and values up to the next header after those that are done, last ones first, and the
rest. -/
def splitPairs (done : List ((List String × String) × Tree)) :
    List Statement → List ((List String × String) × Tree) × List Statement
  | .pair k v :: rest => splitPairs ((k, v) :: done) rest
  | more => (done.reverse, more)

/-- Adds the tables of the headers to the tree, at most `n`. -/
def addHeaders : Nat → Entries → List Statement → Option Entries
  | 0, es, _ => some es
  | _ + 1, es, [] => some es
  | n + 1, es, s :: rest =>
    let (pairs, more) := splitPairs [] rest
    let added := match s with
      | .table k => es.addTable k.1 k.2 pairs
      | .item k => es.addItem k.1 k.2 pairs
      | .pair k v => es.assign k v
    added.bind fun es' => addHeaders n es' more

/-- The tree of tables that statements describe. -/
def build (statements : List Statement) : Option Entries :=
  let (pairs, more) := splitPairs [] statements
  (Entries.assignAll [] pairs).bind fun es => addHeaders more.length es more

/-- The tree of tables that a text describes. -/
def parse? (text : String) : Option Entries :=
  let cs := match text.toList with
    | '\ufeff' :: rest => rest
    | cs => cs
  (statements [] cs cs).bind build

end ActorMesh.Toml
