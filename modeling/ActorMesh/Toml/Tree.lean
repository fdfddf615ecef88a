/-!
# Tables of TOML

A document describes a tree of tables. Tables come into being in four ways (`Origin`), and the way
decides what may still be added later: a header may complete a table that so far was only implied by
a longer header, a dotted key may go on with a table that dotted keys began, and nothing else may be
reopened.
-/

namespace ActorMesh.Toml

/-- How a table came into being. -/
inductive Origin
  /-- By a header of its own, or as the whole document. -/
  | header
  /-- On the way of a header. -/
  | implied
  /-- On the way of a dotted key. -/
  | dotted
  /-- Between braces. -/
  | braces
  deriving DecidableEq, Repr

/-- A value of a document. -/
inductive Tree
  | integer (n : Int)
  | real
  | truth (b : Bool)
  | text (s : String)
  /-- A date, a time of day or both. -/
  | moment
  | array (items : List Tree)
  | table (origin : Origin) (entries : List (String × Tree))
  /-- The tables of a header in double brackets. -/
  | tables (items : List (List (String × Tree)))
  deriving Repr

/-- The named values of a table. -/
abbrev Entries := List (String × Tree)

namespace Entries

/-- The value under a name. -/
def find? (es : Entries) (k : String) : Option Tree :=
  (List.find? (fun e => e.1 == k) es).map (·.2)

/-- Sets the value under a name. -/
def set (k : String) (v : Tree) : Entries → Entries
  | [] => [(k, v)]
  | (k', v') :: rest => if k = k' then (k, v) :: rest else (k', v') :: set k v rest

/-- Changes the table that a path leads to. Tables that are missing on the way are made, as the
origin `way` says; of an array of tables the last one is meant. The change is told how the table
came into being, and whether it is the one the path starts from. -/
def update (way : Origin) (change : Origin → Entries → Option Entries) :
    List String → Origin → Entries → Option Entries
  | [], origin, es => change origin es
  | k :: path, _, es =>
    match find? es k with
    | none => (update way change path way []).map fun inner => es ++ [(k, .table way inner)]
    | some (.table origin inner) =>
      if origin = .braces || (way = .dotted && origin = .header) then none
      else (update way change path origin inner).map fun inner' =>
        set k (.table origin inner') es
    | some (.tables items) =>
      match items.getLast? with
      | none => none
      | some last =>
        (update way change path .header last).map fun last' =>
          set k (.tables (items.dropLast ++ [last'])) es
    | some _ => none

/-- Gives a value a new name. -/
def add (k : String) (v : Tree) (es : Entries) : Option Entries :=
  match find? es k with
  | none => some (es ++ [(k, v)])
  | some _ => none

/-- Puts a value under a dotted key; the tables on its way belong to dotted keys alone. -/
def assign (es : Entries) (key : List String × String) (v : Tree) : Option Entries :=
  update .dotted
    (fun origin inner => if key.1.isEmpty || origin = .dotted then add key.2 v inner else none)
    key.1 .header es

/-- Puts values under dotted keys, one after another. -/
def assignAll (es : Entries) (pairs : List ((List String × String) × Tree)) : Option Entries :=
  pairs.foldlM (fun es p => assign es p.1 p.2) es

/-- Adds the table of a header with its values. -/
def addTable (es : Entries) (path : List String) (name : String)
    (pairs : List ((List String × String) × Tree)) : Option Entries :=
  update .implied
    (fun _ inner =>
      match find? inner name with
      | none => (assignAll [] pairs).map fun body => inner ++ [(name, .table .header body)]
      | some (.table .implied known) =>
        (assignAll known pairs).map fun body => set name (.table .header body) inner
      | some _ => none)
    path .header es

/-- Adds one more table of a header in double brackets with its values. -/
def addItem (es : Entries) (path : List String) (name : String)
    (pairs : List ((List String × String) × Tree)) : Option Entries :=
  update .implied
    (fun _ inner =>
      match find? inner name with
      | none => (assignAll [] pairs).map fun body => inner ++ [(name, .tables [body])]
      | some (.tables items) =>
        (assignAll [] pairs).map fun body => set name (.tables (items ++ [body])) inner
      | some _ => none)
    path .header es

end Entries

end ActorMesh.Toml
