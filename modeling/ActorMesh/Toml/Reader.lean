/-!
# Reading TOML: blanks, lines and lists

A reader takes characters off the front and hands back the rest, or fails. Of a document that is at
fault only the fact is told, so a failure carries nothing.

`skipMany` and `itemsOnto` go on while there is input. Every round takes at least one character, so
the input itself bounds their rounds: a character of the bound is spent in each.
-/

namespace ActorMesh.Toml

/-- Takes a value off the front. -/
abbrev Reader (α : Type) := List Char → Option (α × List Char)

/-- A blank inside a line. -/
def isBlank (c : Char) : Bool := c = ' ' || c = '\t'

/-- What may stand in a comment: all but the control characters other than the tab. -/
def isComment (c : Char) : Bool := c = '\t' || (c.toNat ≥ 0x20 && c.toNat ≠ 0x7F)

/-- Passes over blanks. -/
def blanks (cs : List Char) : List Char := cs.dropWhile isBlank

/-- Passes over a comment that starts here, if one does. -/
def comment : List Char → List Char
  | '#' :: rest => rest.dropWhile isComment
  | cs => cs

/-- Takes one end of a line. -/
def newline? : List Char → Option (List Char)
  | '\n' :: rest => some rest
  | '\r' :: '\n' :: rest => some rest
  | _ => none

/-- Takes what may follow a statement on its line, and the end of the line or of the document. -/
def lineEnd (cs : List Char) : Option (List Char) :=
  match comment (blanks cs) with
  | [] => some []
  | rest => newline? rest

/-- Takes the given character. -/
def expect (c : Char) : List Char → Option (List Char)
  | d :: rest => if c = d then some rest else none
  | [] => none

/-- Takes the given characters. -/
def expectAll : List Char → List Char → Option (List Char)
  | [], cs => some cs
  | c :: more, cs => (expect c cs).bind (expectAll more)

/-- Passes over what `step` takes, as often as it takes something and the bound allows. -/
def skipMany (step : List Char → Option (List Char)) : List Char → List Char → List Char
  | [], cs => cs
  | _ :: bound, cs =>
    match step cs with
    | some rest => skipMany step bound rest
    | none => cs

/-- Takes a blank, or the end of a line with the comment before it. -/
def blankOrNewline : List Char → Option (List Char)
  | [] => none
  | c :: rest => if isBlank c then some rest else newline? (comment (c :: rest))

/-- Passes over blanks, comments and ends of lines. -/
def spacing (cs : List Char) : List Char := skipMany blankOrNewline cs cs

/-- Takes more items, each behind a separator, after those that are done, last ones first. A
separator that no item follows is left in place. -/
def itemsOnto {α : Type} (item : Reader α) (separator : Char) (done : List α) :
    List Char → List Char → List α × List Char
  | [], cs => (done.reverse, cs)
  | _ :: bound, cs =>
    match (expect separator cs).bind item with
    | some (a, rest) => itemsOnto item separator (a :: done) bound rest
    | none => (done.reverse, cs)

/-- Takes one or more items with a separator between them. -/
def items {α : Type} (item : Reader α) (separator : Char) : Reader (List α) := fun cs =>
  (item cs).map fun (a, rest) => itemsOnto item separator [a] rest rest

/-- Takes any number of items with a separator between them. -/
def itemsOrNone {α : Type} (item : Reader α) (separator : Char) : Reader (List α) := fun cs =>
  match items item separator cs with
  | some found => some found
  | none => some ([], cs)

/-- Changes the value that a reader takes. -/
def Reader.mapping {α β : Type} (r : Reader α) (f : α → β) : Reader β := fun cs =>
  (r cs).map fun (a, rest) => (f a, rest)

end ActorMesh.Toml
