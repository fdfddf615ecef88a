import ActorMesh.Toml.Reader

/-!
# Strings of TOML

A string stands between quotes, where a backslash marks special characters, or between apostrophes,
where every character stands for itself. With three marks on each side it may run over lines; the
end of a line right after the opening marks does not count, and up to two marks may stand right
before the closing ones.
-/

namespace ActorMesh.Toml

/-- What may stand in a string without a special meaning, marks and backslash apart. -/
def isStringChar (c : Char) : Bool := isComment c

/-- The value of digits in base sixteen. -/
def hexValue? (cs : List Char) : Option Nat :=
  cs.foldl
    (fun n c => n.bind fun n =>
      if c.isDigit then some (16 * n + (c.toNat - 48))
      else if 'a' ≤ c ∧ c ≤ 'f' then some (16 * n + (c.toNat - 87))
      else if 'A' ≤ c ∧ c ≤ 'F' then some (16 * n + (c.toNat - 55))
      else none)
    (some 0)

/-- The character with a code point given in base sixteen. -/
def codePoint? (cs : List Char) : Option Char :=
  (hexValue? cs).bind fun n => if h : n.isValidChar then some (Char.ofNatAux n h) else none

/-- Takes what stands behind a backslash. -/
def escaped : Reader Char
  | 'b' :: rest => some ('\x08', rest)
  | 'f' :: rest => some ('\x0c', rest)
  | 'n' :: rest => some ('\n', rest)
  | 'r' :: rest => some ('\r', rest)
  | 't' :: rest => some ('\t', rest)
  | '"' :: rest => some ('"', rest)
  | '\\' :: rest => some ('\\', rest)
  | 'u' :: a :: b :: c :: d :: rest => (codePoint? [a, b, c, d]).map (·, rest)
  | 'U' :: a :: b :: c :: d :: e :: f :: g :: h :: rest =>
    (codePoint? [a, b, c, d, e, f, g, h]).map (·, rest)
  | _ => none

/-- Takes the characters up to the closing quote, and the quote, after those that are done, last
ones first. The bound has at least as many characters as are taken. -/
def quotedBody (done : List Char) : List Char → Reader (List Char)
  | _ :: bound, c :: rest =>
    if c = '"' then some (done.reverse, rest)
    else if c = '\\' then
      match escaped rest with
      | some (d, rest') => quotedBody (d :: done) bound rest'
      | none => none
    else if isStringChar c then quotedBody (c :: done) bound rest
    else none
  | _, _ => none

/-- Takes the characters up to the closing apostrophe, and the apostrophe, after those that are
done, last ones first. -/
def literalBody (done : List Char) : Reader (List Char)
  | [] => none
  | c :: rest =>
    if c = '\'' then some (done.reverse, rest)
    else if isStringChar c then literalBody (c :: done) rest
    else none

/-- Passes over the end of a line right after the opening marks. -/
def afterOpening (cs : List Char) : List Char := (newline? cs).getD cs

/-- Passes over blanks and ends of lines. -/
def foldedSpace (cs : List Char) : List Char :=
  skipMany (fun cs => match cs with
    | [] => none
    | c :: rest => if isBlank c then some rest else newline? (c :: rest)) cs cs

/-- What a run of `count` closing marks means: text, or the end with text before it. -/
def closing (mark : Char) (count : Nat) : Option (List Char × Bool) :=
  if count ≤ 2 then some (List.replicate count mark, false)
  else if count ≤ 5 then some (List.replicate (count - 3) mark, true)
  else none

/-- Takes the characters of a string over lines up to its closing marks, and these, after those that
are done, last ones first. The bound has at least as many characters as are taken. Where `escapes`
holds, a backslash marks special characters, and one at the end of a line folds the space after it
away. -/
def linesBody (mark : Char) (escapes : Bool) (done : List Char) :
    List Char → Reader (List Char)
  | _ :: bound, c :: rest =>
    if c = mark then
      let run := (c :: rest).takeWhile (· = mark)
      match closing mark run.length with
      | none => none
      | some (text, true) => some ((text ++ done).reverse, (c :: rest).drop run.length)
      | some (text, false) =>
        linesBody mark escapes (text ++ done) bound ((c :: rest).drop run.length)
    else if escapes && c = '\\' then
      match newline? (blanks rest) with
      | some rest' => linesBody mark escapes done bound (foldedSpace rest')
      | none =>
        match escaped rest with
        | some (d, rest') => linesBody mark escapes (d :: done) bound rest'
        | none => none
    else
      match newline? (c :: rest) with
      | some rest' => linesBody mark escapes ('\n' :: done) bound rest'
      | none => if isStringChar c then linesBody mark escapes (c :: done) bound rest else none
  | _, _ => none

/-- Takes a string on one line. -/
def shortString : Reader String
  | '"' :: rest => (quotedBody [] rest).mapping String.ofList rest
  | '\'' :: rest => (literalBody []).mapping String.ofList rest
  | _ => none

/-- Takes a string of any form. -/
def string : Reader String
  | '"' :: '"' :: '"' :: rest =>
    (linesBody '"' true [] rest).mapping String.ofList (afterOpening rest)
  | '\'' :: '\'' :: '\'' :: rest =>
    (linesBody '\'' false [] rest).mapping String.ofList (afterOpening rest)
  | cs => shortString cs

end ActorMesh.Toml
