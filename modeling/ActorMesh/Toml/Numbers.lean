import ActorMesh.Toml.Strings

/-!
# Numbers of TOML

An integer has a sign and decimal digits without superfluous zeros, or a mark for its base and
digits of that base; it has to fit into 64 bits with a sign. A number with a fraction or an exponent
is any other number; it only has to stay below infinity. Underscores may stand between digits.
-/

namespace ActorMesh.Toml

/-- Whether the underscores in a run stand between digits; `after` tells whether a digit came
before. -/
def wellSpaced (after : Bool) : List Char → Bool
  | [] => after
  | c :: rest => if c = '_' then after && wellSpaced false rest else wellSpaced true rest

/-- Takes digits that satisfy `isDigit`, at least one, with single underscores between them. -/
def digitRun (isDigit : Char → Bool) : Reader (List Char) := fun cs =>
  let run := cs.takeWhile fun c => isDigit c || c = '_'
  if wellSpaced false run then some (run.filter (· ≠ '_'), cs.drop run.length) else none

/-- Takes a sign; whether it is a minus. -/
def sign : List Char → Bool × List Char
  | '+' :: rest => (false, rest)
  | '-' :: rest => (true, rest)
  | cs => (false, cs)

/-- Takes decimal digits without superfluous zeros in front. -/
def wholePart : Reader (List Char)
  | '0' :: rest => some (['0'], rest)
  | cs => digitRun Char.isDigit cs

/-- The number that digits spell in base ten. -/
def numberOf (ds : List Char) : Nat := ds.foldl (fun n c => 10 * n + (c.toNat - 48)) 0

/-- The number that digits spell in a base; what takes more than 64 bits counts as the least number
that does. -/
def wordOf (base : Nat) (ds : List Char) : Nat :=
  ds.foldl (fun n c => min UInt64.size (base * n + (hexValue? [c]).getD 0)) 0

/-- Whether an integer fits into 64 bits with a sign. -/
def isInt64 (n : Int) : Bool := Int64.minValue.toInt ≤ n && n ≤ Int64.maxValue.toInt

/-- Takes an integer; its value is missing if it does not fit. -/
def integer : Reader (Option Int)
  | '0' :: 'x' :: rest => based 16 (fun c => (hexValue? [c]).isSome) rest
  | '0' :: 'o' :: rest => based 8 (fun c => '0' ≤ c && c ≤ '7') rest
  | '0' :: 'b' :: rest => based 2 (fun c => c = '0' || c = '1') rest
  | cs =>
    let (negative, digits) := sign cs
    (wholePart digits).map fun (ds, rest) =>
      let n : Int := wordOf 10 ds
      (check (if negative then -n else n), rest)
where
  check (n : Int) : Option Int := if isInt64 n then some n else none
  based (base : Nat) (isDigit : Char → Bool) : Reader (Option Int) := fun cs =>
    (digitRun isDigit cs).map fun (ds, rest) => (check (wordOf base ds), rest)

/-- Takes an exponent. -/
def exponent : Reader Int
  | c :: rest =>
    if c = 'e' || c = 'E' then
      let (negative, digits) := sign rest
      (digitRun Char.isDigit digits).map fun (ds, rest') =>
        let n : Int := wordOf 10 ds
        (if negative then -n else n, rest')
    else none
  | [] => none

/-- Takes a fraction. -/
def fraction : Reader (List Char)
  | '.' :: rest => digitRun Char.isDigit rest
  | _ => none

/-- The middle between the largest number of double precision and the next power of two. -/
def doubleLimit : Nat := 0x3fffffffffffff <<< 970

/-- Whether digits with `e` zeros behind them, or a point before the last `-e` of them, spell a
number so large that the nearest one of double precision is infinity. -/
def exceedsDouble (ds : List Char) (e : Int) : Bool :=
  let significant := ds.dropWhile (· = '0')
  let size : Int := significant.length + e
  if significant.isEmpty || size ≤ 308 then false
  else if size ≥ 310 then true
  else if 0 ≤ e then decide (doubleLimit ≤ numberOf significant * Nat.pow 10 e.toNat)
  else decide (doubleLimit * Nat.pow 10 (-e).toNat ≤ numberOf significant)

/-- Takes a number with a fraction or an exponent; whether it is in range. Only a number without a
minus is held against the range. -/
def realNumber : Reader Bool := fun cs =>
  let (negative, digits) := sign cs
  (wholePart digits).bind fun (whole, rest) =>
    let build (frac : List Char) (e : Int) : Bool :=
      negative || !exceedsDouble (whole ++ frac) (e - frac.length)
    match fraction rest with
    | some (frac, rest') =>
      match exponent rest' with
      | some (e, rest'') => some (build frac e, rest'')
      | none => some (build frac 0, rest')
    | none => (exponent rest).map fun (e, rest') => (build [] e, rest')

/-- Takes one of the two words for what is no finite number. -/
def wordNumber : Reader Unit := fun cs =>
  let rest := (sign cs).2
  match expectAll ['i', 'n', 'f'] rest with
  | some rest' => some ((), rest')
  | none => (expectAll ['n', 'a', 'n'] rest).map ((), ·)

end ActorMesh.Toml
