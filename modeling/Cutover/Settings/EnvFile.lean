import Cutover.Value

/-!
# Files of variables

A file of variables has a line for each: a name, an equals sign and a value, which may be quoted.
Comments start with a number sign. A variable may refer to others by `$` and braces, with a default
behind a colon and a hyphen.

* `EnvFile.read`: the variables of a file as they are written;
* `EnvFile.resolve`: their values with references replaced.
-/

namespace Cutover.EnvFile

/-- A text in which every end of a line is a line feed. -/
def withLineFeeds : List Char → List Char
  | [] => []
  | '\r' :: '\n' :: r => '\n' :: withLineFeeds r
  | c :: r => (if c = '\r' then '\n' else c) :: withLineFeeds r

/-- The end of a line. -/
def isLineEnd (c : Char) : Bool := c = '\n'

/-- A blank within a line. -/
def isLineBlank (c : Char) : Bool := isBlank c && !isLineEnd c

/-- What follows the word that may stand before a name. -/
def skipExport (cs : List Char) : List Char :=
  match cs with
  | 'e' :: 'x' :: 'p' :: 'o' :: 'r' :: 't' :: c :: r =>
    if isLineBlank c then r.dropWhile isLineBlank else cs
  | _ => cs

/-- A name at the front, unless a comment starts there. None when there is no name. -/
def readName (cs : List Char) : Option (Option String × List Char) :=
  match cs with
  | '#' :: _ => some (none, cs)
  | c :: r =>
    if c = singleQuote then
      let name := r.takeWhile (· ≠ singleQuote)
      match r.drop name.length with
      | _ :: rest => if name.isEmpty then none else some (some (String.ofList name), rest)
      | [] => none
    else
      let name := cs.takeWhile fun c => c != '=' && c != '#' && !isBlank c
      if name.isEmpty then none else some (some (String.ofList name), cs.drop name.length)
  | [] => none

/-- The number of characters before the closing quote. A backslash takes along the character behind it,
which has to be on the same line. -/
def closingQuote? (quote : Char) : List Char → Option Nat
  | [] => none
  | [c] => if c = quote then some 0 else none
  | c :: d :: r =>
    if c = quote then some 0
    else if c = backslash then
      if isLineEnd d then none else (closingQuote? quote r).map (· + 2)
    else (closingQuote? quote (d :: r)).map (· + 1)

/-- The character an escape in double quotes stands for. -/
def escapedChar? (c : Char) : Option Char :=
  if c = backslash ∨ c = singleQuote ∨ c = doubleQuote then some c
  else if c = 'a' then some (Char.ofNat 7)
  else if c = 'b' then some (Char.ofNat 8)
  else if c = 'f' then some (Char.ofNat 12)
  else if c = 'n' then some '\n'
  else if c = 'r' then some '\r'
  else if c = 't' then some '\t'
  else if c = 'v' then some (Char.ofNat 11)
  else none

/-- The character an escape in single quotes stands for. -/
def escapedPlain? (c : Char) : Option Char :=
  if c = backslash ∨ c = singleQuote then some c else none

/-- A text with its escapes replaced. -/
def unescape (escape? : Char → Option Char) : List Char → List Char
  | [] => []
  | [c] => [c]
  | b :: c :: r =>
    if b = backslash then
      match escape? c with
      | some d => d :: unescape escape? r
      | none => b :: unescape escape? (c :: r)
    else b :: unescape escape? (c :: r)

/-- The value on a line without a comment behind it and without blanks at both ends. -/
def plainValue (line : List Char) : List Char :=
  trimFront isLineBlank (trimBack isBlank (uncommented false line))
where
  /-- Characters up to the number sign that follows a blank. -/
  uncommented (afterBlank : Bool) : List Char → List Char
    | [] => []
    | c :: r => if c = '#' ∧ afterBlank then [] else c :: uncommented (isBlank c) r

/-- A quoted value at the front, behind its opening quote. None when the quote is not closed. -/
def quotedValue (quote : Char) (cs : List Char) : Option (String × List Char) :=
  let escape? := if quote = doubleQuote then escapedChar? else escapedPlain?
  (closingQuote? quote cs).map fun n =>
    (String.ofList (unescape escape? (cs.take n)), cs.drop (n + 1))

/-- A value at the front, behind the equals sign. None when a quote is not closed. -/
def readValue (cs : List Char) : Option (String × List Char) :=
  let line := cs.takeWhile fun c => !isLineEnd c
  let plain := some (String.ofList (plainValue line), cs.drop line.length)
  match cs.dropWhile isLineBlank with
  | c :: r => if c = singleQuote ∨ c = doubleQuote then quotedValue c r else plain
  | [] => plain

/-- What follows the end of a line, with a comment before it or not. None when something else stands
there. -/
def endLine (cs : List Char) : Option (List Char) :=
  let cs := match cs.dropWhile isLineBlank with
    | '#' :: r => r.dropWhile fun c => !isLineEnd c
    | r => r
  match cs with
  | [] => some []
  | c :: r => if isLineEnd c then some r else none

/-- What follows the line that stands at the front. -/
def skipLine (cs : List Char) : List Char :=
  (cs.dropWhile fun c => !isLineEnd c).drop 1

/-- A line of a file: the variable it sets, if it does, and where the reading stopped. The value is
missing when there is no equals sign. -/
def readLine (cs : List Char) : Option (String × Option String) × List Char :=
  let cs := skipExport (cs.dropWhile isBlank)
  match readName cs with
  | none => (none, skipLine cs)
  | some (name, rest) =>
    let rest := rest.dropWhile isLineBlank
    let value : Option (Option String × List Char) :=
      match rest with
      | '=' :: r => (readValue r).map fun (v, r) => (some v, r)
      | _ => some (none, rest)
    match value with
    | none => (none, skipLine rest)
    | some (value, rest) =>
      match endLine rest with
      | some r => (name.map fun n => (n, value), r)
      | none => (none, skipLine rest)

/-- The variables of a file, in order; every line takes one step at least. -/
def readLines : Nat → List Char → List (String × Option String)
  | 0, _ => []
  | _ + 1, [] => []
  | fuel + 1, cs =>
    let (found, rest) := readLine cs
    match found with
    | some v => v :: readLines fuel rest
    | none => readLines fuel rest

/-- The variables of a file as they are written. -/
def read (file : String) : List (String × Option String) :=
  let cs := withLineFeeds file.toList
  readLines (cs.length + 1) cs

/-! ## References -/

/-- A reference at the front, after its dollar sign: name, default and the rest. -/
def reference? (cs : List Char) : Option (String × String × List Char) :=
  match cs with
  | '\x7b' :: r =>
    let name := r.takeWhile fun c => c != '\x7d' && c != ':'
    match r.drop name.length with
    | '\x7d' :: rest => some (String.ofList name, "", rest)
    | ':' :: '-' :: r' =>
      let default := r'.takeWhile (· ≠ '\x7d')
      match r'.drop default.length with
      | _ :: rest => some (String.ofList name, String.ofList default, rest)
      | [] => none
    | _ => none
  | _ => none

/-- A text with references replaced by what is known under a name. -/
def expand (known : String → Option (Option String)) : Nat → List Char → List Char
  | 0, cs => cs
  | _ + 1, [] => []
  | fuel + 1, c :: r =>
    if c = '$' then
      match reference? r with
      | some (name, default, rest) =>
        let value := match known name with
          | some v => v.getD ""
          | none => default
        value.toList ++ expand known fuel rest
      | none => c :: expand known fuel r
    else c :: expand known fuel r

/-- The variables of a file with references replaced: first by earlier variables of the file, then by
those around it. Each name stands once, at its first place and with its last value. -/
def resolve (around : List (String × String)) (file : List (String × Option String)) :
    List (String × Option String) :=
  file.foldl (fun done (name, value) =>
    let known (name : String) := (done.lookup name).orElse fun _ => (around.lookup name).map some
    put done name (value.map fun v =>
      String.ofList (expand known (v.length + 1) v.toList))) []

end Cutover.EnvFile
