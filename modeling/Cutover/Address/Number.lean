import Cutover.Text.Digit

/-!
# Hosts given by number

A host may be given by four numbers with points between them, or in brackets by groups of hexadecimal
digits with colons between them, a run of zero groups left out.

* `Address.looksNumeric`: a host has the outline of four numbers;
* `Address.isFour`, `Address.isBracketed`: the host is an address of the one or the other kind.
-/

namespace Cutover.Address

/-- The parts of a text between the places where a character stands. -/
def partsAt (mark : Char) (cs : List Char) : List (List Char) :=
  cs.foldr
    (fun c done =>
      match done with
      | part :: rest => if c = mark then [] :: part :: rest else (c :: part) :: rest
      | [] => [[c]])
    [[]]

/-- The lengths of the runs of plain digits before, between and behind all other characters. -/
def digitRuns (cs : List Char) : List Nat :=
  cs.foldr
    (fun c runs =>
      match runs with
      | n :: rest => if isPlainDigit c then (n + 1) :: rest else 0 :: n :: rest
      | [] => [])
    [0]

/-- **A host has the outline of four numbers**: four runs of digits with any one character between
them, which may be a digit as well. A run of `n` digits holds up to `(n - 1) / 2` of these. -/
def looksNumeric (host : List Char) : Bool :=
  let runs := digitRuns host
  let room := runs.foldr (fun n room => (n - 1) / 2 + room) 0
  runs.all (0 < ·) && runs.length ≤ 4 && 4 - runs.length ≤ room

/-- A number up to 255 without needless zeros. -/
def isOctet (cs : List Char) : Bool :=
  !cs.isEmpty && cs.length ≤ 3 && cs.all isPlainDigit && (cs = ['0'] || cs.head? ≠ some '0') &&
    digitsValue cs ≤ 255

/-- **Four numbers with points between them.** -/
def isFour (host : List Char) : Bool :=
  let parts := partsAt '.' host
  parts.length = 4 && parts.all isOctet

/-- A hexadecimal digit. -/
def isHexDigit (c : Char) : Bool :=
  isPlainDigit c || ('a' ≤ c && c ≤ 'f') || ('A' ≤ c && c ≤ 'F')

/-- A group of one to four hexadecimal digits. -/
def isGroup (cs : List Char) : Bool := !cs.isEmpty && cs.length ≤ 4 && cs.all isHexDigit

/-- The number of groups on one side of the groups left out; none when something else stands there. -/
def sideLength? (side : List (List Char)) : Option Nat :=
  if side = [[]] then some 0 else if side.all isGroup then some side.length else none

/-- Parts that are eight groups, or fewer around one place where groups are left out. -/
def areGroups : List (List Char) → Bool
  | [] => false
  | first :: rest =>
    let front := rest.dropLast.takeWhile (!·.isEmpty)
    match rest.drop front.length with
    | [] :: back =>
      if back.isEmpty then false
      else
        match sideLength? (first :: front), sideLength? back with
        | some m, some n => m + n < 8
        | _, _ => false
    | _ => rest.length = 7 && (first :: rest).all isGroup

/-- Four numbers at the end stand for two groups. None when they are no address. -/
def withoutFour? (parts : List (List Char)) : Option (List (List Char)) :=
  match parts.getLast? with
  | some last =>
    if last.contains '.' then
      if isFour last then some (parts.dropLast ++ [['0'], ['0']]) else none
    else some parts
  | none => none

/-- A zone behind a percent sign is not empty and has no other such sign. -/
def zoneFits : List Char → Bool
  | '%' :: zone => !zone.isEmpty && !zone.contains '%'
  | _ => true

/-- **An address of groups**, as it stands between brackets. -/
def isBracketed (cs : List Char) : Bool :=
  let address := cs.takeWhile (· ≠ '%')
  let parts := partsAt ':' address
  zoneFits (cs.drop address.length) && 3 ≤ parts.length && (withoutFour? parts).any areGroups

end Cutover.Address
