import Cutover.HostName.Context
import Cutover.Text.LowerCase
import Cutover.Text.Punycode

/-!
# Names of hosts

The name of a host consists of labels with dots between them. Labels may hold letters of every
script; in transit they are written in plain characters, which must not become too long.

* `HostName.isProper`: a label is well formed;
* `HostName.writtenLength?`: how long a label is in transit;
* `HostName.isValid`: a whole name can be used.
-/

namespace Cutover.HostName

/-- A dot between labels, in one of its forms. -/
def isDot (c : Char) : Bool := [0x2E, 0x3002, 0xFF0E, 0xFF61].contains c.toNat

/-- The labels of a name. -/
def labels (name : List Char) : List (List Char) :=
  name.foldr
    (fun c done =>
      match done with
      | label :: rest => if isDot c then [] :: label :: rest else (c :: label) :: rest
      | [] => [[c]])
    [[]]

/-- The longest label in transit. -/
def labelLimit : Nat := 63

/-- The longest name, a dot at its end not counted. -/
def nameLimit : Nat := 253

/-- No hyphen stands first or last, nor third and fourth, where it marks a written label. -/
def hyphensFit (label : List Char) : Bool :=
  label.head? ≠ some '-' && label.getLast? ≠ some '-' && (label.drop 2).take 2 ≠ ['-', '-']

/-- Every character may stand where it does; `before` are those before, the nearest first. -/
def charsFit (before : List Char) : List Char → Bool
  | [] => true
  | c :: r => (isHostChar c || fitsContext before c r) && charsFit (c :: before) r

/-- **A label is well formed**: it is composed, its hyphens and characters fit, it does not start with
a mark, and it keeps its direction. -/
def isProper (label : List Char) : Bool :=
  !label.isEmpty && label.length ≤ nameLimit + 1 && composed label = label && hyphensFit label &&
    !label.head?.any isMark && charsFit [] label && keepsDirection label

/-- What a label in plain characters stands for is well formed. -/
def isProperPlain (label : List Char) : Bool :=
  match label with
  | 'x' :: 'n' :: '-' :: '-' :: written =>
    !written.isEmpty && written.getLast? ≠ some '-' &&
      (Punycode.decode? written).any fun codes => isProper (codes.map Char.ofNat)
  | _ => isProper label

/-- **How long a label is in transit**, if it can be written. -/
def writtenLength? (label : List Char) : Option Nat :=
  let length? :=
    if label.all Punycode.isPlain then
      if isProperPlain label then some label.length else none
    else if isProper label then some (4 + (Punycode.encode label).length) else none
  length?.filter (· ≤ labelLimit)

/-- **A name can be used**: every label can be written, and the whole is not too long. -/
def isValid (name : List Char) : Bool :=
  let all := labels name
  let parts := if all.getLast? = some [] then all.dropLast else all
  name.length ≤ nameLimit + 1 &&
    (parts.mapM writtenLength?).any fun lengths =>
      lengths.foldr (· + ·) 0 + (parts.length - 1) ≤ nameLimit

end Cutover.HostName
