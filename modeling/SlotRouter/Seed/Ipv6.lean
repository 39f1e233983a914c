import SlotRouter.Text.Percent
import SlotRouter.Text.Split

/-!
# IPv6 addresses as text

Eight groups of 16 bits. A double colon stands for at least one group of zeros, and the last two
groups may be written as an IPv4 address.

* `ipv6?`: the groups of an address;
* `ipv6Text`: the shortest text: the first longest run of at least two zero groups becomes a
  double colon, and addresses that embed an IPv4 address show it.
-/

namespace SlotRouter.Seed

/-- A group of one to four hexadecimal digits. -/
def hexGroup? (s : List Char) : Option Nat :=
  if s.isEmpty || 4 < s.length then none
  else s.foldlM (fun n c => (Text.hexDigit? c).map (16 * n + ·)) 0

/-- A decimal number below 256 without leading zeros. -/
def octet? (s : List Char) : Option Nat :=
  if s.isEmpty || 3 < s.length || !s.all Char.isDigit then none
  else if 1 < s.length && s.head? == some '0' then none
  else (some (Nat.ofDigitChars 10 s 0)).filter (· < 256)

/-- The two groups of an IPv4 address. -/
def ipv4Groups? (s : List Char) : Option (List Nat) := do
  match (← (Text.splitOn '.' s).mapM octet?) with
  | [a, b, c, d] => some [256 * a + b, 256 * c + d]
  | _ => none

/-- The groups of columns, the last of which may be an IPv4 address if that is allowed. -/
def groups? (embedded : Bool) : List (List Char) → Option (List Nat)
  | [] => some []
  | [column] =>
    if embedded && column.contains '.' then ipv4Groups? column
    else (hexGroup? column).map ([·])
  | column :: rest => do
    let group ← hexGroup? column
    let groups ← groups? embedded rest
    some (group :: groups)

/-- The groups on one side of a double colon. -/
def sideGroups? (embedded : Bool) (s : List Char) : Option (List Nat) :=
  if s.isEmpty then some [] else groups? embedded (Text.splitOn ':' s)

/-- What stands before and after the first double colon. -/
def cutDoubleColon : List Char → Option (List Char × List Char)
  | ':' :: ':' :: rest => some ([], rest)
  | c :: rest => (cutDoubleColon rest).map fun (before, after) => (c :: before, after)
  | [] => none

def ipv6? (s : List Char) : Option (List Nat) :=
  match cutDoubleColon s with
  | none => (groups? true (Text.splitOn ':' s)).filter (·.length == 8)
  | some (before, after) => do
    let before ← sideGroups? false before
    let after ← sideGroups? true after
    let present := before.length + after.length
    if 7 < present then none else some (before ++ List.replicate (8 - present) 0 ++ after)

/-- The number of zeros that a list starts with. -/
def zeroRun (groups : List Nat) : Nat := (groups.takeWhile (· == 0)).length

/-- Start and length of the first longest run of zeros. -/
def longestZeroRun (groups : List Nat) : Nat × Nat :=
  (List.range groups.length).foldl
    (fun best start =>
      let run := zeroRun (groups.drop start)
      if best.2 < run then (start, run) else best)
    (0, 0)

/-- A group in hexadecimal digits. -/
def groupText (n : Nat) : String := String.ofList (Nat.toDigits 16 n)

/-- Two groups as an IPv4 address. -/
def ipv4Text (high low : Nat) : String :=
  Text.join "." ([high / 256, high % 256, low / 256, low % 256].map fun n => toString n)

def ipv6Text (groups : List Nat) : String :=
  match groups with
  | [0, 0, 0, 0, 0, 0xffff, high, low] => "::ffff:" ++ ipv4Text high low
  | _ =>
    let (start, run) := longestZeroRun groups
    if run < 2 then Text.join ":" (groups.map groupText)
    else
      Text.join ":" ((groups.take start).map groupText) ++ "::" ++
        Text.join ":" ((groups.drop (start + run)).map groupText)

end SlotRouter.Seed
