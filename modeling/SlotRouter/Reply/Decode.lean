import SlotRouter.Count
import SlotRouter.Properties
import SlotRouter.Reply

/-!
# Reading replies as values

A `Decoder` reads a reply as a value of some type or says why it cannot.

* `Decode.mismatch`: the error of a reply of the wrong form, which shows the reply;
* `value`, `unit`, `string`, `unsigned`, `signed`, `bool`, `bytes`: single values;
* `option`, `list`, `properties`, `pair`: values with parts.

Attributes are looked through by all of them but `value`, `list` and `bytes`.
-/

namespace SlotRouter

abbrev Decoder (α : Type) := Reply → Except ClientError α

namespace Decode

def mismatch {α : Type} (reason : String) (r : Reply) : Except ClientError α :=
  .error (.described .typeError "Response was of incompatible type"
    (some (Text.quote reason ++ " (response was " ++ r.shown ++ ")")))

/-- Bytes are not UTF-8. -/
def invalidUtf8 : ClientError := .described .typeError "Invalid UTF-8" none

/-- Bytes that were to become a text are not UTF-8. -/
def notText : ClientError := .described .typeError "Cannot convert from UTF-8" none

def value : Decoder Reply := .ok

def unit : Decoder Unit := fun _ => .ok ()

/-- A text; `bad` is the error for bytes that are not UTF-8. -/
def stringOr (bad : ClientError) : Decoder String := fun r =>
  match r.inner with
  | .bulk bytes =>
    match Text.Utf8.decode? bytes with
    | some text => .ok (String.ofList text)
    | none => .error bad
  | .okay => .ok "OK"
  | .simple text => .ok text
  | .verbatim text => .ok text
  | .double value => .ok value.plainText
  | .int n => .ok (toString n)
  | other => mismatch "Response type not string compatible." other

def string : Decoder String := stringOr notText

/-- A text that is only looked at. -/
def borrowedString : Decoder String := stringOr invalidUtf8

/-- A number, from an integer, a text or a double. -/
def number {α : Type} (ofInt : Int → α) (ofText : List Char → Option α) (ofDouble : Binary64 → α) :
    Decoder α := fun r =>
  match r.inner with
  | .int n => .ok (ofInt n)
  | .simple text =>
    match ofText text.toList with
    | some n => .ok n
    | none => mismatch "Could not convert from string." r.inner
  | .bulk bytes =>
    match Text.Utf8.decode? bytes with
    | none => .error invalidUtf8
    | some text =>
      match ofText text with
      | some n => .ok n
      | none => mismatch "Could not convert from string." r.inner
  | .double value => .ok (ofDouble value)
  | other => mismatch "Response type not convertible to numeric." other

/-- A number below `bound`; an integer counts modulo `bound`, a double is cut to the range. -/
def unsigned (bound : Nat) : Decoder Nat :=
  number (fun n => (n % (bound : Int)).toNat) (Text.unsigned? bound)
    (fun d => (d.truncate 0 ((bound : Int) - 1)).toNat)

def signed : Decoder Int :=
  number id (Text.signed? halfWordCount) (Binary64.truncate (-halfWordCount) (halfWordCount - 1))

/-- An unsigned number of 64 bits. -/
def count : Decoder Nat := unsigned wordCount

def bool : Decoder Bool := fun r =>
  match r.inner with
  | .nil => .ok false
  | .int n => .ok (n ≠ 0)
  | .simple text =>
    if text = "1" then .ok true
    else if text = "0" then .ok false
    else mismatch "Response status not valid boolean" r.inner
  | .bulk bytes =>
    if bytes = [0x31] then .ok true
    else if bytes = [0x30] then .ok false
    else mismatch "Response type not bool compatible." r.inner
  | .bool b => .ok b
  | .okay => .ok true
  | other => mismatch "Response type not bool compatible." other

def option {α : Type} (item : Decoder α) : Decoder (Option α) := fun r =>
  match r.inner with
  | .nil => .ok none
  | other => (item other).map some

/-- Reads each reply; the first that cannot be read decides the error. -/
def each {α : Type} (item : Decoder α) : List Reply → Except ClientError (List α)
  | [] => .ok []
  | r :: rest =>
    match item r with
    | .error e => .error e
    | .ok a =>
      match each item rest with
      | .error e => .error e
      | .ok as => .ok (a :: as)

/-- The items of an array or a set, or the entries of a map as maps of one entry. -/
def items? : Reply → Option (List Reply)
  | .nil => some []
  | .array items => some items
  | .set items => some items
  | .map entries => some (entries.map fun entry => .map [entry])
  | _ => none

/-- A list. Bytes are a list of one item. -/
def list {α : Type} (item : Decoder α) : Decoder (List α) := fun r =>
  match r with
  | .bulk _ => each item [r]
  | _ =>
    match items? r with
    | some items => each item items
    | none => mismatch "Response type not vector compatible." r

def bytes : Decoder Bytes := fun r =>
  match r with
  | .bulk b => .ok b
  | _ => (list (unsigned 256) r).map fun ns => ns.map UInt8.ofNat

/-- The entries of a map, also as an array with keys and values in turn. -/
def entries? : Reply → Option (List (Reply × Reply))
  | .nil => some []
  | .map entries => some entries
  | .array items => pairs? items
  | _ => none
where
  /-- Two neighbours each. -/
  pairs? : List Reply → Option (List (Reply × Reply))
    | [] => some []
    | [_] => none
    | key :: value :: rest => (pairs? rest).map ((key, value) :: ·)

/-- Reads each entry. -/
def eachEntry {α β : Type} (key : Decoder α) (value : Decoder β) :
    List (Reply × Reply) → Except ClientError (List (α × β))
  | [] => .ok []
  | (k, v) :: rest => do
    let k ← key k
    let v ← value v
    let rest ← eachEntry key value rest
    .ok ((k, v) :: rest)

def properties : Decoder Properties := fun r =>
  match entries? r.inner with
  | some entries => (eachEntry string string entries).map Properties.ofList
  | none => mismatch "Response type not map compatible" r.inner

def pair {α β : Type} (first : Decoder α) (second : Decoder β) : Decoder (α × β) := fun r =>
  match r.inner with
  | .array [a, b] => do .ok (← first a, ← second b)
  | .map ((a, b) :: _) => do .ok (← first a, ← second b)
  | .array _ => mismatch "Array response of wrong dimension" r.inner
  | other => mismatch "Not a Array response" other

end Decode

end SlotRouter
