import SlotRouter.Count
import SlotRouter.Slot.Key
import SlotRouter.Text.Decimal
import SlotRouter.Text.Utf8

/-!
# Commands on the wire

A command is a list of arguments. On the wire it is an array of bulk strings: `*` and the number
of arguments, then for each argument `$`, its length and its bytes, every part ended by CR LF.

* `Argument`: a value as the arguments that spell it;
* `Command.pack`: the wire form;
* `unpack?`: the arguments of a wire form;
* `Command.texts`: the arguments as text;
* `occursIn`: whether bytes occur within bytes.
-/

namespace SlotRouter

/-- The bytes of a text. -/
def bytesOf (s : String) : Bytes := Text.Utf8.encode s.toList

/-- The text of bytes, with U+FFFD for what is not UTF-8. -/
def lossyText (b : Bytes) : String := String.ofList (Text.Utf8.decodeLossy b)

/-- A command for a node. -/
structure Command where
  args : List Bytes
  deriving DecidableEq, Repr

inductive Argument
  /-- There is none. -/
  | absent
  | bytes (b : Bytes)
  | int (n : Int)
  | bool (b : Bool)
  /-- One argument for each. -/
  | list (items : List Bytes)
  deriving DecidableEq, Repr

/-- The arguments that spell a value. -/
def Argument.args : Argument → List Bytes
  | absent => []
  | bytes b => [b]
  | int n => [bytesOf (toString n)]
  | bool b => [bytesOf (if b then "1" else "0")]
  | list items => items

namespace Command

/-- The command with the given words. -/
def ofWords (words : List String) : Command := ⟨words.map bytesOf⟩

/-- The command with the given words and then the given arguments. -/
def withArgs (words : List String) (args : List Bytes) : Command := ⟨words.map bytesOf ++ args⟩

def texts (c : Command) : List String := c.args.map lossyText

/-- The bytes that end every part. -/
def lineEnd : Bytes := [0x0d, 0x0a]

/-- A number as an argument. -/
def number (n : Nat) : Bytes := (Nat.toDigits 10 n).map fun c => UInt8.ofNat c.toNat

/-- One argument on the wire. -/
def packArg (arg : Bytes) : Bytes := 0x24 :: number arg.length ++ lineEnd ++ arg ++ lineEnd

def pack (c : Command) : Bytes :=
  0x2a :: number c.args.length ++ lineEnd ++ c.args.flatMap packArg

/-- The bytes before and after the first CR LF. -/
def cutLine? : Bytes → Option (Bytes × Bytes)
  | [] => none
  | b :: rest =>
    match b, rest with
    | 0x0d, 0x0a :: after => some ([], after)
    | _, _ => (cutLine? rest).map fun (line, after) => (b :: line, after)

/-- The length that a header line gives. -/
def length? (digits : Bytes) : Option Nat :=
  Text.unsigned? wordCount (digits.map fun b => Char.ofNat b.toNat)

/-- The arguments at the start of a wire form without its first line, at most `fuel` of them. -/
def unpackArgs? : Nat → Bytes → Option (List Bytes)
  | 0, _ => some []
  | fuel + 1, wire =>
    match wire with
    | 0x24 :: _ => do
      let (header, body) ← cutLine? wire
      let length ← length? (header.drop 1)
      if body.length < length + 2 then none
      else (unpackArgs? fuel (body.drop (length + 2))).map (body.take length :: ·)
    | _ => some []

/-- The arguments of a wire form. Each takes more than one byte, so its length bounds them. -/
def unpack? (wire : Bytes) : Option Command := do
  let (_, rest) ← cutLine? wire
  (unpackArgs? wire.length rest).map Command.mk

end Command

/-- The bytes `needle` occur within `hay`. Nothing occurs within no bytes. -/
def occursIn (needle : Bytes) : Bytes → Bool
  | [] => false
  | b :: rest => needle.isPrefixOf (b :: rest) || occursIn needle rest

end SlotRouter
