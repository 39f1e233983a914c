import SlotRouter.Text.Hex
import SlotRouter.Text.Utf8

/-!
# Percent encoding

A percent sign with two hexadecimal digits stands for a byte.

* `percentBytes`: the bytes of a text. A percent sign without two digits stands for itself;
* `percentText?`, `percentLossy`: the text of these bytes.
-/

namespace SlotRouter.Text

def percentBytes : List Char → List UInt8
  | '%' :: high :: low :: rest =>
    match hexByte? high low with
    | some b => b :: percentBytes rest
    | none => 0x25 :: percentBytes (high :: low :: rest)
  | c :: rest => Utf8.encode [c] ++ percentBytes rest
  | [] => []

def percentText? (s : List Char) : Option (List Char) := Utf8.decode? (percentBytes s)

def percentLossy (s : List Char) : List Char := Utf8.decodeLossy (percentBytes s)

end SlotRouter.Text
