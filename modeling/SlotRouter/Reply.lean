import SlotRouter.Error.Client
import SlotRouter.Slot.Key
import SlotRouter.Text.Binary64
import SlotRouter.Text.Quoted
import SlotRouter.Text.Utf8

/-!
# Replies of nodes

* `ErrorReply`: an error reply, a code and what follows it (`ofText`, `toClientError`);
* `Reply`: any reply;
* `Reply.raised`: the reply, unless an error reply is anywhere inside it;
* `Reply.shown`: the text of a reply in error messages;
* `Reply.inner`: the data of a reply with attributes.
-/

namespace SlotRouter

structure ErrorReply where
  code : String
  detail : Option String
  deriving DecidableEq, Repr

namespace ErrorReply

/-- Splits the text of an error reply at its first space. It is one line: what follows a line break
does not belong to it. -/
def ofText (text : String) : ErrorReply :=
  let line := Text.firstLine text.toList
  match Text.cutFirst ' ' line with
  | some (code, detail) => ⟨String.ofList code, some (String.ofList detail)⟩
  | none => ⟨String.ofList line, none⟩

/-- The codes with a kind of their own. -/
def knownCodes : List (String × ClientError.Kind) :=
  [("ERR", .responseError), ("EXECABORT", .execAbortError), ("LOADING", .busyLoadingError),
   ("NOSCRIPT", .noScriptError), ("MOVED", .moved), ("ASK", .ask), ("TRYAGAIN", .tryAgain),
   ("CLUSTERDOWN", .clusterDown), ("CROSSSLOT", .crossSlot), ("MASTERDOWN", .masterDown),
   ("READONLY", .readOnly), ("NOTBUSY", .notBusy), ("NOSUB", .noSub)]

/-- The description of every error reply with a known code. -/
def signalled : String := "An error was signalled by the server"

def toClientError (e : ErrorReply) : ClientError :=
  match knownCodes.lookup e.code with
  | some kind => .described kind signalled e.detail
  | none => .extension e.code (e.detail.getD "Unknown extension error encountered")

def shown (e : ErrorReply) : String :=
  "Server error: \x60" ++ e.code ++ (e.detail.elim "" (": " ++ ·)) ++ "\x60"

end ErrorReply

inductive Reply
  | nil
  | int (n : Int)
  | bulk (bytes : Bytes)
  | simple (text : String)
  | okay
  | array (items : List Reply)
  | set (items : List Reply)
  | map (entries : List (Reply × Reply))
  | double (value : Binary64)
  | bool (value : Bool)
  | verbatim (text : String)
  /-- Data with attributes that do not belong to it. -/
  | tagged (data : Reply) (attributes : List (Reply × Reply))
  | error (reply : ErrorReply)

namespace Reply

instance : Inhabited Reply := ⟨nil⟩

mutual

/-- The first error reply inside a reply; of an entry the key comes first, of attributes the
data. -/
def firstError? : Reply → Option ErrorReply
  | error e => some e
  | array items => firstErrorOf? items
  | set items => firstErrorOf? items
  | map entries => firstErrorAmong? entries
  | tagged data attributes => (firstError? data).or (firstErrorAmong? attributes)
  | _ => none

/-- The first error reply inside a list of replies. -/
def firstErrorOf? : List Reply → Option ErrorReply
  | [] => none
  | item :: rest => (firstError? item).or (firstErrorOf? rest)

/-- The first error reply inside a list of entries. -/
def firstErrorAmong? : List (Reply × Reply) → Option ErrorReply
  | [] => none
  | (key, value) :: rest => ((firstError? key).or (firstError? value)).or (firstErrorAmong? rest)

end

def raised (r : Reply) : Except ClientError Reply :=
  match r.firstError? with
  | some e => .error e.toClientError
  | none => .ok r

def inner : Reply → Reply
  | tagged data _ => data
  | r => r

/-- Bytes in error messages: as text if they are UTF-8. -/
def shownBytes (bytes : Bytes) : String :=
  match Text.Utf8.decode? bytes with
  | some text => "bulk-string('" ++ Text.quote (String.ofList text) ++ "')"
  | none =>
    "binary-data([" ++ Text.join ", " (bytes.map fun b => toString b.toNat) ++ "])"

mutual

def shown : Reply → String
  | nil => "nil"
  | int n => "int(" ++ toString n ++ ")"
  | bulk bytes => shownBytes bytes
  | simple text => "simple-string(" ++ Text.quote text ++ ")"
  | okay => "ok"
  | array items => "array([" ++ shownItems items ++ "])"
  | set items => "set([" ++ shownItems items ++ "])"
  | map entries => "map([" ++ shownEntries entries ++ "])"
  | double value => "double(" ++ value.debugText ++ ")"
  | bool value => "boolean(" ++ toString value ++ ")"
  | verbatim text => "verbatim-string(Text," ++ Text.quote text ++ ")"
  | tagged data _ => "attribute(" ++ shown data ++ ")"
  | error reply => reply.shown

/-- The texts of replies, with commas between them. -/
def shownItems : List Reply → String
  | [] => ""
  | [item] => shown item
  | item :: rest => shown item ++ ", " ++ shownItems rest

/-- The texts of entries, with commas between them. -/
def shownEntries : List (Reply × Reply) → String
  | [] => ""
  | [(key, value)] => "(" ++ shown key ++ ", " ++ shown value ++ ")"
  | (key, value) :: rest =>
    "(" ++ shown key ++ ", " ++ shown value ++ "), " ++ shownEntries rest

end

end Reply

end SlotRouter
