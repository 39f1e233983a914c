import SlotRouter.Count
import SlotRouter.Error.Client
import SlotRouter.Seed.Url

/-!
# Seeds

A seed is where a client first looks for the cluster, with the credentials to use there.

* `SeedAddress`, `Seed`: what a seed says;
* `Seed.parse`: reading a URL of the schemes `redis`, `rediss`, `redis+unix` and `unix`;
* `SeedAddress.text`: the address as it is written.
-/

namespace SlotRouter

inductive SeedAddress
  | tcp (host : String) (port : UInt16)
  | tls (host : String) (port : UInt16)
  /-- A socket in the file system. -/
  | unix (path : String)
  deriving DecidableEq, Repr

def SeedAddress.text : SeedAddress → String
  | tcp host port => host ++ ":" ++ toString port
  | tls host port => host ++ ":" ++ toString port
  | unix path => path

structure Seed where
  address : SeedAddress
  username : Option String := none
  password : Option String := none
  deriving DecidableEq, Repr

namespace Seed

/-- A seed that cannot be used. -/
def rejected (description : String) (detail : Option String) : ClientError :=
  .described .invalidClientConfig description detail

/-- The port of a URL that gives none. -/
def defaultPort : Nat := 6379

/-- A text of the user information with its encoding undone. -/
def credential (name : String) (s : List Char) : Except ClientError String :=
  match Text.percentText? s with
  | some text => .ok (String.ofList text)
  | none => .error (rejected (name ++ " is not valid UTF-8 string") none)

/-- Refuses a database number that is none. -/
def requireDatabase (s : List Char) : Except ClientError Unit :=
  match Text.signed? halfWordCount s with
  | some _ => .ok ()
  | none => .error (rejected "Invalid database number" none)

/-- Refuses an unknown version of the protocol. -/
def requireProtocol (u : Url) : Except ClientError Unit :=
  match u.query? "protocol" with
  | none => .ok ()
  | some version =>
    if ["2", "3", "resp2", "resp3"].contains version then .ok ()
    else .error (rejected "Invalid protocol version" (some version))

/-- The seed of a URL of a TCP address. -/
def ofTcpUrl (u : Url) : Except ClientError Seed := do
  let host ← match u.host with
    | some host => .ok host
    | none => .error (rejected "Missing hostname" none)
  if u.scheme = "rediss" then
    .error (rejected "can't connect with TLS, the feature is not enabled" none)
  let database := Text.stripEnd '/' (Text.stripStart '/' u.path)
  if !database.isEmpty then requireDatabase database
  let username ←
    if u.username.isEmpty then .ok none else (credential "Username" u.username).map some
  let password ← match u.password with
    | some password => (credential "Password" password).map some
    | none => .ok none
  requireProtocol u
  .ok ⟨.tcp host (UInt16.ofNat (u.port.getD defaultPort)), username, password⟩

/-- The path of a socket with its encoding undone. A drive at its end gets a slash. -/
def socketPath (s : List Char) : String :=
  let path := Text.percentLossy s
  let drive := 2 < path.length && isDrive (path.drop (path.length - 2))
  String.ofList (if drive then path ++ ['/'] else path)

/-- The seed of a URL of a socket. -/
def ofSocketUrl (u : Url) : Except ClientError Seed := do
  if u.path.isEmpty || u.path.head? != some '/' || u.host.any (· != "localhost") then
    .error (rejected "Missing path" none)
  match u.query? "db" with
  | some database => requireDatabase database.toList
  | none => .ok ()
  requireProtocol u
  .ok ⟨.unix (socketPath u.path), u.query? "user", u.query? "pass"⟩

def parse (text : String) : Except ClientError Seed :=
  match Url.parse? text with
  | none => .error (rejected "Redis URL did not parse" none)
  | some u =>
    if u.scheme = "redis" || u.scheme = "rediss" then ofTcpUrl u
    else if u.scheme = "unix" || u.scheme = "redis+unix" then ofSocketUrl u
    else .error (rejected "Redis URL did not parse" none)

end Seed

end SlotRouter
