import SlotRouter.Error.Classify
import SlotRouter.Network.Run
import SlotRouter.Node
import SlotRouter.Seed

/-!
# Clients

A client knows the seeds of a cluster and the credentials to use there.

* `Client.ofSeeds`: a client for seeds that agree on their credentials;
* `Client.ofUrls`: the same for seeds that are still to be read;
* `openPools`: pools of connections; neither their size nor the time to wait may be zero;
* `unreachable`: the network of pools whose nodes accept no connection.
-/

namespace SlotRouter

/-- The first nodes of a cluster and the credentials. -/
structure Client where
  nodes : List Node
  username : Option String
  password : Option String

namespace Client

/-- The credential that a seed gives differs from the chosen one. A seed may give none. -/
def Differs (given chosen : Option String) : Prop := given.isSome ∧ given ≠ chosen

instance (given chosen : Option String) : Decidable (Differs given chosen) :=
  inferInstanceAs (Decidable (_ ∧ _))

/-- The node of a seed that may be used with the chosen credentials. -/
def nodeOf (username password : Option String) (seed : Seed) : Except ClusterError Node :=
  if Differs seed.password password then .error (.cause .passwordsDiffer)
  else if Differs seed.username username then .error (.cause .usernamesDiffer)
  else
    match seed.address with
    | .tcp host port => .ok (.ofAddress host port)
    | address => .error (.cause (.notTcp address.text))

/-- The nodes of seeds, each address once. The first seed that cannot be used decides the error. -/
def nodesOf (username password : Option String) (known : List Node) :
    List Seed → Except ClusterError (List Node)
  | [] => .ok known
  | seed :: rest =>
    match nodeOf username password seed with
    | .error e => .error e
    | .ok n => nodesOf username password (addNode known n) rest

/-- A client for seeds. Credentials that are not given are those of the first seed. -/
def ofSeeds (seeds : List Seed) (username password : Option String) : Except ClusterError Client :=
  match seeds with
  | [] => .error (.cause .noSeed)
  | first :: _ =>
    let password := password.or first.password
    let username := username.or first.username
    (nodesOf username password [] seeds).map fun nodes => ⟨nodes, username, password⟩

/-- The seeds of URLs. -/
def seedsOf : List String → Except ClusterError (List Seed)
  | [] => .ok []
  | url :: rest =>
    match Seed.parse url with
    | .error e => .error e.toClusterError
    | .ok seed => (seedsOf rest).map (seed :: ·)

def ofUrls (urls : List String) (username password : Option String) : Except ClusterError Client :=
  match seedsOf urls with
  | .error e => .error e
  | .ok seeds => ofSeeds seeds username password

end Client

/-- Makes pools for nodes. A pool holds at most `size` connections, and who wants one waits for
`timeout` milliseconds. -/
def openPools {σ ε : Type} (nodes : List Node) (size timeout : Nat) : Run σ ε Unit :=
  if nodes.isEmpty then pure ()
  else if size = 0 then .panic "max_size must be positive"
  else if timeout = 0 then .panic "connection_timeout must be positive"
  else pure ()

/-- Pools whose nodes accept no connection; `reason` is what the last attempt gave. -/
def unreachable (reason : String) : Network Unit where
  connect _ := .error (.cause (.poolExhausted ("timed out waiting for connection: " ++ reason)))
  answer nodes _ _ := (.hang, nodes)

end SlotRouter
