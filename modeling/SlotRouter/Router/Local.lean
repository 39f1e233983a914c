import SlotRouter.Error.Cluster

/-!
# Calls that no node is asked about

* `selectDatabase`: a cluster has the one database zero;
* `Feature.refusal`: the answer to everything that a cluster does not offer.
-/

namespace SlotRouter

def selectDatabase (index : Int) : Except ClusterError Unit :=
  if index = 0 then .ok () else .error (.cause (.databaseIndex index))

def Feature.refusal (feature : Feature) : ClusterError := .cause (.unsupported feature)

end SlotRouter
