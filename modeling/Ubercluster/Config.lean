import Mathlib.Logic.Basic

/-! The cluster configuration that the scheduler and the inception proxy read. -/
namespace Ubercluster

/-- Modelled from the spec: the configuration types are not in the source. The source reads
the `Name`, `Address` and `ProtocolVersion` of each cluster of `Config.Cluster`, and the spec
describes "the ordered list of {name, address, protocolVersion} cluster records". -/
structure ClusterConfig where
  name : String
  address : String
  protocolVersion : String
  deriving DecidableEq

/-- Modelled from the spec: see `ClusterConfig`. -/
structure Config where
  cluster : List ClusterConfig
  deriving DecidableEq

end Ubercluster
