import FieldConfig.Table

set_option autoImplicit false

namespace FieldConfig

structure MessageBus where
  pullEndpoint : String
  pubEndpoint : String
deriving DecidableEq, Repr, Inhabited

structure ApiSection where
  endpoint : String
  tlsKey : Option String := none
  tlsCertificate : Option String := none
  caCertificate : Option String := none
deriving DecidableEq, Repr, Inhabited

structure ElasticLogs where
  endpoint : String
  index : String
deriving DecidableEq, Repr, Inhabited

structure LogsSection where
  elastic : Option ElasticLogs := none
  loki : Option String := none
deriving DecidableEq, Repr, Inhabited

structure GroundTruth where
  endpoint : String
  indexBaseName : String
  labels : Table String := ∅
deriving DecidableEq, Repr, Inhabited

structure Certificate where
  source : String
  destination : String
deriving DecidableEq, Repr, Inhabited

structure Api where
  listener : ApiSection
  certificates : List Certificate := []
deriving DecidableEq, Repr, Inhabited

end FieldConfig
