set_option autoImplicit false

namespace FieldConfig

inductive EndpointSetting where
  | named (name : String)
  | enabled (on : Bool)
deriving DecidableEq, Repr

structure FederateSetting where
  name : Option String := none
  logLevel : Option String := none
deriving DecidableEq, Repr

-- Where the broker runs, as `host` or `host|interface`, or at which address it answers.
structure BrokerSettings where
  hostname : Option String := none
  address : Option String := none
  baseFederates : Option UInt32 := none
  dynamic : Option Bool := none
  logLevel : Option String := none
  logFile : Option String := none
deriving DecidableEq, Repr

structure HelicsSettings where
  broker : Option BrokerSettings := none
  federate : Option FederateSetting := none
  endpoint : Option EndpointSetting := none
deriving DecidableEq, Repr

end FieldConfig
