import Mathlib.Data.List.Basic

/-!
# `utils.dart` and `network_config.dart`

The transaction that a caller hands to the relay, and the configuration of a network. Both
are mutable in one field: the gas of the transaction, and the relay worker of the
configuration.
-/

namespace RlyNetworkSdk.Gsn

abbrev PrefixedHexString := String
abbrev Address := String
abbrev IntString := String

structure GsnTransactionDetails where
  «from» : String
  data : String
  «to» : String
  value : Option String
  gas : Option String
  maxFeePerGas : String
  maxPriorityFeePerGas : String
  paymasterData : Option String
  clientId : Option String
  useGSN : Option Bool
  deriving DecidableEq

structure GSNConfig where
  paymasterAddress : String
  forwarderAddress : String
  relayHubAddress : String
  relayWorkerAddress : String
  relayUrl : String
  rpcUrl : String
  chainId : String
  maxAcceptanceBudget : String
  domainSeparatorName : String
  gtxDataZero : Nat
  gtxDataNonZero : Nat
  requestValidSeconds : Nat
  maxPaymasterDataLength : Nat
  maxApprovalDataLength : Nat
  maxRelayNonceGap : Nat
  deriving DecidableEq

structure NetworkConfig where
  gsn : GSNConfig
  relayerApiKey : Option String
  deriving DecidableEq

end RlyNetworkSdk.Gsn
