import RlyNetworkSdk.Concurrency.Pool
import RlyNetworkSdk.Wallet.Durability
import RlyNetworkSdk.Wallet.StorageUpdate
import RlyNetworkSdk.Wallet.StorageMigrations
import RlyNetworkSdk.Wallet.OverwriteGuard
import RlyNetworkSdk.Wallet.FailedCreation
import RlyNetworkSdk.Wallet.ValidPhrases
import RlyNetworkSdk.Wallet.Deletion
import RlyNetworkSdk.Wallet.DeviceOnly
import RlyNetworkSdk.Wallet.PlatformEquivalence
import RlyNetworkSdk.Wallet.Interleaving
import RlyNetworkSdk.Wallet.ConcurrentCreation
import RlyNetworkSdk.Wallet.CacheCoherence
import RlyNetworkSdk.Encoding.BigEndian
import RlyNetworkSdk.Encoding.Hex
import RlyNetworkSdk.Platform.CallbackTiming
import RlyNetworkSdk.Platform.Replies
import RlyNetworkSdk.Dart.Numbers
import RlyNetworkSdk.Encoding.Json
import RlyNetworkSdk.Evm.Abi
import RlyNetworkSdk.Evm.Eip712
import RlyNetworkSdk.Dart.Wallet
import RlyNetworkSdk.Platform.KeyTransport
import RlyNetworkSdk.Dart.Contract
import RlyNetworkSdk.Dart.EthSigUtil
import RlyNetworkSdk.Gsn.RelayRequest
import RlyNetworkSdk.Gsn.SignedRequest
import RlyNetworkSdk.Gsn.GsnClient
import RlyNetworkSdk.Gsn.CalldataBound
import RlyNetworkSdk.Gsn.ConcurrentRelays
import RlyNetworkSdk.Gsn.Repeatability
import RlyNetworkSdk.Gsn.ForwardedGas
import RlyNetworkSdk.Gsn.Erc20
import RlyNetworkSdk.Gsn.PermitTransaction
import RlyNetworkSdk.Gsn.MetaTransactions
import RlyNetworkSdk.Gsn.TokenAuthorisation
import RlyNetworkSdk.Gsn.PermitTerms
import RlyNetworkSdk.Networks.EvmNetworks
import RlyNetworkSdk.Networks.CoveredTransfers
import RlyNetworkSdk.Networks.Amounts
import RlyNetworkSdk.ZkSync.Eip712Transaction
import RlyNetworkSdk.ZkSync.SignedIsSent
import RlyNetworkSdk.ZkSync.RawTransaction
import RlyNetworkSdk.Dart.Doubles
import RlyNetworkSdk.Crypto.Pbkdf2
import RlyNetworkSdk.Crypto.Mnemonics
import RlyNetworkSdk.Crypto.Bip39Seed
import RlyNetworkSdk.Crypto.Secp256k1
import RlyNetworkSdk.Crypto.Bip32Cache
import RlyNetworkSdk.Ios.KeyDerivation
import RlyNetworkSdk.Crypto.PublicDerivation
import RlyNetworkSdk.Ios.AccountKeys
