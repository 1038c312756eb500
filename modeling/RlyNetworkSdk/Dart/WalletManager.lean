import RlyNetworkSdk.Dart.KeyManager

/-!
# `wallet_manager.dart`

The operations of the `WalletManager` singleton. Its static field `_cachedWallet` is the
memory that concurrent operations share.
-/

namespace RlyNetworkSdk.Dart

open Channel Concurrency

/-- The wallet of a private key: `Wallet.fromHex("0x${bytesToHex(privateKey)}")`. -/
def walletOfPrivateKey (privateKey : List UInt8) : Wallet :=
  Wallet.fromHex ("0x" ++ bytesToHex privateKey)

namespace WalletManager

/-- `_makeWalletFromMnemonic`: the platform derives the key, and the wallet is made of its
hexadecimal text. -/
def makeWalletFromMnemonic (mnemonic : String) : Future Wallet := do
  let privateKey ← (KeyManager.getPrivateKeyFromMnemonic mnemonic).await
  return walletOfPrivateKey privateKey

def getWallet : Future (Option Wallet) := do
  match ← Async.getMemory with
  | some cachedWallet => return some cachedWallet
  | none =>
    -- other calls run between this request and the write below
    match ← KeyManager.getMnemonic.await with
    | none => return none
    | some mnemonic =>
      let wallet ← (makeWalletFromMnemonic mnemonic).await
      .write (some wallet) (return some wallet)

/-- `_saveMnemonic`: the guard against overwriting and the save are two requests, with the event
loop between them. -/
def saveMnemonic (mnemonic : String) (overwrite : Bool)
    (storageOptions : Option KeyStorageConfig) : Future Unit := do
  let existingWallet ← getWallet.await
  -- the answer may be out of date when the save is issued
  if existingWallet ≠ none ∧ !overwrite then
    .throw (.string "Wallet already exists. Use overwrite flag to overwrite")
  else
    let storageConfig := storageOptions.getD
      { rejectOnCloudSaveFailure := true, saveToCloud := true }
    (KeyManager.saveMnemonic mnemonic storageConfig).await

def createWallet (overwrite : Bool) (storageOptions : Option KeyStorageConfig) :
    Future Wallet := do
  let mnemonic ← KeyManager.generateMnemonic.await
  (saveMnemonic mnemonic overwrite storageOptions).await
  -- the phrase is stored before the key is derived from it
  let newWallet ← (makeWalletFromMnemonic mnemonic).await
  .write (some newWallet) (return newWallet)

def importExistingWallet (existinMnemonic : String) (overwrite : Bool)
    (storageOptions : Option KeyStorageConfig) : Future Wallet := do
  (saveMnemonic existinMnemonic overwrite storageOptions).await
  let wallet ← (makeWalletFromMnemonic existinMnemonic).await
  .write (some wallet) (return wallet)

def walletEligibleForCloudSync : Future Bool := KeyManager.walletBackedUpToCloud.await

def updateWalletStorage (storageOptions : KeyStorageConfig) : Future Unit := do
  match ← KeyManager.getMnemonic.await with
  | none => .throw (.string "Unable to update storage settings, no wallet found")
  | some mnemonic =>
    (KeyManager.saveMnemonic mnemonic storageOptions).await
    if storageOptions.saveToCloud = false then KeyManager.deleteCloudMnemonic.await
    else return ()

def permanentlyDeleteWallet : Future Unit := do
  KeyManager.deleteMnemonic.await
  .write none (return ())

end WalletManager

end RlyNetworkSdk.Dart
