import RlyNetworkSdk.Wallet.Sequential
import RlyNetworkSdk.Transition.Runs

/-!
# Runs of Wallet Operations

The remaining operations in closed form, and the machine whose steps are wallet operations,
one at a time, and what happens around them: a deletion in the background completes, Play
services answer about encryption, the process restarts. A label of the machine carries the
outcome of every native call, so a statement about all runs is one about all outcomes.
-/

namespace RlyNetworkSdk.Platform

open KeyStorage Channel Concurrency Dart

namespace Backend

variable {d : Backend}

/-! ## Deleting and updating -/

theorem exec_deleteCloudMnemonic (o : d.Environment) (w : Cache × d.Store) :
    d.exec o KeyManager.deleteCloudMnemonic w =
      (.returned (), w.1, d.afterDeleteCloud (o .deleteCloudMnemonic) w.2) := by
  simp only [KeyManager.deleteCloudMnemonic, exec_bind, exec_await,
    exec_invokeMethod_some (invoke_deleteCloudMnemonic (o .deleteCloudMnemonic) w.2)]
  rfl

theorem exec_permanentlyDeleteWallet (o : d.Environment) (c : Cache) (st : d.Store) :
    d.exec o WalletManager.permanentlyDeleteWallet (c, st) =
      if d.deleteReturns (o .deleteMnemonic) then
        (.returned (), none, d.afterDelete (o .deleteMnemonic) st)
      else (.threw .missingPluginException, c, d.afterDelete (o .deleteMnemonic) st) := by
  have hinvoked := exec_invokeMethod_some (f := Value.asBool) (w := (c, st))
    (invoke_deleteMnemonic (o .deleteMnemonic) st)
  simp only [WalletManager.permanentlyDeleteWallet, KeyManager.deleteMnemonic, exec_bind,
    exec_await, hinvoked]
  cases d.deleteReturns (o .deleteMnemonic) <;> rfl

/-- An update that finds no mnemonic stops there. -/
theorem exec_updateWalletStorage_none {o : d.Environment} {st : d.Store}
    (hseen : d.seen (o .getMnemonic) st = some none) (cfg : KeyStorageConfig) (c : Cache) :
    d.exec o (WalletManager.updateWalletStorage cfg) (c, st) =
      (.threw (.string "Unable to update storage settings, no wallet found"), c,
        d.afterRead (o .getMnemonic) st) := by
  simp only [WalletManager.updateWalletStorage, exec_bind, exec_await, exec_getMnemonic, hseen]
  rfl

theorem exec_updateWalletStorage_pending {o : d.Environment} {st : d.Store}
    (hseen : d.seen (o .getMnemonic) st = none) (cfg : KeyStorageConfig) (c : Cache) :
    d.exec o (WalletManager.updateWalletStorage cfg) (c, st) =
      (.pending, c, d.afterRead (o .getMnemonic) st) := by
  simp only [WalletManager.updateWalletStorage, exec_bind, exec_await, exec_getMnemonic, hseen]
  rfl

/-- An update of the wallet with phrase `m`: a save, and the deletion of the cloud copy if
the save is reported as done and was meant for the device. -/
theorem exec_updateWalletStorage_some {o : d.Environment} {st : d.Store} {m : String}
    (hseen : d.seen (o .getMnemonic) st = some (some m)) (cfg : KeyStorageConfig) (c : Cache) :
    d.exec o (WalletManager.updateWalletStorage cfg) (c, st) =
      let st' := d.afterSave (o .saveMnemonic) m cfg (d.afterRead (o .getMnemonic) st)
      match completionOf (d.saveReply (o .saveMnemonic) m cfg st) with
      | .pending => (.pending, c, st')
      | .threw e => (.threw e, c, st')
      | .returned _ =>
        (.returned (), c,
          if cfg.saveToCloud then st' else d.afterDeleteCloud (o .deleteCloudMnemonic) st') := by
  have hreply := saveReply_afterRead (o .saveMnemonic) (o .getMnemonic) m cfg st
  simp only [WalletManager.updateWalletStorage, exec_bind, exec_await, exec_getMnemonic, hseen,
    Completion.andThen_returned, exec_saveMnemonic, hreply]
  cases completionOf (d.saveReply (o .saveMnemonic) m cfg st) with
  | pending => rfl
  | threw e => rfl
  | returned u =>
    cases hcfg : cfg.saveToCloud with
    | true => simp
    | false => simp [exec_deleteCloudMnemonic]

theorem exec_getWallet_store (o : d.Environment) (c : Cache) (st : d.Store) :
    (d.exec o WalletManager.getWallet (c, st)).2.2 = guardStore o c st := by
  cases c with
  | some wallet => rw [exec_getWallet_cached]; rfl
  | none =>
    rw [exec_getWallet_uncached]
    match d.seen (o .getMnemonic) st with
    | none => rfl
    | some none => rfl
    | some (some m) =>
      dsimp only
      split <;> rfl

end Backend

/-! ## Operations -/

/-- The operations of a wallet that read or change what is stored, with the arguments that
matter for it. -/
inductive Operation where
  | creation (r : Creation) (overwrite : Bool) (storageOptions : Option KeyStorageConfig)
  | getMnemonic
  | getWallet
  | updateWalletStorage (storageOptions : KeyStorageConfig)
  | permanentlyDeleteWallet

namespace Operation

/-- What an operation returns. -/
def Result : Operation → Type
  | creation .. => Wallet
  | getMnemonic => Option String
  | getWallet => Option Wallet
  | updateWalletStorage _ => Unit
  | permanentlyDeleteWallet => Unit

/-- The Dart operation. -/
def program : (op : Operation) → Future op.Result
  | creation r overwrite storageOptions => r.program overwrite storageOptions
  | getMnemonic => KeyManager.getMnemonic
  | getWallet => WalletManager.getWallet
  | updateWalletStorage storageOptions => WalletManager.updateWalletStorage storageOptions
  | permanentlyDeleteWallet => WalletManager.permanentlyDeleteWallet

end Operation

/-! ## The machine -/

/-- One step of a run. Between two operations the tasks in the background complete, Play
services answer, and the process may end and start again. -/
inductive Event (d : Backend) where
  /-- An operation runs from its call to its end. -/
  | call (op : Operation) (o : d.Environment)
  /-- A deletion in the background completes, with success or not. -/
  | taskCompletes (ok : Bool)
  | encryptionAnswers (isAvailable : Bool)
  | restart

namespace Backend

variable {d : Backend}

/-- The cached wallet and the store after one step. A restart empties the cache and leaves the
slots. -/
def step : Event d → Cache × d.Store → Cache × d.Store
  | .call op o, w => (d.exec o op.program w).2
  | .taskCompletes ok, w => (w.1, d.taskCompletes ok w.2)
  | .encryptionAnswers isAvailable, w => (w.1, d.encryptionAnswers isAvailable w.2)
  | .restart, w => (none, d.restart w.2)

end Backend

end RlyNetworkSdk.Platform
