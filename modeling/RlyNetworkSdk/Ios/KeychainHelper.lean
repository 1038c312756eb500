import RlyNetworkSdk.KeyStorage.Slots

/-!
# `KeyChainHelper.swift`

The iOS store: two generic-password items of the keychain under one service and account.
The item with `kSecAttrSynchronizable: true` is the cloud slot. A query without that
attribute is about items that are not synchronizable, so it is about the device slot.

## Modelling notes

- Every keychain call is synchronous and can fail; `Outcomes` says which ones do. A call
  that the keychain service carries out has the status that the item's presence gives.
- The data is the UTF-8 form of the mnemonic, kept here as the string itself.
-/

namespace RlyNetworkSdk.Ios

open KeyStorage

/-! ## Keychain services -/

/-- The statuses that the code can tell apart. Only `errSecDuplicateItem` is ever compared with;
the others are dropped. -/
inductive OSStatus where
  | errSecSuccess
  | errSecDuplicateItem
  | errSecItemNotFound
  /-- Any other failure. -/
  | failure
  deriving DecidableEq, Repr

/-- What the environment decides during one method-channel call: for each call of the keychain
whether it is carried out. -/
structure Outcomes where
  /-- The `MNEMONIC_STRENGTH` bytes that `SecRandomCopyBytes` fills in, if it succeeds. -/
  secRandomCopyBytes : Option (Vector UInt8 24)
  /-- `SecItemAdd` is carried out. -/
  secItemAdd : Bool
  /-- `SecItemUpdate` is carried out. -/
  secItemUpdate : Bool
  /-- `SecItemCopyMatching` of the item is carried out. -/
  secItemCopyMatching : Slot → Bool
  /-- `SecItemDelete` of the item is carried out. -/
  secItemDelete : Slot → Bool

/-- The keychain items of the app, one that is synchronized with the cloud and one for the
device. -/
abbrev Store := Slots String

/-- `SecItemAdd`: it does not replace an item that is there. -/
def secItemAdd (o : Outcomes) (item : Slot) (data : String) (st : Store) : OSStatus × Store :=
  if !o.secItemAdd then (.failure, st)
  else
    match st.get item with
    | some _ => (.errSecDuplicateItem, st)
    | none => (.errSecSuccess, st.set item (some data))

/-- `SecItemUpdate`: it does not make an item that is not there. -/
def secItemUpdate (o : Outcomes) (item : Slot) (data : String) (st : Store) : OSStatus × Store :=
  if !o.secItemUpdate then (.failure, st)
  else
    match st.get item with
    | some _ => (.errSecSuccess, st.set item (some data))
    | none => (.errSecItemNotFound, st)

/-- `SecItemCopyMatching`, as the value of `result as? Data`: nothing for a failed query as well
as for no item. -/
def secItemCopyMatching (o : Outcomes) (item : Slot) (st : Store) : Option String :=
  if o.secItemCopyMatching item then st.get item else none

/-- `SecItemDelete` -/
def secItemDelete (o : Outcomes) (item : Slot) (st : Store) : OSStatus × Store :=
  if !o.secItemDelete item then (.failure, st)
  else
    match st.get item with
    | some _ => (.errSecSuccess, st.set item none)
    | none => (.errSecItemNotFound, st)

/-! ## The helper -/

/-- The common body of the two save functions. The status of the update is dropped, and so
is every status of the add other than `errSecDuplicateItem`. -/
def saveToKeychain (item : Slot) (o : Outcomes) (data : String) (st : Store) : Store :=
  match secItemAdd o item data st with
  -- the item is there already
  | (.errSecDuplicateItem, st) => (secItemUpdate o item data st).2
  | (_, st) => st

def saveToiCloudKeychain : Outcomes → String → Store → Store := saveToKeychain .cloud

def saveToDeviceKeychain : Outcomes → String → Store → Store := saveToKeychain .device

def save (o : Outcomes) (data : String) (saveToCloud : Bool) (st : Store) : Store :=
  if saveToCloud then saveToiCloudKeychain o data st else saveToDeviceKeychain o data st

def readFromDeviceKeychain (o : Outcomes) (st : Store) : Option String :=
  secItemCopyMatching o .device st

def readFromiCloudKeychain (o : Outcomes) (st : Store) : Option String :=
  secItemCopyMatching o .cloud st

def read (o : Outcomes) (st : Store) : Option String :=
  let iCloudData := readFromiCloudKeychain o st
  -- nil for a failed query as well as for no item
  if iCloudData ≠ none then iCloudData else readFromDeviceKeychain o st

def deleteFromDeviceKeychain (o : Outcomes) (st : Store) : Store :=
  (secItemDelete o .device st).2

def deleteFromiCloudKeychain (o : Outcomes) (st : Store) : Store :=
  (secItemDelete o .cloud st).2

def delete (o : Outcomes) (st : Store) : Store :=
  deleteFromiCloudKeychain o (deleteFromDeviceKeychain o st)

end RlyNetworkSdk.Ios
