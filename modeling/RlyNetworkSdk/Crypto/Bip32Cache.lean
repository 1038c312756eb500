import RlyNetworkSdk.Crypto.Bip32
import RlyNetworkSdk.Transition.RoundRobin
import RlyNetworkSdk.Transition.Runs

/-!
# The Cache of `bip32.c`

`hdnode_private_ckd_cached` keeps the parents of the last nodes it derived, for one root at a time.
Over any history of calls it gives what the derivations give without the cache.
-/

namespace RlyNetworkSdk.Crypto.Bip32

open Transition

/-- `BIP32_CACHE_SIZE` -/
def cacheSize : Nat := 10

/-- `BIP32_CACHE_MAXDEPTH` -/
def cacheMaxDepth : Nat := 8

/-- The static memory of the cache: the root, if it is set, and the nodes below it by their path
and curve. -/
structure CkdCache where
  root : Option HDNode
  nodes : RoundRobin (List (BitVec 32) × CurveInfo) HDNode cacheSize

/-- The memory before the first call: no root is known, and every slot is empty. -/
def CkdCache.initial : CkdCache := ⟨none, .empty⟩

section Derivation

variable (ecdsaGetPublicKey33 : EcdsaCurve → List UInt8 → List UInt8) (fuel : Nat)

/-- The last derivation of a path, from the parent in the cache, or else from one that is derived and
kept. -/
def ckdViaParent (inout : HDNode) (path : List (BitVec 32)) (last : BitVec 32)
    (cache : CkdCache) : Option (Option HDNode) × CkdCache :=
  match cache.nodes.lookup (path, inout.curve) with
  | some parent => (hdnodePrivateCkd ecdsaGetPublicKey33 fuel parent last, cache)
  | none =>
    match privateCkdPath ecdsaGetPublicKey33 fuel inout path with
    | some (some parent) =>
      (hdnodePrivateCkd ecdsaGetPublicKey33 fuel parent last,
        { cache with nodes := cache.nodes.store (path, parent.curve) parent })
    | r => (r, cache)

/-- The node at a path and the cache afterwards. A path that does not fit in an entry is copied past
its end, which is undefined and has no result here. -/
def hdnodePrivateCkdCached (inout : HDNode) (i : List (BitVec 32)) (cache : CkdCache) :
    Option (Option HDNode) × CkdCache :=
  match i.getLast? with
  | none => (some (some inout), cache)
  | some last =>
    let path := i.dropLast
    if path = [] then (hdnodePrivateCkd ecdsaGetPublicKey33 fuel inout last, cache)
    else if cacheMaxDepth < path.length then (none, cache)
    else
      -- another root clears the cache, and then there is no parent to be found
      let cache := if cache.root = some inout then cache else ⟨some inout, .empty⟩
      ckdViaParent ecdsaGetPublicKey33 fuel inout path last cache

/-! ## Coherence -/

/-- The nodes in the cache are those at their paths below the root. With another root the cache
is cleared, so that one root is enough to say it. -/
def CkdCache.Coherent (cache : CkdCache) : Prop :=
  ∀ root, cache.root = some root →
    RoundRobin.Coherent (fun key node =>
      privateCkdPath ecdsaGetPublicKey33 fuel root key.1 = some (some node)) cache.nodes

theorem CkdCache.coherent_initial : CkdCache.initial.Coherent ecdsaGetPublicKey33 fuel := by
  intro root hroot
  exact nomatch hroot

/-- A path is its parent's and one derivation more. -/
theorem privateCkdPath_append_singleton (inout : HDNode) (path : List (BitVec 32))
    (i : BitVec 32) :
    privateCkdPath ecdsaGetPublicKey33 fuel inout (path ++ [i]) =
      match privateCkdPath ecdsaGetPublicKey33 fuel inout path with
      | some (some parent) => hdnodePrivateCkd ecdsaGetPublicKey33 fuel parent i
      | r => r := by
  induction path generalizing inout with
  | nil =>
    simp only [List.nil_append, privateCkdPath]
    split <;> simp_all
  | cons j path ih =>
    simp only [List.cons_append, privateCkdPath]
    -- a derivation that fails or does not end stops both ways
    cases hckd : hdnodePrivateCkd ecdsaGetPublicKey33 fuel inout j with
    | none => rfl
    | some child =>
      cases child with
      | none => rfl
      | some child => exact ih child

theorem CkdCache.Coherent.ckdViaParent {cache : CkdCache} {root : HDNode}
    (hc : cache.Coherent ecdsaGetPublicKey33 fuel) (hroot : cache.root = some root)
    (path : List (BitVec 32)) (last : BitVec 32) :
    (ckdViaParent ecdsaGetPublicKey33 fuel root path last cache).1 =
        privateCkdPath ecdsaGetPublicKey33 fuel root (path ++ [last]) ∧
      (ckdViaParent ecdsaGetPublicKey33 fuel root path last cache).2.Coherent
        ecdsaGetPublicKey33 fuel := by
  have hnodes := hc root hroot
  rw [Bip32.ckdViaParent, privateCkdPath_append_singleton]
  cases hlookup : cache.nodes.lookup (path, root.curve) with
  | some parent =>
    -- the parent is in the cache, and by coherence it is the derived one
    have hparent := hnodes.lookup hlookup
    simp only at hparent
    rw [hparent]
    exact ⟨rfl, hc⟩
  | none =>
    cases hpath : privateCkdPath ecdsaGetPublicKey33 fuel root path with
    | none => exact ⟨rfl, hc⟩
    | some parent =>
      cases parent with
      | none => exact ⟨rfl, hc⟩
      | some parent =>
        -- it is derived and stored, which keeps the cache coherent
        refine ⟨rfl, fun root' hroot' => ?_⟩
        obtain rfl : root = root' := Option.some.inj (hroot.symm.trans hroot')
        exact hnodes.store hpath

/-- One call, from any state the cache can be in. -/
theorem CkdCache.Coherent.hdnodePrivateCkdCached {cache : CkdCache}
    (hc : cache.Coherent ecdsaGetPublicKey33 fuel) (inout : HDNode) {i : List (BitVec 32)}
    (hi : i.length ≤ cacheMaxDepth + 1) :
    (hdnodePrivateCkdCached ecdsaGetPublicKey33 fuel inout i cache).1 =
        privateCkdPath ecdsaGetPublicKey33 fuel inout i ∧
      (hdnodePrivateCkdCached ecdsaGetPublicKey33 fuel inout i cache).2.Coherent
        ecdsaGetPublicKey33 fuel := by
  rcases List.eq_nil_or_concat i with rfl | ⟨path, last, rfl⟩
  · exact ⟨rfl, hc⟩
  rw [List.concat_eq_append] at hi ⊢
  rw [Bip32.hdnodePrivateCkdCached, List.getLast?_concat, List.dropLast_concat]
  simp only
  split_ifs with hpath hdepth hroot
  · rw [hpath, privateCkdPath_append_singleton]
    exact ⟨rfl, hc⟩
  · rw [List.length_append, List.length_singleton] at hi
    omega
  · exact hc.ckdViaParent ecdsaGetPublicKey33 fuel hroot path last
  · -- the cache of another root is cleared
    have hclear : CkdCache.Coherent ecdsaGetPublicKey33 fuel ⟨some inout, .empty⟩ :=
      fun _ _ => RoundRobin.coherent_empty
    exact hclear.ckdViaParent ecdsaGetPublicKey33 fuel rfl path last

/-- One call of `hdnode_private_ckd_cached`, with the node that it starts from and the indices
of its path. -/
structure CkdCall where
  inout : HDNode
  path : List (BitVec 32)
  /-- The parent's path fits in an entry. -/
  length_path : path.length ≤ cacheMaxDepth + 1

/-- **Over any history of calls the cache gives the nodes of the derivations**, whatever roots and
paths earlier calls had. -/
theorem cached_derivations (calls : List CkdCall) :
    trace (fun call cache =>
        hdnodePrivateCkdCached ecdsaGetPublicKey33 fuel call.inout call.path cache) calls
        CkdCache.initial =
      calls.map fun call => privateCkdPath ecdsaGetPublicKey33 fuel call.inout call.path := by
  apply trace_eq_map (I := CkdCache.Coherent ecdsaGetPublicKey33 fuel)
  · intro call cache hc
    exact hc.hdnodePrivateCkdCached ecdsaGetPublicKey33 fuel call.inout call.length_path
  · exact CkdCache.coherent_initial ecdsaGetPublicKey33 fuel

end Derivation

end RlyNetworkSdk.Crypto.Bip32
