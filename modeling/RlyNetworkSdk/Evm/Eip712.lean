import RlyNetworkSdk.Encoding.Json
import RlyNetworkSdk.Evm.Abi

/-!
# EIP-712 Typed Data

A message is read against a table of struct types: the members of a struct are looked up in
the message by name, in the order of the table. The value that is read has an encoding of 32
bytes, in which byte strings and structs are represented by their hashes.

## Main result

- `encode_injective`: two values of one type with the same encoding are equal, if the hash
  function does not collide on what is hashed for the two.

The hash function and the hashes of the type descriptions are parameters.
-/

namespace RlyNetworkSdk.Evm.Eip712

open Encoding

/-! ## Messages -/

/-- A member of a struct type. -/
structure Member where
  name : String
  type : String
  deriving DecidableEq, Repr

/-- The struct types of a message, by their names, with the members in the order in which they
are encoded. -/
abbrev Types := List (String × List Member)

/-- A value, with the name of its type where it is a struct. A text and a byte string are the
same thing here, since both are hashed. -/
inductive Value where
  | word (w : Abi.Word)
  | bytes (bs : List UInt8)
  | struct (type : String) (members : List Value)

/-- Read a value of the type. `atom` reads the types that are not structs; the first
argument bounds the nesting of structs. -/
def read (types : Types) (atom : String → Json → Option Value) :
    Nat → String → Json → Option Value
  | 0, _, _ => none
  | depth + 1, type, json =>
    match types.lookup type with
    | none => atom type json
    | some members =>
      (members.mapM fun m => (json.get? m.name).bind (read types atom depth m.type)).map
        (.struct type)

/-- The member of a struct that the table of its type names so. -/
def Value.member (types : Types) (name : String) : Value → Option Value
  | .struct type vs => (types.lookup type).bind fun members =>
    ((members.map Member.name).zip vs).lookup name
  | _ => none

/-- What is read for the entries of a table is found again under their names. -/
theorem lookup_zip_of_mapM {α β : Type} (name : α → String) {entries : List α}
    {f : α → Option β} {vs : List β} (h : entries.mapM f = some vs)
    (hnodup : (entries.map name).Nodup) {e : α} (he : e ∈ entries) :
    ∃ v, f e = some v ∧ ((entries.map name).zip vs).lookup (name e) = some v := by
  induction entries generalizing vs with
  | nil => cases he
  | cons first entries ih =>
    rw [List.mapM_cons] at h
    simp only [Option.bind_eq_bind, Option.bind_eq_some_iff] at h
    obtain ⟨v, hv, ws, hws, h⟩ := h
    obtain rfl := Option.some.inj h
    obtain ⟨hfirst, hrest⟩ := List.nodup_cons.mp hnodup
    rcases List.mem_cons.mp he with rfl | he
    · exact ⟨v, hv, by simp⟩
    · -- a later entry has another name
      have hname : (name e == name first) = false := by
        rw [beq_eq_false_iff_ne]
        intro heq
        exact hfirst (heq ▸ List.mem_map_of_mem he)
      obtain ⟨w, hw, hlookup⟩ := ih hws hrest he
      exact ⟨w, hw, by simpa [List.lookup_cons, hname] using hlookup⟩

/-- A member of a struct is what is read from the entry of that name. -/
theorem read_member {types : Types} {atom : String → Json → Option Value} {depth : Nat}
    {type : String} {json : Json} {v : Value} {members : List Member}
    (hread : read types atom (depth + 1) type json = some v)
    (htype : types.lookup type = some members) (hnodup : (members.map Member.name).Nodup)
    {m : Member} (hm : m ∈ members) :
    ∃ entry w, json.get? m.name = some entry ∧ read types atom depth m.type entry = some w ∧
      v.member types m.name = some w := by
  rw [read, htype] at hread
  obtain ⟨vs, hvs, rfl⟩ := Option.map_eq_some_iff.mp hread
  obtain ⟨w, hw, hlookup⟩ := lookup_zip_of_mapM Member.name hvs hnodup hm
  obtain ⟨entry, hentry, hw⟩ := Option.bind_eq_some_iff.mp hw
  exact ⟨entry, w, hentry, hw, by rw [Value.member, htype, Option.bind_some, hlookup]⟩

/-- A struct can be read if its members can. -/
theorem exists_read {types : Types} {atom : String → Json → Option Value} {depth : Nat}
    {type : String} {json : Json} {members : List Member} (htype : types.lookup type = some members)
    (h : ∀ m ∈ members, ∃ entry v, json.get? m.name = some entry ∧
      read types atom depth m.type entry = some v) :
    ∃ v, read types atom (depth + 1) type json = some v := by
  -- over a part of the members, so that the induction goes through
  have hmembers : ∀ ms : List Member, (∀ m ∈ ms, m ∈ members) → ∃ vs,
      ms.mapM (fun m => (json.get? m.name).bind (read types atom depth m.type)) = some vs := by
    intro ms hms
    induction ms with
    | nil => exact ⟨[], rfl⟩
    | cons m ms ih =>
      obtain ⟨entry, v, hentry, hv⟩ := h m (hms m List.mem_cons_self)
      obtain ⟨vs, hvs⟩ := ih fun m hm => hms m (List.mem_cons_of_mem _ hm)
      exact ⟨v :: vs, by simp [List.mapM_cons, hentry, hv, hvs]⟩
  obtain ⟨vs, hvs⟩ := hmembers members fun _ hm => hm
  refine ⟨.struct type vs, ?_⟩
  rw [read, htype]
  simp only [hvs, Option.map_some]

/-! ## Encoding -/

/-- A hash function with digests of 32 bytes, and what it gives for the description of each
struct type. -/
structure Hashing where
  keccak : List UInt8 → List UInt8
  length_keccak : ∀ bs, (keccak bs).length = 32
  typeHash : String → List UInt8

variable (h : Hashing)

mutual

/-- The 32 bytes that stand for a value inside a struct: the word itself, or the hash of what is
longer. -/
def Value.encode : Value → List UInt8
  | .word w => w.bytes
  | .bytes bs => h.keccak bs
  | .struct type members => h.keccak (h.typeHash type ++ encodeMembers members)

def encodeMembers : List Value → List UInt8
  | [] => []
  | v :: vs => v.encode ++ encodeMembers vs

end

mutual

/-- Everything that is hashed for a value, at any depth. Only on these has the hash function to
be injective. -/
def Value.preimages : Value → List (List UInt8)
  | .word _ => []
  | .bytes bs => [bs]
  | .struct type members =>
    (h.typeHash type ++ encodeMembers h members) :: preimagesOfMembers members

def preimagesOfMembers : List Value → List (List UInt8)
  | [] => []
  | v :: vs => v.preimages ++ preimagesOfMembers vs

end

/-- The hash function tells the things in the two lists apart. -/
def Hashing.NoCollision (xs ys : List (List UInt8)) : Prop :=
  ∀ x ∈ xs, ∀ y ∈ ys, h.keccak x = h.keccak y → x = y

/-! ## Values of one type -/

mutual

def Value.SameType : Value → Value → Prop
  | .word _, .word _ => True
  | .bytes _, .bytes _ => True
  | .struct type members, .struct type' members' => type = type' ∧ SameTypes members members'
  | _, _ => False

def SameTypes : List Value → List Value → Prop
  | [], [] => True
  | v :: vs, w :: ws => v.SameType w ∧ SameTypes vs ws
  | _, _ => False

end

theorem sameTypes_of_mapM {f g : Member → Option Value} {members : List Member}
    (hsame : ∀ m v w, f m = some v → g m = some w → v.SameType w) {vs ws : List Value}
    (hvs : members.mapM f = some vs) (hws : members.mapM g = some ws) : SameTypes vs ws := by
  -- both readings go through the same members in the same order
  induction members generalizing vs ws with
  | nil =>
    obtain rfl := Option.some.inj hvs
    obtain rfl := Option.some.inj hws
    trivial
  | cons m members ih =>
    rw [List.mapM_cons] at hvs hws
    simp only [Option.bind_eq_bind, Option.bind_eq_some_iff] at hvs hws
    obtain ⟨v, hv, vs, hvs, h⟩ := hvs
    obtain rfl := Option.some.inj h
    obtain ⟨w, hw, ws, hws, h⟩ := hws
    obtain rfl := Option.some.inj h
    exact ⟨hsame m v w hv hw, ih hvs hws⟩

/-- Two readings of one type have the same form, if this is so of the types that are not
structs. -/
theorem read_sameType {types : Types} {atom : String → Json → Option Value}
    (hatom : ∀ type json json' v w, atom type json = some v → atom type json' = some w →
      v.SameType w) (depth : Nat) (type : String) (json json' : Json) (v w : Value)
    (hv : read types atom depth type json = some v)
    (hw : read types atom depth type json' = some w) : v.SameType w := by
  -- a type that is no struct is an atom; the members of a struct are one level down
  induction depth generalizing type json json' v w with
  | zero => cases hv
  | succ depth ih =>
    rw [read] at hv hw
    cases htype : types.lookup type with
    | none =>
      rw [htype] at hv hw
      exact hatom type json json' v w hv hw
    | some members =>
      rw [htype] at hv hw
      obtain ⟨vs, hvs, rfl⟩ := Option.map_eq_some_iff.mp hv
      obtain ⟨ws, hws, rfl⟩ := Option.map_eq_some_iff.mp hw
      refine ⟨rfl, sameTypes_of_mapM ?_ hvs hws⟩
      intro m v w hv hw
      obtain ⟨entry, -, hv⟩ := Option.bind_eq_some_iff.mp hv
      obtain ⟨entry', -, hw⟩ := Option.bind_eq_some_iff.mp hw
      exact ih m.type entry entry' v w hv hw

theorem Value.length_encode (v : Value) : (v.encode h).length = 32 := by
  cases v with
  | word w => rw [Value.encode, Abi.Word.length_bytes]
  | bytes bs => exact h.length_keccak bs
  | struct type members => rw [Value.encode, h.length_keccak]

variable {h}

theorem Hashing.NoCollision.left {xs ys zs ws : List (List UInt8)}
    (hno : h.NoCollision (xs ++ zs) (ys ++ ws)) : h.NoCollision xs ys := fun x hx y hy =>
  hno x (List.mem_append_left _ hx) y (List.mem_append_left _ hy)

theorem Hashing.NoCollision.right {xs ys zs ws : List (List UInt8)}
    (hno : h.NoCollision (xs ++ zs) (ys ++ ws)) : h.NoCollision zs ws := fun x hx y hy =>
  hno x (List.mem_append_right _ hx) y (List.mem_append_right _ hy)

mutual

/-- **The encoding binds the value.** Two values of one type with the same encoding are the
same, unless the hash function has a collision among what was hashed for them. -/
theorem encode_injective : ∀ v w : Value, v.SameType w →
    h.NoCollision (v.preimages h) (w.preimages h) → v.encode h = w.encode h → v = w
  | .word v, .word w, _, _, heq => by
    rw [Value.encode, Value.encode] at heq
    rw [Abi.Word.bytes_injective heq]
  | .bytes bs, .bytes cs, _, hno, heq => by
    rw [Value.encode, Value.encode] at heq
    rw [Value.preimages, Value.preimages] at hno
    rw [hno bs (List.mem_singleton_self _) cs (List.mem_singleton_self _) heq]
  | .struct type members, .struct type' members', hsame, hno, heq => by
    obtain ⟨rfl, hmembers⟩ := hsame
    rw [Value.encode, Value.encode] at heq
    rw [Value.preimages, Value.preimages] at hno
    -- the outer hash gives the members' encodings, and these the members
    have hinner := List.append_cancel_left
      (hno _ List.mem_cons_self _ List.mem_cons_self heq)
    have hrest : h.NoCollision (preimagesOfMembers h members) (preimagesOfMembers h members') :=
      fun x hx y hy => hno x (List.mem_cons_of_mem _ hx) y (List.mem_cons_of_mem _ hy)
    rw [encodeMembers_injective members members' hmembers hrest hinner]

theorem encodeMembers_injective : ∀ vs ws : List Value, SameTypes vs ws →
    h.NoCollision (preimagesOfMembers h vs) (preimagesOfMembers h ws) →
    encodeMembers h vs = encodeMembers h ws → vs = ws
  | [], [], _, _, _ => rfl
  | v :: vs, w :: ws, hsame, hno, heq => by
    rw [encodeMembers, encodeMembers] at heq
    rw [preimagesOfMembers, preimagesOfMembers] at hno
    -- every member takes 32 bytes
    obtain ⟨hfirst, hrest⟩ :=
      List.append_inj heq ((v.length_encode h).trans (w.length_encode h).symm)
    rw [encode_injective v w hsame.1 hno.left hfirst,
      encodeMembers_injective vs ws hsame.2 hno.right hrest]

end

end RlyNetworkSdk.Evm.Eip712
