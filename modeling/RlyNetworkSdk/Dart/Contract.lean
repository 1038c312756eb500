import RlyNetworkSdk.Dart.Web3dart

/-!
# Contract Calls

`DeployedContract.function` and `ContractFunction.encodeCall`: the arguments of a call are
encoded against the inputs that the JSON of the contract lists, one by one in that order,
behind the four bytes that select the function.
-/

namespace RlyNetworkSdk.Dart

open Encoding Evm

/-! ## Arguments and inputs -/

/-- A Dart value that is handed to the encoder, by its runtime type. -/
inductive Arg where
  | bigInt (n : Int)
  | address (a : EthereumAddress)
  | bytes (bs : List UInt8)
  | string (s : String)
  | list (args : List Arg)

/-- The elements of a list. -/
def Arg.elements : Arg → Option (List Arg)
  | .list args => some args
  | _ => none

/-- An input of a function, as the JSON of the contract has it. Only a tuple has components. -/
inductive Parameter where
  | mk (name type : String) (components : List Parameter)

namespace Parameter

/-- An input that is not a tuple. -/
def leaf (name type : String) : Parameter := .mk name type []

def name : Parameter → String
  | .mk name _ _ => name

def components : Parameter → List Parameter
  | .mk _ _ components => components

end Parameter

/-- A function of a contract. -/
structure ContractFunction where
  name : String
  inputs : List Parameter

/-- The component of a tuple that the table of its components names so, and the argument at
that place. -/
def namedArgument (components : List Parameter) (name : String) (arg : Arg) :
    Option (Parameter × Arg) :=
  arg.elements.bind fun args =>
    ((components.map Parameter.name).zip (components.zip args)).lookup name

/-! ## Types -/

mutual

/-- The type of an input in the signature of its function, where a tuple is written as its
components in brackets. -/
def Parameter.typeText : Parameter → String
  | .mk _ type components =>
    if type = "tuple" then "(" ++ typeTexts components ++ ")" else type

def typeTexts : List Parameter → String
  | [] => ""
  | [p] => p.typeText
  | p :: ps => p.typeText ++ "," ++ typeTexts ps

end

mutual

/-- The layout of an input. -/
def Parameter.ty : Parameter → Abi.Ty
  | .mk _ type components =>
    if type = "tuple" then .tuple (tys components)
    else if type = "bytes" ∨ type = "string" then .bytes
    else .word

def tys : List Parameter → List Abi.Ty
  | [] => []
  | p :: ps => p.ty :: tys ps

end

/-! ## Values -/

variable (w3 : Web3dart)

/-- The value of an argument of a type that is not a tuple; no value where the encoder
throws. -/
def leafValue (type : String) : Arg → Option Abi.Value
  | .address a => if type = "address" then some (.word (BitVec.ofNat 256 a.toNat)) else none
  | .bigInt n =>
    if type = "uint256" then (w3.encodeUint 256 n).map .word
    else if type = "uint8" then (w3.encodeUint 8 n).map .word
    else none
  | .bytes bs =>
    if type = "bytes" then some (.bytes bs)
    else if type = "bytes32" ∧ bs.length = 32 then
      some (.word (BitVec.ofNat 256 (BigEndian.value bs)))
    else none
  | .string s => if type = "string" then some (.bytes (utf8 s)) else none
  | .list _ => none

mutual

/-- The value of an argument for an input; no value where the package throws, for an argument of
another kind or a number that does not fit. -/
def Parameter.value : Parameter → Arg → Option Abi.Value
  | .mk _ type components, arg =>
    if type = "tuple" then
      arg.elements.bind fun args => (argumentValues components args).map .tuple
    else leafValue w3 type arg

/-- The values of the arguments, one for each input. -/
def argumentValues : List Parameter → List Arg → Option (List Abi.Value)
  | [], [] => some []
  | p :: ps, arg :: args => do
    let v ← p.value arg
    let vs ← argumentValues ps args
    return v :: vs
  | _, _ => none

end

namespace ContractFunction

variable (f : ContractFunction)

/-- The four bytes that select the function, which are the first ones of a hash of its
signature. -/
def selector : List UInt8 :=
  (w3.keccak256 (utf8 (f.name ++ "(" ++ typeTexts f.inputs ++ ")"))).take 4

/-- `encodeCall`, assumed to follow the contract ABI; also the `data` of
`Transaction.callContract`. -/
def encodeCall (args : List Arg) : Option (List UInt8) :=
  (argumentValues w3 f.inputs args).map fun vs => f.selector w3 ++ (Abi.Value.tuple vs).encode

end ContractFunction

/-! ## What is encoded can be read -/

variable {w3}

theorem leafValue_hasType {name type : String} {arg : Arg} {v : Abi.Value}
    (htuple : type ≠ "tuple") (h : leafValue w3 type arg = some v) :
    v.HasType (Parameter.leaf name type).ty := by
  rw [Parameter.leaf, Parameter.ty, if_neg htuple]
  -- each kind of argument is only taken by the types that it fits
  cases arg with
  | bigInt n =>
    simp only [leafValue] at h
    split at h
    · next huint =>
      obtain ⟨w, -, rfl⟩ := Option.map_eq_some_iff.mp h
      rw [huint, if_neg (by decide)]
      trivial
    · split at h
      · next huint =>
        obtain ⟨w, -, rfl⟩ := Option.map_eq_some_iff.mp h
        rw [huint, if_neg (by decide)]
        trivial
      · cases h
  | address a =>
    simp only [leafValue] at h
    split at h
    · next haddress =>
      obtain rfl := Option.some.inj h
      rw [haddress, if_neg (by decide)]
      trivial
    · cases h
  | bytes bs =>
    simp only [leafValue] at h
    split at h
    · next hbytes =>
      obtain rfl := Option.some.inj h
      rw [if_pos (.inl hbytes)]
      trivial
    · split at h
      · next hbytes =>
        obtain rfl := Option.some.inj h
        rw [hbytes.1, if_neg (by decide)]
        trivial
      · cases h
  | string s =>
    simp only [leafValue] at h
    split at h
    · next hstring =>
      obtain rfl := Option.some.inj h
      rw [if_pos (.inr hstring)]
      trivial
    · cases h
  | list args => cases h

mutual

theorem Parameter.value_hasType : ∀ (p : Parameter) (arg : Arg) (v : Abi.Value),
    p.value w3 arg = some v → v.HasType p.ty
  | .mk name type components, arg, v, h => by
    -- a tuple has the types of its components, anything else is a leaf
    by_cases htuple : type = "tuple"
    · rw [Parameter.value, if_pos htuple] at h
      rw [Parameter.ty, if_pos htuple]
      obtain ⟨args, -, h⟩ := Option.bind_eq_some_iff.mp h
      obtain ⟨vs, hvs, rfl⟩ := Option.map_eq_some_iff.mp h
      exact argumentValues_hasTypes components args vs hvs
    · rw [Parameter.value, if_neg htuple] at h
      have hleaf := @leafValue_hasType w3 name type arg v htuple h
      rw [Parameter.leaf, Parameter.ty, if_neg htuple] at hleaf
      rw [Parameter.ty, if_neg htuple]
      exact hleaf

theorem argumentValues_hasTypes : ∀ (ps : List Parameter) (args : List Arg)
    (vs : List Abi.Value), argumentValues w3 ps args = some vs → Abi.HasTypes vs (tys ps)
  | [], [], vs, h => by
    obtain rfl := Option.some.inj h
    trivial
  | p :: ps, arg :: args, vs, h => by
    rw [argumentValues] at h
    simp only [Option.bind_eq_bind, Option.bind_eq_some_iff] at h
    obtain ⟨w, hw, ws, hws, h⟩ := h
    obtain rfl := Option.some.inj h
    exact ⟨p.value_hasType arg w hw, argumentValues_hasTypes ps args ws hws⟩

end

/-- **The arguments of a call can be read from its data**, behind the selector. A contract reads
them so, and what it reads is what it was called with. -/
theorem ContractFunction.decode_encodeCall {f : ContractFunction} {args : List Arg}
    {data : List UInt8} (h : f.encodeCall w3 args = some data) (hlen : data.length < 2 ^ 256) :
    ∃ vs, argumentValues w3 f.inputs args = some vs ∧
      data.take 4 = f.selector w3 ∧
      Abi.decode (.tuple (tys f.inputs)) (data.drop 4) = some (.tuple vs) := by
  obtain ⟨vs, hvs, rfl⟩ := Option.map_eq_some_iff.mp h
  -- the selector is four bytes, so it can be taken off
  have hselector : (f.selector w3).length = 4 := by
    rw [selector, List.length_take, w3.length_keccak256]
    rfl
  -- offsets fit in a word, as the whole call is shorter
  have hbound : (Abi.Value.tuple vs).encode.length < 2 ^ 256 := by
    rw [List.length_append] at hlen
    omega
  refine ⟨vs, hvs, List.take_left' hselector, ?_⟩
  rw [List.drop_left' hselector]
  simpa using Abi.decode_encode (.tuple vs) (.tuple (tys f.inputs))
    (argumentValues_hasTypes f.inputs args vs hvs) hbound []

/-- The arguments of a call of the function, read from its data; no value for other data. This
is the contract's side of `encodeCall`. -/
def ContractFunction.decodeCall (w3 : Web3dart) (f : ContractFunction) (data : List UInt8) :
    Option (List Abi.Value) :=
  if data.take 4 = f.selector w3 then
    match Abi.decode (.tuple (tys f.inputs)) (data.drop 4) with
    | some (.tuple vs) => some vs
    | _ => none
  else none

/-- The same for known values of the arguments. -/
theorem ContractFunction.decodeCall_of_encodeCall {f : ContractFunction} {args : List Arg}
    {data : List UInt8} {vs : List Abi.Value} (h : f.encodeCall w3 args = some data)
    (hlen : data.length < 2 ^ 256) (hvs : argumentValues w3 f.inputs args = some vs) :
    f.decodeCall w3 data = some vs := by
  obtain ⟨ws, hws, hselector, hdecode⟩ := decode_encodeCall h hlen
  obtain rfl := Option.some.inj (hvs.symm.trans hws)
  rw [decodeCall, if_pos hselector, hdecode]

/-! ## Longer arguments -/

mutual

/-- The argument has the form of the other one, and no byte string in it is longer. Numbers and
addresses may be any. -/
def Arg.NoLonger : Arg → Arg → Prop
  | .bigInt _, .bigInt _ => True
  | .address _, .address _ => True
  | .bytes bs, .bytes cs => bs.length ≤ cs.length
  | .string s, .string t => (utf8 s).length ≤ (utf8 t).length
  | .list args, .list args' => NoArgLonger args args'
  | _, _ => False

def NoArgLonger : List Arg → List Arg → Prop
  | [], [] => True
  | arg :: args, arg' :: args' => arg.NoLonger arg' ∧ NoArgLonger args args'
  | _, _ => False

end

mutual

theorem Arg.noLonger_refl : ∀ arg : Arg, arg.NoLonger arg
  | .bigInt _ => trivial
  | .address _ => trivial
  | .bytes bs => Nat.le_refl bs.length
  | .string s => Nat.le_refl (utf8 s).length
  | .list args => noArgLonger_refl args

theorem noArgLonger_refl : ∀ args : List Arg, NoArgLonger args args
  | [] => trivial
  | arg :: args => ⟨arg.noLonger_refl, noArgLonger_refl args⟩

end

theorem leafValue_noLonger {type : String} {arg arg' : Arg} {v w : Abi.Value}
    (harg : arg.NoLonger arg') (hv : leafValue w3 type arg = some v)
    (hw : leafValue w3 type arg' = some w) : v.NoLonger w := by
  -- arguments of different kinds are not compared
  cases arg <;> cases arg' <;> try exact harg.elim
  case bigInt.bigInt m n =>
    simp only [leafValue] at hv hw
    split at hv
    · next huint =>
      rw [if_pos huint] at hw
      obtain ⟨x, -, rfl⟩ := Option.map_eq_some_iff.mp hv
      obtain ⟨y, -, rfl⟩ := Option.map_eq_some_iff.mp hw
      trivial
    · next huint =>
      rw [if_neg huint] at hw
      split at hv
      · next hbyte =>
        rw [if_pos hbyte] at hw
        obtain ⟨x, -, rfl⟩ := Option.map_eq_some_iff.mp hv
        obtain ⟨y, -, rfl⟩ := Option.map_eq_some_iff.mp hw
        trivial
      · cases hv
  case address.address a b =>
    simp only [leafValue] at hv hw
    split at hv
    · next haddress =>
      rw [if_pos haddress] at hw
      obtain rfl := Option.some.inj hv
      obtain rfl := Option.some.inj hw
      trivial
    · cases hv
  -- bytes keep their length, unless they make a single word
  case bytes.bytes bs cs =>
    simp only [leafValue] at hv hw
    split at hv
    · next hbytes =>
      rw [if_pos hbytes] at hw
      obtain rfl := Option.some.inj hv
      obtain rfl := Option.some.inj hw
      exact harg
    · next hbytes =>
      rw [if_neg hbytes] at hw
      split at hv
      · split at hw
        · obtain rfl := Option.some.inj hv
          obtain rfl := Option.some.inj hw
          trivial
        · cases hw
      · cases hv
  case string.string s t =>
    simp only [leafValue] at hv hw
    split at hv
    · next hstring =>
      rw [if_pos hstring] at hw
      obtain rfl := Option.some.inj hv
      obtain rfl := Option.some.inj hw
      exact harg
    · cases hv
  case list.list args args' => cases hv

theorem Arg.eq_list {arg : Arg} {args : List Arg} (h : arg.elements = some args) :
    arg = .list args := by
  cases arg with
  | list args' => rw [Option.some.inj h]
  | bigInt n => cases h
  | address a => cases h
  | bytes bs => cases h
  | string s => cases h

mutual

theorem Parameter.value_noLonger : ∀ (p : Parameter) {arg arg' : Arg} {v w : Abi.Value},
    arg.NoLonger arg' → p.value w3 arg = some v → p.value w3 arg' = some w → v.NoLonger w
  | .mk name type components, arg, arg', v, w, harg, hv, hw => by
    by_cases htuple : type = "tuple"
    · rw [Parameter.value, if_pos htuple] at hv hw
      obtain ⟨args, hargs, hv⟩ := Option.bind_eq_some_iff.mp hv
      obtain ⟨args', hargs', hw⟩ := Option.bind_eq_some_iff.mp hw
      obtain ⟨vs, hvs, rfl⟩ := Option.map_eq_some_iff.mp hv
      obtain ⟨ws, hws, rfl⟩ := Option.map_eq_some_iff.mp hw
      rw [Arg.eq_list hargs, Arg.eq_list hargs'] at harg
      exact argumentValues_noneLonger components harg hvs hws
    · rw [Parameter.value, if_neg htuple] at hv hw
      exact leafValue_noLonger harg hv hw

theorem argumentValues_noneLonger : ∀ (ps : List Parameter) {args args' : List Arg}
    {vs ws : List Abi.Value}, NoArgLonger args args' → argumentValues w3 ps args = some vs →
    argumentValues w3 ps args' = some ws → Abi.NoneLonger vs ws
  | [], [], [], vs, ws, _, hv, hw => by
    obtain rfl := Option.some.inj hv
    obtain rfl := Option.some.inj hw
    trivial
  | p :: ps, arg :: args, arg' :: args', vs, ws, hargs, hv, hw => by
    rw [argumentValues] at hv hw
    simp only [Option.bind_eq_bind, Option.bind_eq_some_iff] at hv hw
    obtain ⟨v, hv, vs, hvs, h⟩ := hv
    obtain rfl := Option.some.inj h
    obtain ⟨w, hw, ws, hws, h⟩ := hw
    obtain rfl := Option.some.inj h
    exact ⟨p.value_noLonger hargs.1 hv hw, argumentValues_noneLonger ps hargs.2 hvs hws⟩

end

mutual

/-- A bound for the bytes of an argument, which is easier to compute than their exact number. -/
def Arg.weight : Arg → Nat
  | .bigInt _ => 32
  | .address _ => 32
  | .bytes bs => 64 + bs.length
  | .string s => 64 + (utf8 s).length
  | .list args => weights args

def weights : List Arg → Nat
  | [] => 0
  | arg :: args => 32 + arg.weight + weights args

end

theorem leafValue_size_le {type : String} {arg : Arg} {v : Abi.Value}
    (h : leafValue w3 type arg = some v) : v.size ≤ arg.weight := by
  -- a leaf is one word, or its length and its bytes, padded
  cases arg with
  | bigInt n =>
    simp only [leafValue] at h
    split at h
    · obtain ⟨w, -, rfl⟩ := Option.map_eq_some_iff.mp h
      exact Nat.le_refl 32
    · split at h
      · obtain ⟨w, -, rfl⟩ := Option.map_eq_some_iff.mp h
        exact Nat.le_refl 32
      · cases h
  | address a =>
    simp only [leafValue] at h
    split at h
    · obtain rfl := Option.some.inj h
      exact Nat.le_refl 32
    · cases h
  | bytes bs =>
    simp only [leafValue] at h
    split at h
    · obtain rfl := Option.some.inj h
      rw [Abi.Value.size, Arg.weight]
      omega
    · split at h
      · obtain rfl := Option.some.inj h
        rw [Abi.Value.size, Arg.weight]
        omega
      · cases h
  | string s =>
    simp only [leafValue] at h
    split at h
    · obtain rfl := Option.some.inj h
      rw [Abi.Value.size, Arg.weight]
      omega
    · cases h
  | list args => cases h

mutual

theorem Parameter.value_size_le : ∀ (p : Parameter) {arg : Arg} {v : Abi.Value},
    p.value w3 arg = some v → v.size ≤ arg.weight
  | .mk name type components, arg, v, h => by
    by_cases htuple : type = "tuple"
    · rw [Parameter.value, if_pos htuple] at h
      obtain ⟨args, hargs, h⟩ := Option.bind_eq_some_iff.mp h
      obtain ⟨vs, hvs, rfl⟩ := Option.map_eq_some_iff.mp h
      rw [Arg.eq_list hargs, Abi.Value.size, Arg.weight]
      exact argumentValues_sizes_le components hvs
    · rw [Parameter.value, if_neg htuple] at h
      exact leafValue_size_le h

theorem argumentValues_sizes_le : ∀ (ps : List Parameter) {args : List Arg}
    {vs : List Abi.Value}, argumentValues w3 ps args = some vs → Abi.sizes vs ≤ weights args
  | [], [], vs, h => by
    obtain rfl := Option.some.inj h
    exact Nat.le_refl 0
  | p :: ps, arg :: args, vs, h => by
    rw [argumentValues] at h
    simp only [Option.bind_eq_bind, Option.bind_eq_some_iff] at h
    obtain ⟨w, hw, ws, hws, h⟩ := h
    obtain rfl := Option.some.inj h
    have hfirst := p.value_size_le hw
    have hrest := argumentValues_sizes_le ps hws
    rw [Abi.sizes, weights]
    -- a dynamic value has its offset in addition
    split <;> omega

end

theorem ContractFunction.length_encodeCall_le_weights {f : ContractFunction} {args : List Arg}
    {data : List UInt8} (h : f.encodeCall w3 args = some data) :
    data.length ≤ 4 + weights args := by
  obtain ⟨vs, hvs, rfl⟩ := Option.map_eq_some_iff.mp h
  have hselector : (f.selector w3).length ≤ 4 := List.length_take_le _ _
  have hsize : (Abi.Value.tuple vs).encode.length ≤ weights args := by
    rw [Abi.length_encode_eq_size, Abi.Value.size]
    exact argumentValues_sizes_le f.inputs hvs
  rw [List.length_append]
  omega

end RlyNetworkSdk.Dart
