import RlyNetworkSdk.Gsn.RelayRequest

/-!
# The Relay Signature Covers the Request

The fifteen fields of a relay request are written by hand in two maps and two lists, and
listed in two tables of types. Each field has one content in all of them, and two requests
with the same signed encoding have the same contents.
-/

namespace RlyNetworkSdk.Gsn

open Encoding Evm Dart

/-! ## Fields -/

/-- A field of a relay request: the part of the posted map that it is in, and its entry in
the table of the signed types. -/
structure Field where
  group : String
  member : Eip712.Member
  deriving DecidableEq

/-- The seven fields of the forward request and the eight of the relay data, each with the type
it has in the signed struct. -/
def fields : List Field :=
  requestMembers.map (⟨"request", ·⟩) ++ relayDataMembers.map (⟨"relayData", ·⟩)

namespace Field

variable (f : Field)

/-- The field in the map that is posted, under its own name in the map of its group. -/
def posted (r : RelayRequest) : Option Json :=
  (r.toMap.get? f.group).bind (Json.get? f.member.name)

/-- The content of the field in the map that is posted. -/
def postedContent (w3 : Web3dart) (r : RelayRequest) : Option Content :=
  (f.posted r).bind (w3.content f.member.type)

/-- The field in the struct that is signed, found by its name in the table of types. The forward
request has been flattened there, and the relay data is a struct inside. -/
def signed (v : Eip712.Value) : Option Eip712.Value :=
  if f.group = "request" then v.member signRequestTypes f.member.name
  else (v.member signRequestTypes f.group).bind (Eip712.Value.member signRequestTypes f.member.name)

/-- The field in the tuple of `relayCall`, at the place of its name in the ABI. The source
builds the tuple as a list, so only its place says which field a value is. -/
def argument (arg : Arg) : Option (Parameter × Arg) :=
  (namedArgument IRelayHub.relayRequestComponents f.group arg).bind fun group =>
    namedArgument group.1.components f.member.name group.2

end Field

/-- The struct that `signRequest` signs. -/
def signedStruct {w3 : Web3dart} (lib : EthSigUtil w3) (r : RelayRequest)
    (domainSeparatorName chainId : String) (config : NetworkConfig) : Option Eip712.Value :=
  (signRequestData r domainSeparatorName chainId config).messageStruct lib.readAtom

/-- Every text in the request stands for something of its type, and the message is one that
can be signed. -/
structure Parseable {w3 : Web3dart} (lib : EthSigUtil w3) (r : RelayRequest) : Prop where
  contents : ∀ f ∈ fields, ∃ c, f.postedContent w3 r = some c
  signable : ∀ domainSeparatorName chainId config,
    ∃ v, signedStruct lib r domainSeparatorName chainId config = some v

/-- The field has this content in the posted map, in the signed struct and in the argument of
`relayCall`, where it is of the same type. -/
structure Agrees {w3 : Web3dart} (lib : EthSigUtil w3) (r : RelayRequest) (v : Eip712.Value)
    (f : Field) (c : Content) : Prop where
  posted : f.postedContent w3 r = some c
  signed : f.signed v = some c.signed
  argument : (r.toJson w3).bind f.argument =
    some (.leaf f.member.name f.member.type, c.argument)

/-! ## The posted map and the signed struct -/

/-- The keys of the forward request and of the relay data do not collide. -/
theorem messageData_eq (r : RelayRequest) :
    messageData r = r.request.toMap ++ [("relayData", .object r.relayData.toMap)] := by
  simp [messageData, Json.Entries.spread, Json.Entries.put, ForwardRequest.toMap]

theorem lookup_relayRequest : signRequestTypes.lookup "RelayRequest" =
    some (requestMembers ++ [⟨"relayData", "RelayData"⟩]) := by decide

theorem lookup_relayData : signRequestTypes.lookup "RelayData" = some relayDataMembers := by
  decide

theorem mem_fields {f : Field} (hf : f ∈ fields) :
    (∃ m ∈ requestMembers, f = ⟨"request", m⟩) ∨
      ∃ m ∈ relayDataMembers, f = ⟨"relayData", m⟩ := by
  rcases List.mem_append.mp hf with hf | hf
  · obtain ⟨m, hm, rfl⟩ := List.mem_map.mp hf
    exact .inl ⟨m, hm, rfl⟩
  · obtain ⟨m, hm, rfl⟩ := List.mem_map.mp hf
    exact .inr ⟨m, hm, rfl⟩

/-- No field has a struct type. -/
theorem lookup_type_eq_none :
    ∀ m ∈ requestMembers ++ relayDataMembers, signRequestTypes.lookup m.type = none := by
  decide

section Signed

variable {w3 : Web3dart} {lib : EthSigUtil w3}

/-- What `signRequest` reads, whatever the domain. -/
theorem signedStruct_eq (r : RelayRequest) (domainSeparatorName chainId : String)
    (config : NetworkConfig) :
    signedStruct lib r domainSeparatorName chainId config =
      Eip712.read signRequestTypes lib.readAtom 4 "RelayRequest" (.object (messageData r)) :=
  rfl

/-- A member that is not a struct is read as its content. -/
theorem read_leaf {m : Eip712.Member} (hm : m ∈ requestMembers ++ relayDataMembers)
    {json : Json} {c : Content} (hc : w3.content m.type json = some c) {depth : Nat}
    {w : Eip712.Value}
    (hw : Eip712.read signRequestTypes lib.readAtom (depth + 1) m.type json = some w) :
    w = c.signed := by
  rw [Eip712.read, lookup_type_eq_none m hm] at hw
  exact lib.readAtom_of_content m.type json c w hc hw

theorem signed_requestField {r : RelayRequest} {domainSeparatorName chainId : String}
    {config : NetworkConfig} {v : Eip712.Value}
    (hv : signedStruct lib r domainSeparatorName chainId config = some v)
    {m : Eip712.Member} (hm : m ∈ requestMembers) {c : Content}
    (hc : Field.postedContent ⟨"request", m⟩ w3 r = some c) :
    Field.signed ⟨"request", m⟩ v = some c.signed := by
  obtain ⟨json, hjson, hcontent⟩ := Option.bind_eq_some_iff.mp hc
  rw [signedStruct_eq] at hv
  obtain ⟨entry, w, hentry, hw, hmember⟩ := Eip712.read_member hv lookup_relayRequest (by decide)
    (List.mem_append_left _ hm)
  -- the flattened entry is the posted one
  have hposted : r.request.toMap.lookup m.name = some json := hjson
  have hsame : entry = json := by
    have hlookup : (messageData r).lookup m.name = some entry := hentry
    rw [messageData_eq, List.lookup_append, hposted] at hlookup
    exact (Option.some.inj hlookup).symm
  subst hsame
  rw [read_leaf (List.mem_append_left _ hm) hcontent hw] at hmember
  exact hmember

theorem signed_relayDataField {r : RelayRequest} {domainSeparatorName chainId : String}
    {config : NetworkConfig} {v : Eip712.Value}
    (hv : signedStruct lib r domainSeparatorName chainId config = some v)
    {m : Eip712.Member} (hm : m ∈ relayDataMembers) {c : Content}
    (hc : Field.postedContent ⟨"relayData", m⟩ w3 r = some c) :
    Field.signed ⟨"relayData", m⟩ v = some c.signed := by
  obtain ⟨json, hjson, hcontent⟩ := Option.bind_eq_some_iff.mp hc
  rw [signedStruct_eq] at hv
  -- first the member `relayData` of the request
  obtain ⟨entry, w, hentry, hw, hmember⟩ := Eip712.read_member hv lookup_relayRequest (by decide)
    (List.mem_append_right _ (List.mem_singleton_self _))
  have hsame : entry = .object r.relayData.toMap := by
    have hlookup : (messageData r).lookup "relayData" = some entry := hentry
    rw [messageData_eq] at hlookup
    exact (Option.some.inj hlookup).symm
  subst hsame
  -- then the field inside of it
  obtain ⟨entry, w', hentry, hw', hmember'⟩ := Eip712.read_member hw lookup_relayData (by decide) hm
  have hposted : r.relayData.toMap.lookup m.name = some json := hjson
  have hsame : entry = json := by
    have hlookup : r.relayData.toMap.lookup m.name = some entry := hentry
    rw [hposted] at hlookup
    exact (Option.some.inj hlookup).symm
  subst hsame
  rw [read_leaf (List.mem_append_right _ hm) hcontent hw'] at hmember'
  rw [Field.signed, if_neg (by simp), hmember, Option.bind_some, hmember']

/-- **The signed struct has the contents of the posted map.** A field is found by its name in
the types, and its value in the message is the text that is posted. -/
theorem signed_field {r : RelayRequest} {domainSeparatorName chainId : String}
    {config : NetworkConfig} {v : Eip712.Value}
    (hv : signedStruct lib r domainSeparatorName chainId config = some v) {f : Field}
    (hf : f ∈ fields) {c : Content} (hc : f.postedContent w3 r = some c) :
    f.signed v = some c.signed := by
  obtain ⟨m, hm, rfl⟩ | ⟨m, hm, rfl⟩ := mem_fields hf
  · exact signed_requestField hv hm hc
  · exact signed_relayDataField hv hm hc

end Signed

/-! ## The argument of `relayCall` -/

section Argument

variable {w3 : Web3dart}

/-- A table of inputs that are no tuples, from a table of members. -/
def leaves (members : List Eip712.Member) : List Parameter :=
  members.map fun m => .leaf m.name m.type

/-- The ABI lists the fields as the signed types do. -/
theorem requestComponents_eq : IRelayHub.requestComponents = leaves requestMembers := rfl

theorem relayDataComponents_eq : IRelayHub.relayDataComponents = leaves relayDataMembers := rfl

/-- The contents of the entries of a map, in the order of a table. -/
def mapContents (w3 : Web3dart) (members : List Eip712.Member) (map : Json.Entries) :
    Option (List Content) :=
  members.mapM fun m => (map.lookup m.name).bind (w3.content m.type)

theorem zip_of_mapM {members : List Eip712.Member} {f : Eip712.Member → Option Content}
    {cs : List Content} (h : members.mapM f = some cs) :
    (members.mapM fun m => (f m).map fun c => (Parameter.leaf m.name m.type, c.argument)) =
      some ((leaves members).zip (cs.map Content.argument)) := by
  -- member by member, with the argument at the same place
  induction members generalizing cs with
  | nil =>
    obtain rfl := Option.some.inj h
    rfl
  | cons m members ih =>
    rw [List.mapM_cons] at h
    simp only [Option.bind_eq_bind, Option.bind_eq_some_iff] at h
    obtain ⟨c, hc, cs, hcs, h⟩ := h
    obtain rfl := Option.some.inj h
    rw [List.mapM_cons, hc, ih hcs]
    rfl

/-- An argument list that is made of the contents has each of them at its place. -/
theorem namedArgument_of_mapContents {members : List Eip712.Member} {map : Json.Entries}
    {cs : List Content} (hcs : mapContents w3 members map = some cs)
    (hnodup : (members.map Eip712.Member.name).Nodup) {m : Eip712.Member} (hm : m ∈ members)
    {c : Content} (hc : (map.lookup m.name).bind (w3.content m.type) = some c) :
    namedArgument (leaves members) m.name (.list (cs.map Content.argument)) =
      some (.leaf m.name m.type, c.argument) := by
  obtain ⟨v, hv, hlookup⟩ :=
    Eip712.lookup_zip_of_mapM Eip712.Member.name (zip_of_mapM hcs) hnodup hm
  rw [hc] at hv
  obtain rfl := Option.some.inj hv
  -- the leaves have the names of the members, which differ from each other
  have hnames : (leaves members).map Parameter.name = members.map Eip712.Member.name := by
    rw [leaves, List.map_map]
    rfl
  rw [namedArgument, Arg.elements, Option.bind_some, hnames, hlookup]

theorem ForwardRequest.toJson_eq {r : ForwardRequest}
    (h : ∀ m ∈ requestMembers, ∃ c, (r.toMap.lookup m.name).bind (w3.content m.type) = some c) :
    ∃ cs, mapContents w3 requestMembers r.toMap = some cs ∧
      r.toJson w3 = some (.list (cs.map Content.argument)) := by
  obtain ⟨cFrom, hfrom⟩ := h ⟨"from", "address"⟩ (by decide)
  obtain ⟨cTo, hto⟩ := h ⟨"to", "address"⟩ (by decide)
  obtain ⟨cValue, hvalue⟩ := h ⟨"value", "uint256"⟩ (by decide)
  obtain ⟨cGas, hgas⟩ := h ⟨"gas", "uint256"⟩ (by decide)
  obtain ⟨cNonce, hnonce⟩ := h ⟨"nonce", "uint256"⟩ (by decide)
  obtain ⟨cData, hdata⟩ := h ⟨"data", "bytes"⟩ (by decide)
  obtain ⟨cUntil, huntil⟩ := h ⟨"validUntilTime", "uint256"⟩ (by decide)
  -- the members are in the order in which `toJson` lists the fields
  refine ⟨[cFrom, cTo, cValue, cGas, cNonce, cData, cUntil], ?_, ?_⟩
  · rw [mapContents, requestMembers]
    simp only [List.mapM_cons, List.mapM_nil, hfrom, hto, hvalue, hgas, hnonce, hdata, huntil]
    rfl
  · -- what each content says about its text is what `toJson` parses
    obtain ⟨a, ha, rfl⟩ := content_address_text w3 hfrom
    obtain ⟨b, hb, rfl⟩ := content_address_text w3 hto
    obtain ⟨value, hv, rfl⟩ := content_uint256_text w3 hvalue
    obtain ⟨gas, hg, rfl⟩ := content_uint256_text w3 hgas
    obtain ⟨nonce, hn, rfl⟩ := content_uint256_text w3 hnonce
    obtain ⟨data, hd, rfl⟩ := content_bytes_text w3 hdata
    obtain ⟨validUntil, hu, rfl⟩ := content_uint256_text w3 huntil
    simp [toJson, ha, hb, hv, hg, hn, hd, hu, Content.argument]

theorem RelayData.toJson_eq {d : RelayData}
    (h : ∀ m ∈ relayDataMembers,
      ∃ c, (d.toMap.lookup m.name).bind (w3.content m.type) = some c) :
    ∃ cs, mapContents w3 relayDataMembers d.toMap = some cs ∧
      d.toJson w3 = some (.list (cs.map Content.argument)) := by
  obtain ⟨cFee, hfee⟩ := h ⟨"maxFeePerGas", "uint256"⟩ (by decide)
  obtain ⟨cPriority, hpriority⟩ := h ⟨"maxPriorityFeePerGas", "uint256"⟩ (by decide)
  obtain ⟨cUsed, hused⟩ := h ⟨"transactionCalldataGasUsed", "uint256"⟩ (by decide)
  obtain ⟨cWorker, hworker⟩ := h ⟨"relayWorker", "address"⟩ (by decide)
  obtain ⟨cPaymaster, hpaymaster⟩ := h ⟨"paymaster", "address"⟩ (by decide)
  obtain ⟨cForwarder, hforwarder⟩ := h ⟨"forwarder", "address"⟩ (by decide)
  obtain ⟨cData, hdata⟩ := h ⟨"paymasterData", "bytes"⟩ (by decide)
  obtain ⟨cClient, hclient⟩ := h ⟨"clientId", "uint256"⟩ (by decide)
  -- again in the order of `toJson`, with the gas used in the third place
  refine ⟨[cFee, cPriority, cUsed, cWorker, cPaymaster, cForwarder, cData, cClient], ?_, ?_⟩
  · rw [mapContents, relayDataMembers]
    simp only [List.mapM_cons, List.mapM_nil, hfee, hpriority, hused, hworker, hpaymaster,
      hforwarder, hdata, hclient]
    rfl
  · -- the texts of this map are parsed in the same way
    obtain ⟨fee, hf, rfl⟩ := content_uint256_text w3 hfee
    obtain ⟨priority, hp, rfl⟩ := content_uint256_text w3 hpriority
    obtain ⟨used, hu, rfl⟩ := content_uint256_text w3 hused
    obtain ⟨worker, hw, rfl⟩ := content_address_text w3 hworker
    obtain ⟨paymaster, hm, rfl⟩ := content_address_text w3 hpaymaster
    obtain ⟨forwarder, hr, rfl⟩ := content_address_text w3 hforwarder
    obtain ⟨data, hd, rfl⟩ := content_bytes_text w3 hdata
    obtain ⟨client, hc, rfl⟩ := content_uint256_text w3 hclient
    simp [toJson, hf, hp, hu, hw, hm, hr, hd, hc, Content.argument]

theorem RelayRequest.toJson_eq {r : RelayRequest}
    (h : ∀ f ∈ fields, ∃ c, f.postedContent w3 r = some c) :
    ∃ cs ds, mapContents w3 requestMembers r.request.toMap = some cs ∧
      mapContents w3 relayDataMembers r.relayData.toMap = some ds ∧
      r.toJson w3 =
        some (.list [.list (cs.map Content.argument), .list (ds.map Content.argument)]) := by
  obtain ⟨cs, hcs, hrequest⟩ := ForwardRequest.toJson_eq fun m hm =>
    h ⟨"request", m⟩ (List.mem_append_left _ (List.mem_map_of_mem hm))
  obtain ⟨ds, hds, hrelay⟩ := RelayData.toJson_eq fun m hm =>
    h ⟨"relayData", m⟩ (List.mem_append_right _ (List.mem_map_of_mem hm))
  refine ⟨cs, ds, hcs, hds, ?_⟩
  rw [toJson, hrequest, hrelay]
  rfl

/-- **The argument of `relayCall` has the contents of the posted map.** The two lists of
`toJson` have the order of the ABI, which is what is checked here. -/
theorem argument_field {r : RelayRequest}
    (h : ∀ f ∈ fields, ∃ c, f.postedContent w3 r = some c) {f : Field} (hf : f ∈ fields)
    {c : Content} (hc : f.postedContent w3 r = some c) :
    (r.toJson w3).bind f.argument = some (.leaf f.member.name f.member.type, c.argument) := by
  obtain ⟨requestContents, relayContents, hrequest, hrelay, hjson⟩ := RelayRequest.toJson_eq h
  rw [hjson, Option.bind_some]
  obtain ⟨m, hm, rfl⟩ | ⟨m, hm, rfl⟩ := mem_fields hf
  · exact namedArgument_of_mapContents hrequest (by decide) hm hc
  · exact namedArgument_of_mapContents hrelay (by decide) hm hc

/-- The contents of a map can be encoded. -/
theorem argumentValues_of_mapContents {members : List Eip712.Member} {map : Json.Entries}
    {cs : List Content} (hcs : mapContents w3 members map = some cs) :
    argumentValues w3 (leaves members) (cs.map Content.argument) =
      some (cs.map Content.value) := by
  unfold mapContents at hcs
  induction members generalizing cs with
  | nil =>
    obtain rfl := Option.some.inj hcs
    rfl
  | cons m members ih =>
    rw [List.mapM_cons] at hcs
    simp only [Option.bind_eq_bind, Option.bind_eq_some_iff] at hcs
    obtain ⟨c, ⟨json, -, hcontent⟩, cs, hrest, h⟩ := hcs
    obtain rfl := Option.some.inj h
    have htype := type_of_content hcontent
    -- a content is an atom, and its argument a leaf
    have htuple : m.type ≠ "tuple" := by
      rw [← htype]
      cases c <;> simp [Content.type]
    have hfirst : (Parameter.leaf m.name m.type).value w3 c.argument = some c.value := by
      rw [Parameter.leaf, Parameter.value, if_neg htuple, ← htype, leafValue_argument]
    have hvalues := ih hrest
    rw [leaves, List.map_cons, List.map_cons, argumentValues, hfirst]
    rw [leaves] at hvalues
    rw [hvalues]
    rfl

/-- **A request with parseable fields can be encoded** as the argument of `relayCall`: every
field has a value of the type that the ABI gives for its place. -/
theorem RelayRequest.encodes {r : RelayRequest}
    (h : ∀ f ∈ fields, ∃ c, f.postedContent w3 r = some c) :
    ∃ json v, r.toJson w3 = some json ∧
      (Parameter.mk "relayRequest" "tuple" IRelayHub.relayRequestComponents).value w3 json =
        some v := by
  obtain ⟨cs, ds, hcs, hds, hjson⟩ := RelayRequest.toJson_eq h
  refine ⟨_, .tuple [.tuple (cs.map Content.value), .tuple (ds.map Content.value)], hjson, ?_⟩
  have hrequest := argumentValues_of_mapContents hcs
  have hrelay := argumentValues_of_mapContents hds
  rw [← requestComponents_eq] at hrequest
  rw [← relayDataComponents_eq] at hrelay
  simp [Parameter.value, IRelayHub.relayRequestComponents, argumentValues, Arg.elements, hrequest,
    hrelay]

end Argument

/-! ## The signature covers the request -/

theorem signedStruct_sameType {w3 : Web3dart} {lib : EthSigUtil w3} {r r' : RelayRequest}
    {domainSeparatorName chainId : String} {config : NetworkConfig} {v v' : Eip712.Value}
    (hv : signedStruct lib r domainSeparatorName chainId config = some v)
    (hv' : signedStruct lib r' domainSeparatorName chainId config = some v') : v.SameType v' := by
  unfold signedStruct at hv hv'
  apply lib.messageStruct_sameType _ _ hv hv'
  · rfl
  · rfl

/-- **The renderings agree, and the signature covers every field.** For every request with
parseable fields: each of the fifteen fields has one content in the posted map, in the signed
struct and in the argument of `relayCall`. For any two such requests: if the hash function
does not collide on what is hashed for them, then equal signed encodings mean equal contents
of all fields. -/
theorem relay_signature_covers_request {w3 : Web3dart} (lib : EthSigUtil w3)
    (hashing : Eip712.Hashing) (r r' : RelayRequest) (domainSeparatorName chainId : String)
    (config : NetworkConfig) (hr : Parseable lib r) (hr' : Parseable lib r') :
    ∃ v v', signedStruct lib r domainSeparatorName chainId config = some v ∧
      signedStruct lib r' domainSeparatorName chainId config = some v' ∧
      (∀ f ∈ fields, ∃ c, Agrees lib r v f c) ∧
      (hashing.NoCollision (v.preimages hashing) (v'.preimages hashing) →
        v.encode hashing = v'.encode hashing →
        ∀ f ∈ fields, f.postedContent w3 r = f.postedContent w3 r') := by
  obtain ⟨v, hv⟩ := hr.signable domainSeparatorName chainId config
  obtain ⟨v', hv'⟩ := hr'.signable domainSeparatorName chainId config
  refine ⟨v, v', hv, hv', fun f hf => ?_, fun hno heq f hf => ?_⟩
  · obtain ⟨c, hc⟩ := hr.contents f hf
    exact ⟨c, hc, signed_field hv hf hc, argument_field hr.contents hf hc⟩
  · -- equal encodings bind the struct, and the struct binds the contents
    have hsame : v.SameType v' := signedStruct_sameType hv hv'
    obtain rfl := Eip712.encode_injective v v' hsame hno heq
    obtain ⟨c, hc⟩ := hr.contents f hf
    obtain ⟨c', hc'⟩ := hr'.contents f hf
    have hsigned := signed_field hv hf hc
    rw [signed_field hv' hf hc'] at hsigned
    have htype : c'.type = c.type := by
      obtain ⟨json, -, hcontent⟩ := Option.bind_eq_some_iff.mp hc
      obtain ⟨json', -, hcontent'⟩ := Option.bind_eq_some_iff.mp hc'
      rw [type_of_content hcontent, type_of_content hcontent']
    rw [hc, hc', Content.signed_injective htype (Option.some.inj hsigned)]

/-! ## Two spellings of one request -/

namespace Sample

/-- The packages with these words for negative numbers. Requests are read without keys and
hashes. -/
def w3With (place : Int → Option Abi.Word) : Web3dart :=
  Dart.Sample.web3dart (fun _ => ⟨List.replicate 20 0, rfl⟩) (fun _ => Vector.replicate 32 0) place

def libWith (place : Int → Option Abi.Word) : EthSigUtil (w3With place) :=
  Dart.Sample.ethSigUtil (w3With place) (Vector.replicate 65 0)

/-- The packages without assertions. -/
abbrev w3 : Web3dart := w3With Dart.Sample.unsignedWord

abbrev lib : EthSigUtil w3 := libWith Dart.Sample.unsignedWord

/-- The configuration of the test network Amoy. -/
def config : NetworkConfig where
  gsn := {
    paymasterAddress := "0xb570b57b821670707fF4E38Ea53fcb67192278F8"
    forwarderAddress := "0x0ae8FC9867CB4a124d7114B8bd15C4c78C4D40E5"
    relayHubAddress := "0xe213A20A9E6CBAfd8456f9669D8a0b9e41Cb2751"
    relayWorkerAddress := "0xb9950b71ec94cbb274aeb1be98e697678077a17f"
    relayUrl := "https://api.rallyprotocol.com"
    rpcUrl := "https://polygon-amoy.g.alchemy.com/v2/"
    chainId := "80002"
    maxAcceptanceBudget := "285252"
    domainSeparatorName := "GSN Relayed Transaction"
    gtxDataZero := 4
    gtxDataNonZero := 16
    requestValidSeconds := 172800
    maxPaymasterDataLength := 300
    maxApprovalDataLength := 300
    maxRelayNonceGap := 3 }
  relayerApiKey := none

/-- A request with this text as its gas. -/
def relayRequest (gas : String) : RelayRequest where
  request := {
    «from» := "0x197a1bee163923815ba58ead0f14b3fcd8c5926d"
    «to» := "0x758641a1b566998CaC5Bc5fC8032F001e1CEBeEf"
    value := "0"
    gas := gas
    nonce := "0"
    data := "0x"
    validUntilTime := "1700000000" }
  relayData := {
    maxFeePerGas := "0"
    maxPriorityFeePerGas := "0"
    transactionCalldataGasUsed := "20000"
    relayWorker := config.gsn.relayWorkerAddress
    paymaster := config.gsn.paymasterAddress
    forwarder := config.gsn.forwarderAddress
    paymasterData := "0x"
    clientId := "1" }

def word (n : Nat) : Eip712.Value := .word (BitVec.ofNat 256 n)

def signedRelayData : List Eip712.Value :=
  [word 0, word 0, word 20000, word 0xb9950b71ec94cbb274aeb1be98e697678077a17f,
    word 0xb570b57b821670707fF4E38Ea53fcb67192278F8,
    word 0x0ae8FC9867CB4a124d7114B8bd15C4c78C4D40E5, .bytes [], word 1]

def signedRequest : List Eip712.Value :=
  [word 0x197a1bee163923815ba58ead0f14b3fcd8c5926d,
    word 0x758641a1b566998CaC5Bc5fC8032F001e1CEBeEf, word 0, word 16, word 0, .bytes [],
    word 1700000000, .struct "RelayData" signedRelayData]

/-- The hashes of these structs, of the empty byte string and of the two type descriptions. -/
def hashing : Eip712.Hashing where
  keccak bs := BigEndian.ofNat 32 (
    if bs = [] then 0xc5d2460186f7233c927e7db2dcc703c0e500b653ca82273b7bfad8045d85a470
    else if bs.take 4 = [0xc5, 0xea, 0x90, 0xdd] then
      0x4a1efcb6a7e95226b5e6bf5c3a9ae679294c337671643c64670fc7837cd5cb89
    else 0x5cabf3f811f15df6d64c70d5c5138751d89ff8683fb8ed5e8fd550edf30896a7)
  length_keccak _ := BigEndian.length_ofNat _ _
  typeHash type := BigEndian.ofNat 32 (
    if type = "RelayData" then
      0xc5ea90dda9219120f9d08877180c718e673bc3e452715c45f7d7c9bd6548dacf
    else 0xf17b6c1ec6c338d6106d1123b3e60d72bf94a96d947bfc91ce7b47facaf428c0)

/-- The two spellings of the gas are read alike. -/
theorem signedStruct_relayRequest {gas : String} (hgas : gas = "16" ∨ gas = "0x10") :
    signedStruct lib (relayRequest gas) "" "" config =
      some (.struct "RelayRequest" signedRequest) := by
  rcases hgas with rfl | rfl
  · rfl
  · rfl

theorem parseable_relayRequest {gas : String} (hgas : gas = "16" ∨ gas = "0x10") :
    Parseable lib (relayRequest gas) where
  contents f hf := by
    have hsome : ∀ f ∈ fields, (f.postedContent w3 (relayRequest gas)).isSome = true := by
      rcases hgas with rfl | rfl <;> decide +kernel
    exact Option.isSome_iff_exists.mp (hsome f hf)
  signable _ _ _ := ⟨_, signedStruct_relayRequest hgas⟩

theorem preimages_signedRequest :
    (Eip712.Value.struct "RelayRequest" signedRequest).preimages hashing =
      [hashing.typeHash "RelayRequest" ++ Eip712.encodeMembers hashing signedRequest, [],
        hashing.typeHash "RelayData" ++ Eip712.encodeMembers hashing signedRelayData, []] := rfl

theorem keccak_nil : hashing.keccak [] = BigEndian.ofNat 32
    0xc5d2460186f7233c927e7db2dcc703c0e500b653ca82273b7bfad8045d85a470 := rfl

theorem keccak_relayData (bs : List UInt8) :
    hashing.keccak (hashing.typeHash "RelayData" ++ bs) = BigEndian.ofNat 32
      0x4a1efcb6a7e95226b5e6bf5c3a9ae679294c337671643c64670fc7837cd5cb89 := by
  have htype : hashing.typeHash "RelayData" = [0xc5, 0xea, 0x90, 0xdd] ++ BigEndian.ofNat 28
      0xa9219120f9d08877180c718e673bc3e452715c45f7d7c9bd6548dacf := by decide +kernel
  rw [htype]
  rfl

theorem keccak_relayRequest (bs : List UInt8) :
    hashing.keccak (hashing.typeHash "RelayRequest" ++ bs) = BigEndian.ofNat 32
      0x5cabf3f811f15df6d64c70d5c5138751d89ff8683fb8ed5e8fd550edf30896a7 := by
  have htype : hashing.typeHash "RelayRequest" = [0xf1, 0x7b, 0x6c, 0x1e] ++ BigEndian.ofNat 28
      0xc6c338d6106d1123b3e60d72bf94a96d947bfc91ce7b47facaf428c0 := by decide +kernel
  rw [htype]
  rfl

theorem noCollision_signedRequest :
    hashing.NoCollision ((Eip712.Value.struct "RelayRequest" signedRequest).preimages hashing)
      ((Eip712.Value.struct "RelayRequest" signedRequest).preimages hashing) := by
  rw [preimages_signedRequest]
  intro x hx y hy heq
  simp only [List.mem_cons, List.not_mem_nil, or_false] at hx hy
  rcases hx with rfl | rfl | rfl | rfl <;> rcases hy with rfl | rfl | rfl | rfl <;> try rfl
  all_goals
    simp only [keccak_nil, keccak_relayData, keccak_relayRequest] at heq
    exact absurd (BigEndian.ofNat_inj (by decide) (by decide) heq) (by decide)

end Sample

/-- A decimal and a hexadecimal gas are signed alike, and stand for the same gas. -/
theorem relay_signature_covers_request_spellings :
    fields.map (fun f => f.postedContent Sample.w3 (Sample.relayRequest "16")) =
      fields.map (fun f => f.postedContent Sample.w3 (Sample.relayRequest "0x10")) := by
  obtain ⟨v, v', hv, hv', -, hcovers⟩ := relay_signature_covers_request Sample.lib Sample.hashing
    (Sample.relayRequest "16") (Sample.relayRequest "0x10") "" "" Sample.config
    (Sample.parseable_relayRequest (.inl rfl)) (Sample.parseable_relayRequest (.inr rfl))
  obtain rfl := Option.some.inj ((Sample.signedStruct_relayRequest (.inl rfl)).symm.trans hv)
  obtain rfl := Option.some.inj ((Sample.signedStruct_relayRequest (.inr rfl)).symm.trans hv')
  exact List.map_congr_left (hcovers Sample.noCollision_signedRequest rfl)

end RlyNetworkSdk.Gsn
