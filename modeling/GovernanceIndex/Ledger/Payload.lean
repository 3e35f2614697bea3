import GovernanceIndex.Codec

/-!
The records that the ledger service returns.
-/
namespace GovernanceIndex

structure Tip where
  epoch : Epoch
  absoluteSlot : Option UInt64 := none
  blockTime : Option Int64 := none
  deriving DecidableEq, Repr

structure ListedDelegate where
  delegate : DelegateId
  registered : Bool := false
  deriving DecidableEq, Repr

structure DelegateInfo where
  delegate : DelegateId
  registered : Bool := false
  active : Bool := false
  deriving DecidableEq, Repr

structure DelegatePower where
  delegate : DelegateId
  epoch : Epoch
  amount : Amount
  deriving DecidableEq, Repr

structure SupplyTotals where
  epoch : Epoch
  circulation : Option Amount := none
  treasury : Option Amount := none
  deriving DecidableEq, Repr

structure DelegationTotal where
  epoch : Epoch
  amount : Option Amount := none
  deriving DecidableEq, Repr

structure PoolPower where
  pool : String
  epoch : Epoch
  amount : Amount
  deriving DecidableEq, Repr

structure Delegator where
  address : StakeAddress
  amount : Amount
  deriving DecidableEq, Repr

structure DelegationUpdate where
  delegate : DelegateId
  epoch : Epoch
  epochSlot : UInt64 := 0
  absoluteSlot : UInt64 := 0
  blockTime : Int64 := 0
  deriving DecidableEq, Repr

structure DelegationHistory where
  address : StakeAddress
  updates : List DelegationUpdate := []
  deriving DecidableEq, Repr

/-- Chain order: by epoch, then slot within the epoch, then absolute slot, then block time. -/
def DelegationUpdate.le (a b : DelegationUpdate) : Bool :=
  if a.epoch ≠ b.epoch then decide (a.epoch.toNat ≤ b.epoch.toNat)
  else if a.epochSlot ≠ b.epochSlot then decide (a.epochSlot.toNat ≤ b.epochSlot.toNat)
  else if a.absoluteSlot ≠ b.absoluteSlot then decide (a.absoluteSlot.toNat ≤ b.absoluteSlot.toNat)
  else decide (a.blockTime.toInt ≤ b.blockTime.toInt)

/-- The certificates in chain order; equally placed ones keep their order. -/
def DelegationUpdate.sort (updates : List DelegationUpdate) : List DelegationUpdate :=
  updates.mergeSort le

def Json.signedWord (n : Int64) : Json := .int n.toInt

def Tip.encode (t : Tip) : Json :=
  .obj [("epoch_no", t.epoch.encode), ("abs_slot", .optional Json.word t.absoluteSlot),
    ("block_time", .optional Json.signedWord t.blockTime)]

def Tip.decode (x : Json) : Decoded Tip := do
  let f ← x.fields ["epoch_no", "abs_slot", "block_time"]
  return {
    epoch := ← f.required "epoch_no" Epoch.decode
    absoluteSlot := ← f.omittable "abs_slot" Json.decodeUInt64
    blockTime := ← f.omittable "block_time" Json.decodeInt64 }

def ListedDelegate.encode (d : ListedDelegate) : Json :=
  .obj [("drep_id", d.delegate.encode), ("registered", .bool d.registered)]

def ListedDelegate.decode (x : Json) : Decoded ListedDelegate := do
  let f ← x.fields ["drep_id", "registered"]
  return {
    delegate := ← f.required "drep_id" (Identifier.decode .delegate)
    registered := ← f.withDefault "registered" false Json.decodeBool }

def DelegateInfo.encode (d : DelegateInfo) : Json :=
  .obj [("drep_id", d.delegate.encode), ("registered", .bool d.registered),
    ("active", .bool d.active)]

def DelegateInfo.decode (x : Json) : Decoded DelegateInfo := do
  let f ← x.fields ["drep_id", "registered", "active"]
  return {
    delegate := ← f.required "drep_id" (Identifier.decode .delegate)
    registered := ← f.withDefault "registered" false Json.decodeBool
    active := ← f.withDefault "active" false Json.decodeBool }

def DelegatePower.encode (p : DelegatePower) : Json :=
  .obj [("drep_id", p.delegate.encode), ("epoch_no", p.epoch.encode),
    ("amount", Amount.encode p.amount)]

def DelegatePower.decode (x : Json) : Decoded DelegatePower := do
  let f ← x.fields ["drep_id", "epoch_no", "amount"]
  return {
    delegate := ← f.required "drep_id" (Identifier.decode .delegate)
    epoch := ← f.required "epoch_no" Epoch.decode
    amount := ← f.required "amount" Amount.decode }

def SupplyTotals.encode (t : SupplyTotals) : Json :=
  .obj [("epoch_no", t.epoch.encode), ("circulation", .optional Amount.encode t.circulation),
    ("treasury", .optional Amount.encode t.treasury)]

def SupplyTotals.decode (x : Json) : Decoded SupplyTotals := do
  let f ← x.fields ["epoch_no", "circulation", "treasury"]
  return {
    epoch := ← f.required "epoch_no" Epoch.decode
    circulation := ← f.omittable "circulation" Amount.decode
    treasury := ← f.omittable "treasury" Amount.decode }

def DelegationTotal.encode (t : DelegationTotal) : Json :=
  .obj [("epoch_no", t.epoch.encode), ("amount", .optional Amount.encode t.amount)]

def DelegationTotal.decode (x : Json) : Decoded DelegationTotal := do
  let f ← x.fields ["epoch_no", "amount"]
  return {
    epoch := ← f.required "epoch_no" Epoch.decode
    amount := ← f.omittable "amount" Amount.decode }

def PoolPower.encode (p : PoolPower) : Json :=
  .obj [("pool_id_bech32", .str p.pool), ("epoch_no", p.epoch.encode),
    ("amount", Amount.encode p.amount)]

def PoolPower.decode (x : Json) : Decoded PoolPower := do
  let f ← x.fields ["pool_id_bech32", "epoch_no", "amount"]
  return {
    pool := ← f.required "pool_id_bech32" Json.decodeText
    epoch := ← f.required "epoch_no" Epoch.decode
    amount := ← f.required "amount" Amount.decode }

def Delegator.encode (d : Delegator) : Json :=
  .obj [("stake_address", d.address.encode), ("amount", Amount.encode d.amount)]

def Delegator.decode (x : Json) : Decoded Delegator := do
  let f ← x.fields ["stake_address", "amount"]
  return {
    address := ← f.required "stake_address" (Identifier.decode .stakeAddress)
    amount := ← f.required "amount" Amount.decode }

def DelegationUpdate.encode (u : DelegationUpdate) : Json :=
  .obj [("drep_id", u.delegate.encode), ("epoch_no", u.epoch.encode),
    ("epoch_slot", .word u.epochSlot), ("absolute_slot", .word u.absoluteSlot),
    ("block_time", .signedWord u.blockTime)]

def DelegationUpdate.decode (x : Json) : Decoded DelegationUpdate := do
  let f ← x.fields ["drep_id", "epoch_no", "epoch_slot", "absolute_slot", "block_time"]
  return {
    delegate := ← f.required "drep_id" (Identifier.decode .delegate)
    epoch := ← f.required "epoch_no" Epoch.decode
    epochSlot := ← f.withDefault "epoch_slot" 0 Json.decodeUInt64
    absoluteSlot := ← f.withDefault "absolute_slot" 0 Json.decodeUInt64
    blockTime := ← f.withDefault "block_time" 0 Json.decodeInt64 }

def DelegationHistory.encode (h : DelegationHistory) : Json :=
  .obj [("stake_address", h.address.encode),
    ("delegations", Json.encodeList DelegationUpdate.encode h.updates)]

def DelegationHistory.decode (x : Json) : Decoded DelegationHistory := do
  let f ← x.fields ["stake_address", "delegations"]
  return {
    address := ← f.required "stake_address" (Identifier.decode .stakeAddress)
    updates := ← f.withDefault "delegations" [] (Json.decodeList DelegationUpdate.decode) }

end GovernanceIndex
