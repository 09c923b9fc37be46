import Gtos.Core.StateDB
import Gtos.Common.Hex
import Gtos.Lib.Framing
import Gtos.Capability.Storage

/-! # The LVM's storage slots and the primitives that use them (`core/vm/lvm.go`)

A Lua contract keeps its storage in its own account, at slots that Keccak-256 derives from a tag
and the names the contract gives:

* **`storageSlot`** (read by `tos.sload`, written by `tos.sstore`, and the flag of
  `tos.oncreate`), **`strLenSlot`**, **`arrLenSlot`**, the bases of **`mapSlot`** and
  **`mapStrLenSlot`**, **`structSlot`** (`tos.struct`) and **`escrowSlot`** hash a tag followed
  by the names. `SlotName` lists them. The tags are not prefixes of one another and the names are
  read back from what follows the tag, so two different names never hash the same bytes
  (`SlotName.preimage_inj`), as long as struct and field names hold no NUL byte;
* **`strChunkSlot`**, **`arrElemSlot`** and the keys of a mapping hash a slot's word followed by
  an index, or a key's hash followed by the slot so far. A string's chunk index is cut to
  32 bits first (`strChunkSlot_add_two_pow`).

The flag of `tos.oncreate` is `storageSlot "__oncreate__"`, which `tos.sstore` writes for that
key as for any other: storing nil there clears the flag (`sstore_clears_oncreate_flag`), and the
next `tos.oncreate` runs its function again (`oncreate_runs_twice`).

Gas is left out: each primitive charges it first and raises when the budget is spent. -/

namespace Gtos.Lvm

open Gtos.Core

section Slots

variable (keccak256 : List UInt8 → Hash)

/-- `StorageSlot(key)`. -/
def storageSlot (key : List UInt8) : Hash :=
  keccak256 (Text.utf8 "gtos.lua.storage." ++ key)

/-- `StrLenSlot(key)`: the slot of a stored string's length. -/
def strLenSlot (key : List UInt8) : Hash :=
  keccak256 (Text.utf8 "gtos.lua.str." ++ key)

/-- `StrChunkSlot(base, i)`: the slot of a string's chunk `i`, which the code writes as
`uint32(i)`. -/
def strChunkSlot (base : Hash) (i : ℤ) : Hash :=
  keccak256 (wordBytes base ++ Bytes.toBytesBE (i % 2 ^ 32).toNat 4)

/-- `ArrLenSlot(key)`: the slot of an array's length. -/
def arrLenSlot (key : List UInt8) : Hash :=
  keccak256 (Text.utf8 "gtos.lua.arr." ++ key)

/-- `ArrElemSlot(base, i)`. -/
def arrElemSlot (base : Hash) (i : UInt64) : Hash :=
  keccak256 (wordBytes base ++ Bytes.toBytesBE i.toNat 8)

/-- The loop of `MapSlot` and `MapStrLenSlot`: each key's hash followed by the slot so far. -/
def mapChain (h : Hash) (keys : List (List UInt8)) : Hash :=
  keys.foldl (fun h key => keccak256 (wordBytes (keccak256 key) ++ wordBytes h)) h

/-- `MapSlot(mapName, keys)`. -/
def mapSlot (mapName : List UInt8) (keys : List (List UInt8)) : Hash :=
  mapChain keccak256 (keccak256 (Text.utf8 "gtos.lua.map." ++ mapName)) keys

/-- `MapStrLenSlot(mapName, keys)`. -/
def mapStrLenSlot (mapName : List UInt8) (keys : List (List UInt8)) : Hash :=
  mapChain keccak256 (keccak256 (Text.utf8 "gtos.lua.mapstr." ++ mapName)) keys

/-- `slotFor(key, fieldName)` of `tos.struct`, for the struct `structName`. -/
def structSlot (structName key fieldName : List UInt8) : Hash :=
  keccak256 (Text.utf8 "gtos.lua.struct." ++ structName ++ [0] ++ key ++ [0] ++ fieldName)

/-- `escrowSlot(agentAddr, purpose)` of the contract `contractAddr`. -/
def escrowSlot (contractAddr agentAddr : Address) (purpose : UInt8) : Hash :=
  keccak256 (Text.utf8 "tol.escrow." ++ wordBytes contractAddr ++ wordBytes agentAddr ++ [purpose])

/-- A chunk index and the same index plus `2 ^ 32` name the same chunk. -/
theorem strChunkSlot_add_two_pow (base : Hash) (i : ℤ) :
    strChunkSlot keccak256 base (i + 2 ^ 32) = strChunkSlot keccak256 base i := by
  rw [strChunkSlot, strChunkSlot, Int.add_emod_right]

end Slots

/-! ## The slots hashed from a tag -/

/-- The namespaces whose slots hash a tag followed by names. -/
inductive SlotKind
  | storage
  | strLen
  | arrLen
  | mapBase
  | mapStrBase
  | structField
  | escrow
  deriving DecidableEq, Repr

/-- The tag of each namespace. -/
def SlotKind.tag : SlotKind → List UInt8
  | .storage => Text.utf8 "gtos.lua.storage."
  | .strLen => Text.utf8 "gtos.lua.str."
  | .arrLen => Text.utf8 "gtos.lua.arr."
  | .mapBase => Text.utf8 "gtos.lua.map."
  | .mapStrBase => Text.utf8 "gtos.lua.mapstr."
  | .structField => Text.utf8 "gtos.lua.struct."
  | .escrow => Text.utf8 "tol.escrow."

/-- **No tag is a prefix of another.** -/
theorem SlotKind.eq_of_tag_prefix (k k' : SlotKind) : k.tag <+: k'.tag ∨ k'.tag <+: k.tag → k = k' := by
  cases k <;> cases k' <;> decide

/-- A slot hashed from a tag: the namespace and the names the contract gives. -/
inductive SlotName
  /-- `StorageSlot(key)`. -/
  | storage (key : List UInt8)
  /-- `StrLenSlot(key)`. -/
  | strLen (key : List UInt8)
  /-- `ArrLenSlot(key)`. -/
  | arrLen (key : List UInt8)
  /-- The base of `MapSlot(mapName, _)`. -/
  | mapBase (mapName : List UInt8)
  /-- The base of `MapStrLenSlot(mapName, _)`. -/
  | mapStrBase (mapName : List UInt8)
  /-- The field `fieldName` of the instance `key` of the struct `structName`. -/
  | structField (structName key fieldName : List UInt8)
  /-- The escrow of the contract `contractAddr` for `agentAddr` and `purpose`. -/
  | escrow (contractAddr agentAddr : Address) (purpose : UInt8)
  deriving DecidableEq

namespace SlotName

/-- The namespace of a slot. -/
def kind : SlotName → SlotKind
  | .storage _ => .storage
  | .strLen _ => .strLen
  | .arrLen _ => .arrLen
  | .mapBase _ => .mapBase
  | .mapStrBase _ => .mapStrBase
  | .structField .. => .structField
  | .escrow .. => .escrow

/-- What follows the tag. -/
def fields : SlotName → List UInt8
  | .storage key | .strLen key | .arrLen key => key
  | .mapBase mapName | .mapStrBase mapName => mapName
  | .structField structName key fieldName => structName ++ 0 :: (key ++ 0 :: fieldName)
  | .escrow contractAddr agentAddr purpose => wordBytes contractAddr ++ wordBytes agentAddr ++ [purpose]

/-- The bytes the slot hashes. -/
def preimage (n : SlotName) : List UInt8 :=
  n.kind.tag ++ n.fields

/-- `tos.struct` cuts its names at NUL bytes: a struct or field name holds none. -/
def NulFree : SlotName → Prop
  | .structField structName _ fieldName => 0 ∉ structName ∧ 0 ∉ fieldName
  | _ => True

/-- A word's 32 bytes give the word back. -/
theorem wordBytes_inj {a b : Address} (h : wordBytes a = wordBytes b) : a = b := by
  have hread := congrArg Bytes.ofBytesBE h
  rw [wordBytes, wordBytes, Bytes.ofBytesBE_toBytesBE, Bytes.ofBytesBE_toBytesBE,
    Nat.mod_eq_of_lt (by simpa using a.isLt), Nat.mod_eq_of_lt (by simpa using b.isLt)] at hread
  exact BitVec.eq_of_toNat_eq hread

/-- **The names are read back from what follows the tag.** -/
theorem eq_of_fields_eq {n n' : SlotName} (hn : n.NulFree) (hn' : n'.NulFree)
    (hkind : n.kind = n'.kind) (h : n.fields = n'.fields) : n = n' := by
  cases n <;> cases n' <;> simp only [kind, reduceCtorEq] at hkind <;> simp only [fields] at h
  case storage.storage | strLen.strLen | arrLen.arrLen | mapBase.mapBase | mapStrBase.mapStrBase =>
    rw [h]
  case structField.structField structName key fieldName structName' key' fieldName' =>
    -- the struct name ends at the first NUL, the field name starts after the last
    obtain ⟨hstruct, hrest⟩ := Framing.append_cons_inj_of_notMem_left hn.1 hn'.1 h
    obtain ⟨hkey, hfield⟩ := Framing.append_cons_inj_of_notMem_right hn.2 hn'.2 hrest
    rw [hstruct, hkey, hfield]
  case escrow.escrow contractAddr agentAddr purpose contractAddr' agentAddr' purpose' =>
    -- two words of 32 bytes and the purpose byte
    have hlen : (wordBytes contractAddr ++ wordBytes agentAddr).length =
        (wordBytes contractAddr' ++ wordBytes agentAddr').length := by
      simp [wordBytes]
    obtain ⟨hwords, hpurpose⟩ := List.append_inj h hlen
    obtain ⟨hcontract, hagent⟩ := List.append_inj hwords (by simp [wordBytes])
    rw [wordBytes_inj hcontract, wordBytes_inj hagent, List.singleton_inj.mp hpurpose]

/-- **Different names hash different bytes**: the slots of two names can only meet by a
collision of Keccak-256. -/
theorem preimage_inj {n n' : SlotName} (hn : n.NulFree) (hn' : n'.NulFree)
    (h : n.preimage = n'.preimage) : n = n' := by
  obtain ⟨htag, hfields⟩ := Framing.eq_of_append_eq
    (fun hp => congrArg SlotKind.tag (SlotKind.eq_of_tag_prefix _ _ hp)) h
  have hkind : n.kind = n'.kind := SlotKind.eq_of_tag_prefix _ _ (.inl (htag ▸ List.prefix_refl _))
  exact eq_of_fields_eq hn hn' hkind hfields

end SlotName

section Named

variable (keccak256 : List UInt8 → Hash)

/-- Each slot hashed from a tag is the hash of its name's bytes. -/
theorem storageSlot_eq (key : List UInt8) :
    storageSlot keccak256 key = keccak256 (SlotName.storage key).preimage := rfl

theorem strLenSlot_eq (key : List UInt8) :
    strLenSlot keccak256 key = keccak256 (SlotName.strLen key).preimage := rfl

theorem arrLenSlot_eq (key : List UInt8) :
    arrLenSlot keccak256 key = keccak256 (SlotName.arrLen key).preimage := rfl

theorem mapSlot_eq (mapName : List UInt8) (keys : List (List UInt8)) :
    mapSlot keccak256 mapName keys =
      mapChain keccak256 (keccak256 (SlotName.mapBase mapName).preimage) keys := rfl

theorem mapStrLenSlot_eq (mapName : List UInt8) (keys : List (List UInt8)) :
    mapStrLenSlot keccak256 mapName keys =
      mapChain keccak256 (keccak256 (SlotName.mapStrBase mapName).preimage) keys := rfl

theorem structSlot_eq (structName key fieldName : List UInt8) :
    structSlot keccak256 structName key fieldName =
      keccak256 (SlotName.structField structName key fieldName).preimage := by
  simp [structSlot, SlotName.preimage, SlotName.kind, SlotName.fields, SlotKind.tag]

theorem escrowSlot_eq (contractAddr agentAddr : Address) (purpose : UInt8) :
    escrowSlot keccak256 contractAddr agentAddr purpose =
      keccak256 (SlotName.escrow contractAddr agentAddr purpose).preimage := by
  simp [escrowSlot, SlotName.preimage, SlotName.kind, SlotName.fields, SlotKind.tag]

end Named

/-! ## `tos.sload`, `tos.sstore` and `tos.oncreate` -/

/-- The Lua values `tos.sstore` tells apart. -/
inductive LValue
  /-- `lua.LUint256`. -/
  | uint256 (n : BitVec 256)
  /-- `lua.LBool`. -/
  | bool (b : Bool)
  /-- `lua.LString`. -/
  | string (v : String)
  /-- `lua.LNil`. -/
  | nil
  /-- Any other value, with its Go type. -/
  | other (goType : String)
  deriving DecidableEq, Repr

/-- How a host primitive ends when it does not return: a Lua error raised with its message, or a
Go panic, which the interpreter turns into an error too. -/
inductive HostError
  | raise (msg : String)
  | panic
  deriving DecidableEq, Repr

/-- The word `tos.sstore` stores for a value. A hexadecimal text longer than a word, and a
decimal text above `2 ^ 256 - 1` (`FillBytes`), make the code panic. The message of a decimal text
that is not a number quotes it as `%q` does a text without quotes or escapes. -/
def sstoreWord : LValue → Except HostError Hash
  | .uint256 n => .ok n
  | .bool b => .ok (if b then 1 else 0)
  | .string v =>
    let s := Text.trimSpace v.toList
    if has0xPrefix s then
      let b := fromHex (String.ofList s)
      if b.length ≤ 32 then .ok (bytesToHash b) else .error .panic
    else
      match Decimal.parseInt s with
      | some n =>
        if n < 0 then .error (.raise ("tos.sstore: invalid decimal value \"" ++ String.ofList s ++ "\""))
        else if n.toNat < 2 ^ 256 then .ok (BitVec.ofNat 256 n.toNat) else .error .panic
      | none => .error (.raise ("tos.sstore: invalid decimal value \"" ++ String.ofList s ++ "\""))
  | .nil => .ok 0
  | .other goType => .error (.raise ("tos.sstore: unsupported value type " ++ goType))

section Primitives

variable (keccak256 : List UInt8 → Hash)

/-- `tos.sload(key)`: the word at the key's slot, nil when it is zero. -/
def sload (s : StateDB) (contractAddr : Address) (key : List UInt8) : Option Hash :=
  let val := s.storage contractAddr (storageSlot keccak256 key)
  if val = 0 then none else some val

/-- `tos.sstore(key, value)`. -/
def sstore (readonly : Bool) (s : StateDB) (contractAddr : Address) (key : List UInt8)
    (v : LValue) : Except HostError StateDB := do
  if readonly then throw (.raise "tos.sstore: state modification not allowed in staticcall")
  let slot ← sstoreWord v
  pure (VmStateDB.setState s contractAddr (storageSlot keccak256 key) slot)

/-- The key of the flag of `tos.oncreate`. -/
def oncreateKey : List UInt8 :=
  Text.utf8 "__oncreate__"

/-- `tos.oncreate(fn)`: when the flag is clear, set it and run `fn` in protected mode; when `fn`
fails, clear the flag and raise its error. What `fn` wrote before it failed stays, as it does in
the code. -/
def oncreate (readonly : Bool) (s : StateDB) (contractAddr : Address)
    (fn : StateDB → StateDB × Option HostError) : StateDB × Option HostError :=
  if readonly then (s, some (.raise "tos.oncreate: state modification not allowed in staticcall"))
  else
    let initSlot := storageSlot keccak256 oncreateKey
    if s.storage contractAddr initSlot ≠ 0 then (s, none)
    else
      match fn (VmStateDB.setState s contractAddr initSlot 1) with
      | (s', none) => (s', none)
      | (s', some e) => (VmStateDB.setState s' contractAddr initSlot 0, some e)

/-- A set flag keeps `tos.oncreate` from running its function. -/
theorem oncreate_of_flag (s : StateDB) (contractAddr : Address)
    (fn : StateDB → StateDB × Option HostError)
    (hflag : s.storage contractAddr (storageSlot keccak256 oncreateKey) ≠ 0) :
    oncreate keccak256 false s contractAddr fn = (s, none) := by
  simp only [oncreate, Bool.false_eq_true, ↓reduceIte, hflag, ne_eq, not_false_eq_true]

/-- **`tos.sstore` clears the flag.** Storing nil under `__oncreate__` is a plain write of zero
to the flag's slot. -/
theorem sstore_clears_oncreate_flag (s : StateDB) (contractAddr : Address) :
    ∃ s', sstore keccak256 false s contractAddr oncreateKey .nil = .ok s' ∧
      s'.storage contractAddr (storageSlot keccak256 oncreateKey) = 0 :=
  ⟨_, rfl, by simp⟩

end Primitives

/-! ## An initializer that runs twice -/

/-- The key `count`. -/
def countKey : List UInt8 :=
  Text.utf8 "count"

/-- The initializer `function() tos.sstore("count", (tos.sload("count") or 0) + 1) end`. -/
def countInit (keccak256 : List UInt8 → Hash) (contractAddr : Address) (s : StateDB) :
    StateDB × Option HostError :=
  let n := (sload keccak256 s contractAddr countKey).getD 0
  match sstore keccak256 false s contractAddr countKey (.uint256 (n + 1)) with
  | .ok s' => (s', none)
  | .error e => (s, some e)

theorem oncreate_runs_twice :
    ∃ s₁ s₂ s₃, oncreate Capability.capHash false StateDB.empty 1 (countInit Capability.capHash 1) =
        (s₁, none) ∧ sstore Capability.capHash false s₁ 1 oncreateKey .nil = .ok s₂ ∧
      oncreate Capability.capHash false s₂ 1 (countInit Capability.capHash 1) = (s₃, none) ∧
      sload Capability.capHash s₃ 1 countKey = some 2 := by
  refine ⟨_, _, _, Prod.ext rfl ?_, rfl, Prod.ext rfl ?_, ?_⟩ <;> decide

end Gtos.Lvm
