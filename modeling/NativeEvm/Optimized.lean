import NativeEvm.Loop
import NativeEvm.Storage

/-!
# Optimized — the direct-stack-write build (`evm_optimized.cpp`)

Handlers take pointers into the stack plane and write results in place: a two-operand handler
writes into the slot of its second operand and then frees one item, so the freed top slot keeps
its old word as scratch.  This is the only build with storage handlers; its table places
`op_sload` and `op_sstore` at `0x44` and `0x45`, and stubs `0x54` and `0x55`.
-/

namespace NativeEvm

namespace Optimized

/-- The result of a failing handler, `{-1, 0}`. -/
def fail (f : Frame) : OpResult × Frame := (⟨-1, 0⟩, f)

/-! ## 1. Handler families -/

/-- The two-operand handlers: `a = stack_top(0)`, `b = stack_top(1)`, the result `op a b` is
written over `b`, then one item is freed. -/
def binaryOp (op : Word → Word → Word) (cost : Int) (f : Frame) : OpResult × Frame :=
  match stackTop f 0, stackTop f 1 with
  | some a, some b => (⟨1, cost⟩, (stackFree (f.setStack b (op (f.stack a) (f.stack b))) 1).2)
  | _, _ => fail f

/-- The one-operand handlers: the result overwrites the top item. -/
def unaryOp (op : Word → Word) (cost : Int) (f : Frame) : OpResult × Frame :=
  match stackTop f 0 with
  | some a => (⟨1, cost⟩, f.setStack a (op (f.stack a)))
  | none => fail f

/-- The handlers that push one word computed from the frame after `stack_alloc`. -/
def pushOp (value : Frame → Word) (cost : Int) (f : Frame) : OpResult × Frame :=
  match stackAlloc f with
  | some (slot, g) => (⟨1, cost⟩, g.setStack slot (value g))
  | none => fail f

/-! ## 2. Handlers -/

/-- `op_stop`. -/
def opStop (f : Frame) : OpResult × Frame := (⟨0, 0⟩, { f with state := 7 })

def opAdd : Frame → OpResult × Frame :=
  binaryOp (fun a b => u64ToWord ((wordToU64 a + wordToU64 b) % 2 ^ 64)) 3
def opMul : Frame → OpResult × Frame :=
  binaryOp (fun a b => u64ToWord (wordToU64 a * wordToU64 b % 2 ^ 64)) 5
def opSub : Frame → OpResult × Frame :=
  binaryOp (fun a b => u64ToWord ((wordToU64 a + 2 ^ 64 - wordToU64 b) % 2 ^ 64)) 3
def opDiv : Frame → OpResult × Frame :=
  binaryOp (fun a b => u64ToWord (if wordToU64 b = 0 then 0 else wordToU64 a / wordToU64 b)) 5
def opMod : Frame → OpResult × Frame :=
  binaryOp (fun a b => u64ToWord (if wordToU64 b = 0 then 0 else wordToU64 a % wordToU64 b)) 5
def opLt : Frame → OpResult × Frame :=
  binaryOp (fun a b => u64ToWord (if wordToU64 a < wordToU64 b then 1 else 0)) 3
def opGt : Frame → OpResult × Frame :=
  binaryOp (fun a b => u64ToWord (if wordToU64 a > wordToU64 b then 1 else 0)) 3
def opEq : Frame → OpResult × Frame :=
  binaryOp (fun a b => u64ToWord (if a = b then 1 else 0)) 3
def opIszero : Frame → OpResult × Frame :=
  unaryOp (fun a => u64ToWord (if isZero a then 1 else 0)) 3
def opAnd : Frame → OpResult × Frame := binaryOp (fun a b => Bytes.zipWith (· &&& ·) b a) 3
def opOr : Frame → OpResult × Frame := binaryOp (fun a b => Bytes.zipWith (· ||| ·) b a) 3
def opXor : Frame → OpResult × Frame := binaryOp (fun a b => Bytes.zipWith (· ^^^ ·) b a) 3
def opNot : Frame → OpResult × Frame := unaryOp (Bytes.map (~~~ ·)) 3

/-- `op_pop`. -/
def opPop (f : Frame) : OpResult × Frame :=
  match stackFree f 1 with
  | (true, g) => (⟨1, 2⟩, g)
  | (false, g) => fail g

/-- `op_mload`: the offset word is overwritten by the 32 memory bytes at `(uint32_t)` offset. -/
def opMload (f : Frame) : OpResult × Frame :=
  match stackTop f 0 with
  | none => fail f
  | some slot =>
    let offset := wordToU64 (f.stack slot) % 2 ^ 32
    match ensureMemory f offset 32 with
    | (false, g) => fail g
    | (true, g) =>
      (⟨1, 3⟩, g.setStack slot (g.loadWord offset))

/-- `op_mstore`: offset on top, value below it. -/
def opMstore (f : Frame) : OpResult × Frame :=
  match stackTop f 0, stackTop f 1 with
  | some o, some v =>
    let offset := wordToU64 (f.stack o) % 2 ^ 32
    match ensureMemory f offset 32 with
    | (false, g) => fail g
    | (true, g) => (⟨1, 3⟩, (stackFree (g.writeMemory offset (g.stack v).toList) 2).2)
  | _, _ => fail f

/-- `op_mstore8`: writes the value's last byte. -/
def opMstore8 (f : Frame) : OpResult × Frame :=
  match stackTop f 0, stackTop f 1 with
  | some o, some v =>
    let offset := wordToU64 (f.stack o) % 2 ^ 32
    match ensureMemory f offset 1 with
    | (false, g) => fail g
    | (true, g) => (⟨1, 3⟩, (stackFree (g.writeMemory offset [(g.stack v).get 31]) 2).2)
  | _, _ => fail f

/-- `op_sload`: the key on top is replaced by the value of `(contract, key)`, warming a present
entry; an absent one reads as zero at the cold price. -/
def opSload (f : Frame) : OpResult × Frame :=
  match stackTop f 0 with
  | none => fail f
  | some slot =>
    match Storage.find f.storage f.contract (f.stack slot) with
    | some (i, entry) =>
      (⟨1, if entry.isWarm ≠ 0 then 100 else 2100⟩,
        { f.setStack slot entry.value with storage := f.storage.set i { entry with isWarm := 1 } })
    | none => (⟨1, 2100⟩, f.setStack slot (Bytes.zero 32))

/-- The EIP-2200 price `op_sstore` charges for a present entry. -/
def sstoreGasCost (isZeroValue wasZeroOriginal wasZeroCurrent isWarm : Bool) : Int :=
  if isZeroValue then (if isWarm then 100 else 2100)
  else if wasZeroCurrent && !wasZeroOriginal then (if isWarm then 100 else 2100)
  else if wasZeroCurrent then 20000
  else (if isWarm then 100 else 2100)

/-- `op_sstore`: key on top, value below it.  Static frames halt with `ILLEGAL_STATE_CHANGE`; a
present entry is rewritten at its EIP-2200 price (refunding 4800 on a clear); an absent one is
appended with the value as current and original, or the frame halts with `INVALID_OPERATION` when
the plane is full. -/
def opSstore (f : Frame) : OpResult × Frame :=
  if f.isStatic ≠ 0 then fail (f.halt 6)
  else
    match stackTop f 0, stackTop f 1 with
    | some k, some v =>
      let key := f.stack k
      let value := f.stack v
      match Storage.find f.storage f.contract key with
      | some (i, entry) =>
        let refund : Int := if isZero value && !isZero entry.value then 4800 else 0
        (⟨1, sstoreGasCost (isZero value) (isZero entry.original) (isZero entry.value)
            (entry.isWarm ≠ 0)⟩,
          (stackFree { f with
            gasRefund := f.gasRefund + refund
            storage := f.storage.set i { entry with value := value, isWarm := 1 } } 2).2)
      | none =>
        match Storage.add f.storage f.maxStorageSlots f.contract key with
        | none => fail (f.halt 2)
        | some entries =>
          (⟨1, 20000⟩, (stackFree { f with
            storage := entries.set f.storage.length
              { Storage.newEntry f.contract key with
                  value := value, original := value, isWarm := 1 } } 2).2)
    | _, _ => fail f

/-- `op_jump`: validity is checked before the destination is popped. -/
def opJump (f : Frame) : OpResult × Frame :=
  match stackTop f 0 with
  | none => fail f
  | some d =>
    let dest := wordToU64 (f.stack d) % 2 ^ 32
    if f.validJumpDest dest then (⟨0, 8⟩, { (stackFree f 1).2 with pc := toInt32 dest })
    else fail (f.halt 3)

/-- `op_jumpi`: both operands are popped before the condition is tested. -/
def opJumpi (f : Frame) : OpResult × Frame :=
  match stackTop f 0, stackTop f 1 with
  | some d, some c =>
    let shouldJump := !isZero (f.stack c)
    let dest := wordToU64 (f.stack d) % 2 ^ 32
    let g := (stackFree f 2).2
    if shouldJump then
      if g.validJumpDest dest then (⟨0, 10⟩, { g with pc := toInt32 dest })
      else fail (g.halt 3)
    else (⟨1, 10⟩, g)
  | _, _ => fail f

def opPc : Frame → OpResult × Frame := pushOp (fun g => u64ToWord (toU64 g.pc)) 2
def opGas : Frame → OpResult × Frame := pushOp (fun g => u64ToWord (toU64 g.gasRemaining)) 2

/-- `op_jumpdest`. -/
def opJumpdest (f : Frame) : OpResult × Frame := (⟨1, 1⟩, f)

def opPush0 : Frame → OpResult × Frame := pushOp (fun _ => Bytes.zero 32) 2

/-- `op_push_n`: the pushed word is built after `stack_alloc`; `pc` advances by `1 + n`. -/
def opPushN (f : Frame) (n : Nat) : OpResult × Frame :=
  match stackAlloc f with
  | some (slot, g) => (⟨1 + n, 3⟩, g.setStack slot (g.pushWord n))
  | none => fail f

/-- `op_dup_n`: copy the item `n - 1` below the top into a freshly allocated slot. -/
def opDupN (f : Frame) (n : Nat) : OpResult × Frame :=
  match stackTop f (n - 1) with
  | none => fail f
  | some source =>
    match stackAlloc f with
    | none => fail f
    | some (slot, g) => (⟨1, 3⟩, g.setStack slot (g.stack source))

/-- `op_swap_n`: exchange the top with the item `n` below it through a temporary. -/
def opSwapN (f : Frame) (n : Nat) : OpResult × Frame :=
  match stackTop f 0, stackTop f n with
  | some top, some other =>
    let temp := f.stack top
    (⟨1, 3⟩, (f.setStack top (f.stack other)).setStack other temp)
  | _, _ => fail f

/-- `op_stub`: every unassigned opcode costs 3 and does nothing. -/
def opStub (f : Frame) : OpResult × Frame := (⟨1, 3⟩, f)

/-- `op_invalid`. -/
def opInvalid (f : Frame) : OpResult × Frame := fail (f.halt 2)

/-! ## 3. The handler table -/

/-- The handlers `JUMP_TABLE` points to, `op_<name>` as `<name>`; `push n`, `dup n` and `swap n`
stand for the wrappers `op_push<n>`, `op_dup<n>` and `op_swap<n>`. -/
inductive Handler where
  | stop | add | mul | sub | div | mod | lt | gt | eq | iszero
  | and | or | xor | not | pop | mload | mstore | mstore8 | sload | sstore
  | jump | jumpi | pc | gas | jumpdest | push0
  | push (n : Nat) | dup (n : Nat) | swap (n : Nat) | stub | invalid
  deriving DecidableEq

/-- Calling a table entry. -/
def Handler.exec : Handler → Frame → OpResult × Frame
  | .stop => opStop | .add => opAdd | .mul => opMul | .sub => opSub | .div => opDiv
  | .mod => opMod | .lt => opLt | .gt => opGt | .eq => opEq | .iszero => opIszero
  | .and => opAnd | .or => opOr | .xor => opXor | .not => opNot | .pop => opPop
  | .mload => opMload | .mstore => opMstore | .mstore8 => opMstore8
  | .sload => opSload | .sstore => opSstore | .jump => opJump | .jumpi => opJumpi
  | .pc => opPc | .gas => opGas | .jumpdest => opJumpdest | .push0 => opPush0
  | .push n => fun f => opPushN f n | .dup n => fun f => opDupN f n
  | .swap n => fun f => opSwapN f n | .stub => opStub | .invalid => opInvalid

/-- `JUMP_TABLE`, in the source's rows of eight. -/
def jumpTable : List Handler := List.flatten
  [[.stop, .add, .mul, .sub, .div, .stub, .mod, .stub],
   [.stub, .stub, .stub, .stub, .stub, .stub, .stub, .stub],
   [.lt, .gt, .stub, .stub, .eq, .iszero, .and, .or],
   [.xor, .not, .stub, .stub, .stub, .stub, .stub, .stub],
   [.stub, .stub, .stub, .stub, .stub, .stub, .stub, .stub],
   [.stub, .stub, .stub, .stub, .stub, .stub, .stub, .stub],
   [.stub, .stub, .stub, .stub, .stub, .stub, .stub, .stub],
   [.stub, .stub, .stub, .stub, .stub, .stub, .stub, .stub],
   [.stub, .stub, .stub, .stub, .sload, .sstore, .stub, .stub],
   [.stub, .stub, .stub, .stub, .stub, .stub, .stub, .stub],
   [.pop, .mload, .mstore, .mstore8, .stub, .stub, .jump, .jumpi],
   [.pc, .stub, .gas, .jumpdest, .stub, .stub, .stub, .push0],
   [.push 1, .push 2, .push 3, .push 4, .push 5, .push 6, .push 7, .push 8],
   [.push 9, .push 10, .push 11, .push 12, .push 13, .push 14, .push 15, .push 16],
   [.push 17, .push 18, .push 19, .push 20, .push 21, .push 22, .push 23, .push 24],
   [.push 25, .push 26, .push 27, .push 28, .push 29, .push 30, .push 31, .push 32],
   [.dup 1, .dup 2, .dup 3, .dup 4, .dup 5, .dup 6, .dup 7, .dup 8],
   [.dup 9, .dup 10, .dup 11, .dup 12, .dup 13, .dup 14, .dup 15, .dup 16],
   [.swap 1, .swap 2, .swap 3, .swap 4, .swap 5, .swap 6, .swap 7, .swap 8],
   [.swap 9, .swap 10, .swap 11, .swap 12, .swap 13, .swap 14, .swap 15, .swap 16],
   [.stub, .stub, .stub, .stub, .stub, .stub, .stub, .stub],
   [.stub, .stub, .stub, .stub, .stub, .stub, .stub, .stub],
   [.stub, .stub, .stub, .stub, .stub, .stub, .stub, .stub],
   [.stub, .stub, .stub, .stub, .stub, .stub, .stub, .stub],
   [.stub, .stub, .stub, .stub, .stub, .stub, .stub, .stub],
   [.stub, .stub, .stub, .stub, .stub, .stub, .stub, .stub],
   [.stub, .stub, .stub, .stub, .stub, .stub, .stub, .stub],
   [.stub, .stub, .stub, .stub, .stub, .stub, .stub, .stub],
   [.stub, .stub, .stub, .stub, .stub, .stub, .stub, .stub],
   [.stub, .stub, .stub, .stub, .stub, .stub, .stub, .stub],
   [.stub, .stub, .stub, .stub, .stub, .stub, .stub, .stub],
   [.stub, .stub, .stub, .stub, .stub, .invalid, .invalid, .invalid]]

/-- `JUMP_TABLE[opcode](&ctx)`. -/
def dispatch (opcode : UInt8) : Frame → OpResult × Frame :=
  (jumpTable.getD opcode.toNat .stub).exec

/-- `execute_message` of `evm_optimized`. -/
def executeMessage (hasTracer : Bool) (frame : Frame) : Frame × List TraceEvent :=
  NativeEvm.executeMessage dispatch hasTracer frame

end Optimized

end NativeEvm
