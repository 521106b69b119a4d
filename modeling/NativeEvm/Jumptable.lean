import NativeEvm.Loop

/-!
# Jumptable — the copy-based build (`evm_jumptable.cpp`)

Handlers pop their operands into local copies, compute, and push the result.  A handler that
fails part-way keeps the pops it already made.  This build has no storage plane: `0x54` and
`0x55` are stubs, like every other unassigned opcode below `0xfd`.
-/

namespace NativeEvm

namespace Jumptable

/-- The result of a failing handler, `{-1, 0}`. -/
def fail (f : Frame) : OpResult × Frame := (⟨-1, 0⟩, f)

/-! ## 1. Handler families -/

/-- Push `result`, failing if the stack is full. -/
def pushResult (result : Word) (cost : Int) (f : Frame) : OpResult × Frame :=
  match stackPush f result with
  | (true, g) => (⟨1, cost⟩, g)
  | (false, g) => fail g

/-- The two-operand handlers: pop `a`, pop `b`, push `op a b`. -/
def binaryOp (op : Word → Word → Word) (cost : Int) (f : Frame) : OpResult × Frame :=
  match stackPop f with
  | none => fail f
  | some (a, f) =>
    match stackPop f with
    | none => fail f
    | some (b, f) => pushResult (op a b) cost f

/-- The one-operand handlers: pop `a`, push `op a`. -/
def unaryOp (op : Word → Word) (cost : Int) (f : Frame) : OpResult × Frame :=
  match stackPop f with
  | none => fail f
  | some (a, f) => pushResult (op a) cost f

/-! ## 2. Handlers -/

/-- `op_stop`. -/
def opStop (f : Frame) : OpResult × Frame := (⟨0, 0⟩, { f with state := 7 })

def opAdd : Frame → OpResult × Frame :=
  binaryOp (fun a b => u64ToWord ((wordToU64 a + wordToU64 b) % 2 ^ 64)) 3
def opMul : Frame → OpResult × Frame :=
  binaryOp (fun a b => u64ToWord (wordToU64 a * wordToU64 b % 2 ^ 64)) 5
def opSub : Frame → OpResult × Frame :=
  binaryOp (fun a b => u64ToWord ((wordToU64 a + 2 ^ 64 - wordToU64 b) % 2 ^ 64)) 3
def opDiv : Frame → OpResult × Frame :=
  binaryOp (fun a b => u64ToWord (if wordToU64 b = 0 then 0 else wordToU64 a / wordToU64 b)) 5
def opMod : Frame → OpResult × Frame :=
  binaryOp (fun a b => u64ToWord (if wordToU64 b = 0 then 0 else wordToU64 a % wordToU64 b)) 5
def opLt : Frame → OpResult × Frame :=
  binaryOp (fun a b => u64ToWord (if wordToU64 a < wordToU64 b then 1 else 0)) 3
def opGt : Frame → OpResult × Frame :=
  binaryOp (fun a b => u64ToWord (if wordToU64 a > wordToU64 b then 1 else 0)) 3
def opEq : Frame → OpResult × Frame :=
  binaryOp (fun a b => u64ToWord (if a = b then 1 else 0)) 3
def opIszero : Frame → OpResult × Frame :=
  unaryOp (fun a => u64ToWord (if isZero a then 1 else 0)) 3
def opAnd : Frame → OpResult × Frame := binaryOp (Bytes.zipWith (· &&& ·)) 3
def opOr : Frame → OpResult × Frame := binaryOp (Bytes.zipWith (· ||| ·)) 3
def opXor : Frame → OpResult × Frame := binaryOp (Bytes.zipWith (· ^^^ ·)) 3
def opNot : Frame → OpResult × Frame := unaryOp (Bytes.map (~~~ ·)) 3

/-- `op_pop`. -/
def opPop (f : Frame) : OpResult × Frame :=
  match stackPop f with
  | some (_, g) => (⟨1, 2⟩, g)
  | none => fail f

/-- `op_mload`: pop the offset, grow memory, push the 32 bytes at `(uint32_t)` offset. -/
def opMload (f : Frame) : OpResult × Frame :=
  match stackPop f with
  | none => fail f
  | some (offsetWord, f) =>
    let offset := wordToU64 offsetWord % 2 ^ 32
    match ensureMemory f offset 32 with
    | (false, g) => fail g
    | (true, g) => pushResult (g.loadWord offset) 3 g

/-- `op_mstore`: pop the offset, pop the value, grow memory, write 32 bytes. -/
def opMstore (f : Frame) : OpResult × Frame :=
  match stackPop f with
  | none => fail f
  | some (offsetWord, f) =>
    match stackPop f with
    | none => fail f
    | some (value, f) =>
      let offset := wordToU64 offsetWord % 2 ^ 32
      match ensureMemory f offset 32 with
      | (false, g) => fail g
      | (true, g) => (⟨1, 3⟩, g.writeMemory offset value.toList)

/-- `op_mstore8`: as `op_mstore`, writing the value's last byte. -/
def opMstore8 (f : Frame) : OpResult × Frame :=
  match stackPop f with
  | none => fail f
  | some (offsetWord, f) =>
    match stackPop f with
    | none => fail f
    | some (value, f) =>
      let offset := wordToU64 offsetWord % 2 ^ 32
      match ensureMemory f offset 1 with
      | (false, g) => fail g
      | (true, g) => (⟨1, 3⟩, g.writeMemory offset [value.get 31])

/-- `op_jump`: the destination is popped before it is checked. -/
def opJump (f : Frame) : OpResult × Frame :=
  match stackPop f with
  | none => fail f
  | some (destWord, f) =>
    let dest := wordToU64 destWord % 2 ^ 32
    if f.validJumpDest dest then (⟨0, 8⟩, { f with pc := toInt32 dest })
    else fail (f.halt 3)

/-- `op_jumpi`: pop the destination, pop the condition, jump if it is nonzero. -/
def opJumpi (f : Frame) : OpResult × Frame :=
  match stackPop f with
  | none => fail f
  | some (destWord, f) =>
    match stackPop f with
    | none => fail f
    | some (condWord, f) =>
      if !isZero condWord then
        let dest := wordToU64 destWord % 2 ^ 32
        if f.validJumpDest dest then (⟨0, 10⟩, { f with pc := toInt32 dest })
        else fail (f.halt 3)
      else (⟨1, 10⟩, f)

/-- `op_pc`. -/
def opPc (f : Frame) : OpResult × Frame := pushResult (u64ToWord (toU64 f.pc)) 2 f

/-- `op_gas`. -/
def opGas (f : Frame) : OpResult × Frame := pushResult (u64ToWord (toU64 f.gasRemaining)) 2 f

/-- `op_jumpdest`. -/
def opJumpdest (f : Frame) : OpResult × Frame := (⟨1, 1⟩, f)

/-- `op_push0`. -/
def opPush0 (f : Frame) : OpResult × Frame := pushResult (Bytes.zero 32) 2 f

/-- `op_push_n`: the word is built before the push; `pc` advances by `1 + n`. -/
def opPushN (f : Frame) (n : Nat) : OpResult × Frame :=
  match stackPush f (f.pushWord n) with
  | (true, g) => (⟨1 + n, 3⟩, g)
  | (false, g) => fail g

/-- `op_dup_n`: push a copy of the item `n - 1` below the top. -/
def opDupN (f : Frame) (n : Nat) : OpResult × Frame :=
  match stackPeek f (n - 1) with
  | none => fail f
  | some item => pushResult (f.stack item) 3 f

/-- `op_swap_n`: exchange the top with the item `n` below it through a temporary. -/
def opSwapN (f : Frame) (n : Nat) : OpResult × Frame :=
  match stackPeek f 0, stackPeek f n with
  | some top, some other =>
    let temp := f.stack top
    (⟨1, 3⟩, (f.setStack top (f.stack other)).setStack other temp)
  | _, _ => fail f

/-- `op_invalid`. -/
def opInvalid (f : Frame) : OpResult × Frame := fail (f.halt 2)

/-- `op_stub`. -/
def opStub (f : Frame) : OpResult × Frame := (⟨1, 3⟩, f)

/-! ## 3. The handler table -/

/-- The handlers `JUMP_TABLE` points to, `op_<name>` as `<name>`; `push n`, `dup n` and `swap n`
stand for the wrappers `op_push<n>`, `op_dup<n>` and `op_swap<n>`. -/
inductive Handler where
  | stop | add | mul | sub | div | mod | lt | gt | eq | iszero
  | and | or | xor | not | pop | mload | mstore | mstore8
  | jump | jumpi | pc | gas | jumpdest | push0
  | push (n : Nat) | dup (n : Nat) | swap (n : Nat) | stub | invalid
  deriving DecidableEq

/-- Calling a table entry. -/
def Handler.exec : Handler → Frame → OpResult × Frame
  | .stop => opStop | .add => opAdd | .mul => opMul | .sub => opSub | .div => opDiv
  | .mod => opMod | .lt => opLt | .gt => opGt | .eq => opEq | .iszero => opIszero
  | .and => opAnd | .or => opOr | .xor => opXor | .not => opNot | .pop => opPop
  | .mload => opMload | .mstore => opMstore | .mstore8 => opMstore8
  | .jump => opJump | .jumpi => opJumpi
  | .pc => opPc | .gas => opGas | .jumpdest => opJumpdest | .push0 => opPush0
  | .push n => fun f => opPushN f n | .dup n => fun f => opDupN f n
  | .swap n => fun f => opSwapN f n | .stub => opStub | .invalid => opInvalid

/-- `JUMP_TABLE`, in the source's rows of eight. -/
def jumpTable : List Handler := List.flatten
  [[.stop, .add, .mul, .sub, .div, .stub, .mod, .stub],
   [.stub, .stub, .stub, .stub, .stub, .stub, .stub, .stub],
   [.lt, .gt, .stub, .stub, .eq, .iszero, .and, .or],
   [.xor, .not, .stub, .stub, .stub, .stub, .stub, .stub],
   [.stub, .stub, .stub, .stub, .stub, .stub, .stub, .stub],
   [.stub, .stub, .stub, .stub, .stub, .stub, .stub, .stub],
   [.stub, .stub, .stub, .stub, .stub, .stub, .stub, .stub],
   [.stub, .stub, .stub, .stub, .stub, .stub, .stub, .stub],
   [.stub, .stub, .stub, .stub, .stub, .stub, .stub, .stub],
   [.stub, .stub, .stub, .stub, .stub, .stub, .stub, .stub],
   [.pop, .mload, .mstore, .mstore8, .stub, .stub, .jump, .jumpi],
   [.pc, .stub, .gas, .jumpdest, .stub, .stub, .stub, .push0],
   [.push 1, .push 2, .push 3, .push 4, .push 5, .push 6, .push 7, .push 8],
   [.push 9, .push 10, .push 11, .push 12, .push 13, .push 14, .push 15, .push 16],
   [.push 17, .push 18, .push 19, .push 20, .push 21, .push 22, .push 23, .push 24],
   [.push 25, .push 26, .push 27, .push 28, .push 29, .push 30, .push 31, .push 32],
   [.dup 1, .dup 2, .dup 3, .dup 4, .dup 5, .dup 6, .dup 7, .dup 8],
   [.dup 9, .dup 10, .dup 11, .dup 12, .dup 13, .dup 14, .dup 15, .dup 16],
   [.swap 1, .swap 2, .swap 3, .swap 4, .swap 5, .swap 6, .swap 7, .swap 8],
   [.swap 9, .swap 10, .swap 11, .swap 12, .swap 13, .swap 14, .swap 15, .swap 16],
   [.stub, .stub, .stub, .stub, .stub, .stub, .stub, .stub],
   [.stub, .stub, .stub, .stub, .stub, .stub, .stub, .stub],
   [.stub, .stub, .stub, .stub, .stub, .stub, .stub, .stub],
   [.stub, .stub, .stub, .stub, .stub, .stub, .stub, .stub],
   [.stub, .stub, .stub, .stub, .stub, .stub, .stub, .stub],
   [.stub, .stub, .stub, .stub, .stub, .stub, .stub, .stub],
   [.stub, .stub, .stub, .stub, .stub, .stub, .stub, .stub],
   [.stub, .stub, .stub, .stub, .stub, .stub, .stub, .stub],
   [.stub, .stub, .stub, .stub, .stub, .stub, .stub, .stub],
   [.stub, .stub, .stub, .stub, .stub, .stub, .stub, .stub],
   [.stub, .stub, .stub, .stub, .stub, .stub, .stub, .stub],
   [.stub, .stub, .stub, .stub, .stub, .invalid, .invalid, .invalid]]

/-- `JUMP_TABLE[opcode](&ctx)`. -/
def dispatch (opcode : UInt8) : Frame → OpResult × Frame :=
  (jumpTable.getD opcode.toNat .stub).exec

/-- `execute_message` of `evm_jumptable`. -/
def executeMessage (hasTracer : Bool) (frame : Frame) : Frame × List TraceEvent :=
  NativeEvm.executeMessage dispatch hasTracer frame

end Jumptable

end NativeEvm
