import NativeEvm.Loop

/-!
# Switch — the `switch` interpreter (`src/unnamed/part_002`)

The third `execute_message` decodes each opcode with a `switch` and prices every opcode at the
base cost 3, `STOP` at 0.  Its handlers return only a `pc_increment`; its stack helpers and
`ensure_memory` behave as those of `evm_jumptable` (`stackPeek`, `stackPush`, `stackPop`,
`ensureMemory`).  Where it parts from the other two builds is in how a step ends:

* a handler that halts the frame itself (`op_stub`, an unassigned opcode, a bad jump target)
  returns 0, so the step is still charged and traced;
* a handler that fails returns `-1`, and the loop reports
  `halt_reason = stack_size >= 1024 ? 4 : 5`;
* the gas check follows the charge.
-/

namespace NativeEvm

namespace Switch

/-! ## 1. Handlers -/

/-- Push `result`: `1`, or `-1` on a full stack. -/
def pushResult (result : Word) (f : Frame) : Int × Frame :=
  match stackPush f result with
  | (true, g) => (1, g)
  | (false, g) => (-1, g)

/-- The two-operand handlers: pop `a`, pop `b`, push `op a b`. -/
def binaryOp (op : Word → Word → Word) (f : Frame) : Int × Frame :=
  match stackPop f with
  | none => (-1, f)
  | some (a, f) =>
    match stackPop f with
    | none => (-1, f)
    | some (b, f) => pushResult (op a b) f

/-- The one-operand handlers: pop `a`, push `op a`. -/
def unaryOp (op : Word → Word) (f : Frame) : Int × Frame :=
  match stackPop f with
  | none => (-1, f)
  | some (a, f) => pushResult (op a) f

/-- `op_stop`. -/
def opStop (f : Frame) : Int × Frame := (0, { f with state := 7 })

def opAdd : Frame → Int × Frame :=
  binaryOp fun a b => u64ToWord ((wordToU64 a + wordToU64 b) % 2 ^ 64)
def opMul : Frame → Int × Frame :=
  binaryOp fun a b => u64ToWord (wordToU64 a * wordToU64 b % 2 ^ 64)
def opSub : Frame → Int × Frame :=
  binaryOp fun a b => u64ToWord ((wordToU64 a + 2 ^ 64 - wordToU64 b) % 2 ^ 64)
/-- `op_div`: division by zero gives the zero word. -/
def opDiv : Frame → Int × Frame :=
  binaryOp fun a b =>
    if wordToU64 b = 0 then Bytes.zero 32 else u64ToWord (wordToU64 a / wordToU64 b)
def opMod : Frame → Int × Frame :=
  binaryOp fun a b =>
    if wordToU64 b = 0 then Bytes.zero 32 else u64ToWord (wordToU64 a % wordToU64 b)
def opLt : Frame → Int × Frame :=
  binaryOp fun a b => u64ToWord (if wordToU64 a < wordToU64 b then 1 else 0)
def opGt : Frame → Int × Frame :=
  binaryOp fun a b => u64ToWord (if wordToU64 a > wordToU64 b then 1 else 0)
def opEq : Frame → Int × Frame :=
  binaryOp fun a b => u64ToWord (if a = b then 1 else 0)
def opIszero : Frame → Int × Frame :=
  unaryOp fun a => u64ToWord (if isZero a then 1 else 0)
def opAnd : Frame → Int × Frame := binaryOp (Bytes.zipWith (· &&& ·))
def opOr : Frame → Int × Frame := binaryOp (Bytes.zipWith (· ||| ·))
def opXor : Frame → Int × Frame := binaryOp (Bytes.zipWith (· ^^^ ·))
def opNot : Frame → Int × Frame := unaryOp (Bytes.map (~~~ ·))

/-- `op_pop`. -/
def opPop (f : Frame) : Int × Frame :=
  match stackPop f with
  | some (_, g) => (1, g)
  | none => (-1, f)

/-- `op_push(n)`: the word `Frame.pushWord` builds from the code; `pc` advances by `1 + n`. -/
def opPush (f : Frame) (n : Nat) : Int × Frame :=
  match stackPush f (f.pushWord n) with
  | (true, g) => (1 + n, g)
  | (false, g) => (-1, g)

/-- `op_dup(n)`: push a copy of the item `n - 1` below the top. -/
def opDup (f : Frame) (n : Nat) : Int × Frame :=
  match stackPeek f (n - 1) with
  | none => (-1, f)
  | some item => pushResult (f.stack item) f

/-- `op_swap(n)`: with at least `n + 1` items, exchange the top with the item `n` below it. -/
def opSwap (f : Frame) (n : Nat) : Int × Frame :=
  if f.stackSize < n + 1 then (-1, f)
  else
    let top := f.stackSize - 1
    let target := f.stackSize - 1 - n
    let temp := f.stack top
    (1, (f.setStack top (f.stack target)).setStack target temp)

/-- The jump both jump handlers make to `dest`, all 64 low bits of the popped word: past the
code it halts with 7 (`OUT_OF_BOUNDS`), at a byte other than `JUMPDEST` with 6; otherwise it
sets `pc`.  It returns 0 in every case. -/
def jumpTo (f : Frame) (dest : Nat) : Int × Frame :=
  if f.codeSize.toNat ≤ dest then (0, f.halt 7)
  else if f.codeAt dest ≠ 0x5b then (0, f.halt 6)
  else (0, { f with pc := toInt32 dest })

/-- `op_jump`. -/
def opJump (f : Frame) : Int × Frame :=
  match stackPop f with
  | none => (-1, f)
  | some (dest, f) => jumpTo f (wordToU64 dest)

/-- `op_jumpi`: pop the destination, pop the condition, jump if it is nonzero. -/
def opJumpi (f : Frame) : Int × Frame :=
  match stackPop f with
  | none => (-1, f)
  | some (dest, f) =>
    match stackPop f with
    | none => (-1, f)
    | some (condition, f) => if !isZero condition then jumpTo f (wordToU64 dest) else (1, f)

/-- `op_pc`. -/
def opPc (f : Frame) : Int × Frame := pushResult (u64ToWord (toU64 f.pc)) f

/-- `op_mload`: pop the offset, grow memory, push the 32 bytes at `(uint32_t)` offset. -/
def opMload (f : Frame) : Int × Frame :=
  match stackPop f with
  | none => (-1, f)
  | some (offsetWord, f) =>
    let offset := wordToU64 offsetWord % 2 ^ 32
    match ensureMemory f offset 32 with
    | (false, g) => (-1, g)
    | (true, g) => pushResult (g.loadWord offset) g

/-- The two memory stores: pop the offset, pop the value, grow memory by `size` bytes at the
`(uint32_t)` offset, write `bytes value` there. -/
def storeOp (size : Nat) (bytes : Word → List UInt8) (f : Frame) : Int × Frame :=
  match stackPop f with
  | none => (-1, f)
  | some (offsetWord, f) =>
    match stackPop f with
    | none => (-1, f)
    | some (value, f) =>
      let offset := wordToU64 offsetWord % 2 ^ 32
      match ensureMemory f offset size with
      | (false, g) => (-1, g)
      | (true, g) => (1, g.writeMemory offset (bytes value))

/-- `op_mstore`: writes 32 bytes. -/
def opMstore (f : Frame) : Int × Frame := storeOp 32 Bytes.toList f

/-- `op_mstore8`: writes the value's last byte. -/
def opMstore8 (f : Frame) : Int × Frame := storeOp 1 (fun value => [value.get 31]) f

/-- `op_msize`. -/
def opMsize (f : Frame) : Int × Frame := pushResult (u64ToWord f.memorySize) f

/-- `op_gas`. -/
def opGas (f : Frame) : Int × Frame := pushResult (u64ToWord (toU64 f.gasRemaining)) f

/-- `op_stub(name)`: halts with `INVALID_OPERATION` and returns 0. -/
def opStub (f : Frame) : Int × Frame := (0, f.halt 2)

/-! ## 2. The `switch` -/

/-- What a `case` of the `switch` runs: `op_<name>` as `<name>`; `jumpdest` and `push0` are the
inline cases, `invalid` the `default`. -/
inductive Handler where
  | stop | add | mul | sub | div | mod | lt | gt | eq | iszero | and | or | xor | not
  | pop | mload | mstore | mstore8 | jump | jumpi | pc | msize | gas | jumpdest | push0
  | push (n : Nat) | dup (n : Nat) | swap (n : Nat) | stub | invalid
  deriving DecidableEq

/-- Running a case. -/
def Handler.exec : Handler → Frame → Int × Frame
  | .stop => opStop | .add => opAdd | .mul => opMul | .sub => opSub | .div => opDiv
  | .mod => opMod | .lt => opLt | .gt => opGt | .eq => opEq | .iszero => opIszero
  | .and => opAnd | .or => opOr | .xor => opXor | .not => opNot | .pop => opPop
  | .mload => opMload | .mstore => opMstore | .mstore8 => opMstore8
  | .jump => opJump | .jumpi => opJumpi | .pc => opPc | .msize => opMsize | .gas => opGas
  | .jumpdest => fun f => (1, f)
  | .push0 => pushResult (Bytes.zero 32)
  | .push n => fun f => opPush f n | .dup n => fun f => opDup f n
  | .swap n => fun f => opSwap f n
  | .stub => opStub
  | .invalid => fun f => (0, f.halt 2)

/-- The `case` labels: the case an opcode selects. -/
def handlerOf : Nat → Handler
  | 0x00 => .stop | 0x01 => .add | 0x02 => .mul | 0x03 => .sub | 0x04 => .div
  | 0x06 => .mod | 0x10 => .lt | 0x11 => .gt | 0x14 => .eq | 0x15 => .iszero
  | 0x16 => .and | 0x17 => .or | 0x18 => .xor | 0x19 => .not
  | 0x50 => .pop | 0x51 => .mload | 0x52 => .mstore | 0x53 => .mstore8
  | 0x54 => .stub | 0x55 => .stub | 0x56 => .jump | 0x57 => .jumpi
  | 0x58 => .pc | 0x59 => .msize | 0x5a => .gas | 0x5b => .jumpdest | 0x5f => .push0
  | 0x31 => .stub | 0xf0 => .stub | 0xf1 => .stub | 0xf2 => .stub | 0xf4 => .stub
  | 0xf5 => .stub | 0xfa => .stub | 0xfd => .stub | 0xff => .stub
  | n =>
    if 0x60 ≤ n ∧ n ≤ 0x7f then .push (n - 0x5f)
    else if 0x80 ≤ n ∧ n ≤ 0x8f then .dup (n - 0x7f)
    else if 0x90 ≤ n ∧ n ≤ 0x9f then .swap (n - 0x8f)
    else .invalid

/-- `gas_cost`: the base cost 3, and 0 for `STOP`. -/
def gasCost (opcode : UInt8) : Int := if opcode = 0x00 then 0 else 3

/-! ## 3. The loop -/

/-- The loop body: the 3-gas floor, `trace_pre_execution`, the `switch`, the error check with
its `stack_size >= 1024 ? 4 : 5`, the charge and the check `gas_remaining < 0`,
`trace_post_execution`, the `pc` update. -/
def loopBody (hasTracer : Bool) (f : Frame) : Iteration :=
  if f.gasRemaining < 3 then .halt (f.halt 1) []
  else
    let opcode := f.codeAt f.pc
    let (pcIncrement, g) := (handlerOf opcode.toNat).exec f
    if pcIncrement < 0 then
      .halt (g.halt (if 1024 ≤ g.stackSize then 4 else 5)) (traced hasTracer [.pre f])
    else
      let g := g.charge (gasCost opcode)
      if g.gasRemaining < 0 then .halt (g.halt 1) (traced hasTracer [.pre f])
      else
        .next (g.advance pcIncrement)
          (traced hasTracer [.pre f, .post g ⟨gasCost opcode, 0, pcIncrement⟩])

/-- `execute_message` of the `switch` interpreter, for `gas_remaining + 2` passes. -/
def executeMessage (hasTracer : Bool) (frame : Frame) : Frame × List TraceEvent :=
  runLoop (loopBody hasTracer) (frame.gasRemaining.toNat + 2) { frame with state := 1 }

end Switch

end NativeEvm
