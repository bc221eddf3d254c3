import Chip8.Proofs.Guarded.Sprite
import Chip8.Proofs.Stepping

/-!
# Guarded operations

The operations on a machine once more, through guarded accesses only: registers,
stack slots and keys by checked indices, memory and sprite rows by checked slices,
and every sum, difference and product of addresses checked, but for the sums that the
index register takes, which may wrap. A push needs no guard: it looks its slot up, and
that there is none is an answer of its own. `perform?_eq` says that no operation on any
machine goes wrong and that each comes to what the unguarded operation comes to.
-/

namespace Chip8.Guarded

open Machine

/-! ## Registers, stack, keys and digits -/

/-- The value of the register with the given number. -/
def register? (m : Machine) (x : Nat) : Option Byte := m.v.toList[x]?

/-- Put a byte into the register with the given number. -/
def setRegister? (m : Machine) (x : Nat) (b : Byte) : Option Machine :=
  if h : x < 16 then some { m with v := m.v.set x b } else none

/-- Sixteen registers with the given values. -/
def registers? (values : List Byte) : Option (Table Byte) :=
  if h : values.length = 16 then some ⟨values.toArray, h⟩ else none

/-- Take the address on top of the stack from its slot; the answer is nothing if there is none. -/
def pop? (s : CallStack) : Option (Option (Word × CallStack)) :=
  if 0 < s.depth then do
    let target ← s.slots.toList[s.depth - 1]?
    return some (target,
      { slots := s.slots, depth := s.depth - 1, depth_le := by have := s.depth_le; omega })
  else return none

/-- Whether the key is held that the low bits of a byte name. -/
def isHeld? (k : Keypad) (b : Byte) : Option Bool := k.held.toList[(b &&& 0x0F).toNat]?

/-- Press or release the key with the given number. -/
def hold? (k : Keypad) (key : Nat) (down : Bool) : Option Keypad :=
  if h : key < 16 then some ⟨k.held.set key down⟩ else none

/-- The lowest key that is held, looked for in ascending order. -/
def firstHeld? (k : Keypad) : Option (Option Key) :=
  (List.finRange 16).findM? fun key => k.held.toList[key.val]?

/-- Raise a decimal digit, which stands at the given lane, if it holds five or more. -/
def raise? (bcd : Word) (lane : Nat) : Option Word :=
  if (bcd >>> lane) &&& 0xF ≥ 5 then sum? bcd (3 <<< lane) else some bcd

/-- Shift a bit of a byte into the decimal digits. -/
def shiftIn? (value : Byte) (bcd : Word) (bit : Nat) : Option Word := do
  let bcd ← [0, 4, 8].foldlM raise? bcd
  return (bcd <<< 1) ||| ((value >>> bit) &&& 1).setWidth 16

/-- The hundreds, tens and ones of a byte. -/
def digits? (value : Byte) : Option (List Byte) := do
  let bcd ← [7, 6, 5, 4, 3, 2, 1, 0].foldlM (shiftIn? value) 0
  return [8, 4, 0].map fun lane => ((bcd >>> lane) &&& 0xF).setWidth 8

@[simp] theorem register?_eq (m : Machine) (x : Nibble) :
    register? m x.val = some (m.register x) := by
  simp [register?, Machine.register, Table.entry]

@[simp] theorem setRegister?_eq (m : Machine) (x : Nibble) (b : Byte) :
    setRegister? m x.val b = some (m.setRegister x b) :=
  dif_pos x.isLt

theorem setFlag?_eq (m : Machine) (b : Byte) :
    setRegister? m 0xF b = some (m.setRegister Machine.flag b) :=
  setRegister?_eq m Machine.flag b

theorem registers?_eq {t : Table Byte} {values : List Byte} (h : t.toList = values) :
    registers? values = some t := by
  subst h
  rw [registers?, dif_pos (by simp)]
  rfl

@[simp] theorem pop?_eq (s : CallStack) : pop? s = some s.pop? := by
  have hdepth := s.depth_le
  unfold pop? CallStack.pop?
  by_cases h : 0 < s.depth
  · rw [if_pos h, dif_pos h]
    have hslot : s.slots.toList[s.depth - 1]? = some (s.slots.get ⟨s.depth - 1, by omega⟩) := by
      simp [Vector.get, show s.depth - 1 < 16 by omega]
    rw [hslot]
    rfl
  · rw [if_neg h, dif_neg h]
    rfl

@[simp] theorem isHeld?_eq (k : Keypad) (b : Byte) : isHeld? k b = some (k.isHeld b.lowNibble) := by
  have hlow : (b &&& 0x0F).toNat = b.toNat % 16 := by
    rw [BitVec.toNat_and]
    exact Nat.and_two_pow_sub_one_eq_mod b.toNat 4
  rw [isHeld?, hlow]
  simp [Keypad.isHeld, Table.entry, Nat.mod_lt]

theorem hold?_eq (k : Keypad) (key : Key) (down : Bool) :
    hold? k key.val down = some (k.set key down) :=
  dif_pos key.isLt

@[simp] theorem firstHeld?_eq (k : Keypad) : firstHeld? k = some k.first? := by
  have hfind : ∀ keys : List Key,
      (keys.findM? fun key => k.held.toList[key.val]?) = some (keys.filter k.isHeld).head? := by
    intro keys
    induction keys with
    | nil => rfl
    | cons key rest ih =>
        have hkey : k.held.toList[key.val]? = some (k.isHeld key) := by
          simp [Keypad.isHeld, Table.entry]
        simp only [List.findM?, hkey, Option.bind_eq_bind, Option.bind_some, List.filter_cons]
        cases k.isHeld key with
        | false => exact ih
        | true => rfl
  exact hfind _

@[simp] theorem digits?_eq : ∀ b, digits? b = some (Decimal.digits b) := by
  decide +kernel

/-! ## Instructions -/

/-- Put a result into a register and a flag into the flag register. -/
def setWithFlag? (m : Machine) (x : Nat) (result flagValue : Byte) : Option Machine := do
  setRegister? (← setRegister? m x result) 0xF flagValue

/-- An instruction that combines two registers to a result and a flag. -/
def combine? (m : Machine) (x y : Nat) (f : Byte → Byte → Byte × Byte) : Option Effect := do
  let (result, flagValue) := f (← register? m x) (← register? m y)
  return done (← setWithFlag? m x result flagValue)

/-- An instruction that goes on past the next one if a condition holds. -/
def skipIf? (m : Machine) (condition : Bool) : Option Effect :=
  if condition then do return done { m with pc := ← sum? m.pc 2 } else return done m

/-- Draw the sprite that the index register points at, through a buffer of fifteen rows. -/
def draw? (m : Machine) (x y rows : Nat) : Option Effect := do
  let vx ← register? m x
  let vy ← register? m y
  let m ← setRegister? m 0xF 0
  let buffer := List.replicate 15 0
  let (front, count) ← read? m.memory m.i (← slice? buffer 0 rows)
  let sprite ← slice? (front ++ buffer.drop rows) 0 count
  let (screen, collision) ← blit? m.screen vx vy sprite
  let m ← setRegister? { m with screen := screen } 0xF (if collision then 1 else 0)
  return ⟨m, .ok true, []⟩

/-- Load the registers up to the given one, through a buffer of their number. -/
def loadRegisters? (m : Machine) (x : Nat) : Option Effect := do
  let (front, _) ← read? m.memory m.i (← slice? m.v.toList 0 (x + 1))
  let values ← copyOver? m.v.toList 0 (x + 1) front
  return done { m with v := ← registers? values }

/-- Carry out one instruction fetched from `address`. -/
def execute? (m : Machine) (address : Word) : Instruction → Option Effect
  | .clearScreen => some ⟨{ m with screen := m.screen.clear }, .ok true, []⟩
  | .ret => do
    return match ← pop? m.stack with
      | some (target, stack) =>
        done { m with pc := target, stack := stack } [.returned address target]
      | none => ⟨m, .error (.stackUnderflow address), []⟩
  | .jump target => some (done { m with pc := target.setWidth 16 })
  | .call target => some (m.executeCall address target)
  | .skipIfByte x value => do skipIf? m ((← register? m x) == value)
  | .skipUnlessByte x value => do skipIf? m ((← register? m x) != value)
  | .skipIfSame x y => do skipIf? m ((← register? m x) == (← register? m y))
  | .skipIfDiffer x y => do skipIf? m ((← register? m x) != (← register? m y))
  | .loadByte x value => do return done (← setRegister? m x value)
  | .addByte x value => do return done (← setRegister? m x ((← register? m x) + value))
  | .copy x y => do return done (← setRegister? m x (← register? m y))
  | .or x y => combine? m x y fun a b => (a ||| b, 0)
  | .and x y => combine? m x y fun a b => (a &&& b, 0)
  | .xor x y => combine? m x y fun a b => (a ^^^ b, 0)
  | .add x y => combine? m x y addFlagged
  | .sub x y => combine? m x y subFlagged
  | .subFrom x y => combine? m x y fun a b => subFlagged b a
  | .shiftRight x => combine? m x x fun a _ => shiftRightFlagged a
  | .shiftLeft x => combine? m x x fun a _ => shiftLeftFlagged a
  | .setIndex target => some (done { m with i := target.setWidth 16 })
  | .jumpOffset base => do
    let offset ← register? m 0
    return done { m with pc := ← sum? (base.setWidth 16) (offset.setWidth 16) }
  | .random x mask => do
    let (byte, random) := m.random.next
    return done (← setRegister? { m with random := random } x (byte &&& mask))
  | .draw x y rows => draw? m x y rows
  | .skipIfHeld x => do skipIf? m (← isHeld? m.keys (← register? m x))
  | .skipUnlessHeld x => do skipIf? m (!(← isHeld? m.keys (← register? m x)))
  | .readDelay x => do return done (← setRegister? m x m.timers.delay)
  | .awaitKey x => do
    match ← firstHeld? m.keys with
    | some key =>
      return done (← setRegister? m x (BitVec.ofNat 8 key.val)) [.keyTaken address key]
    | none => return done { m with pc := ← difference? m.pc 2 }
  | .setDelay x => do
    let value ← register? m x
    return done { m with timers := { m.timers with delay := value } }
  | .setSound x => do
    let value ← register? m x
    return done { m with timers := { m.timers with sound := value } }
  | .addIndex x => do return done { m with i := m.i + (← register? m x).setWidth 16 }
  | .pointAtDigit x => do
    let digit := ((← register? m x) &&& 0x0F).setWidth 16
    return done { m with i := ← sum? Font.start (← product? digit 5) }
  | .storeDecimal x => do
    let (memory, _) ← write? m.memory m.i (← digits? (← register? m x))
    return done { m with memory := memory }
  | .storeRegisters x => do
    let (memory, _) ← write? m.memory m.i (← slice? m.v.toList 0 (x.val + 1))
    return done { m with memory := memory }
  | .loadRegisters x => loadRegisters? m x

@[simp] theorem setWithFlag?_eq (m : Machine) (x : Nibble) (result flagValue : Byte) :
    setWithFlag? m x.val result flagValue = some (m.setWithFlag x result flagValue) := by
  simp only [setWithFlag?, setRegister?_eq, Option.bind_eq_bind, Option.bind_some]
  exact setFlag?_eq _ flagValue

@[simp] theorem combine?_eq (m : Machine) (x y : Nibble) (f : Byte → Byte → Byte × Byte) :
    combine? m x.val y.val f =
      some (done (m.setWithFlag x (f (m.register x) (m.register y)).1
        (f (m.register x) (m.register y)).2)) := by
  simp [combine?]

/-- A skip stays within the words where a counter past a fetched instruction can stand. -/
theorem skipIf?_eq {m : Machine} (hpc : m.pc.toNat ≤ 0xFFF) (condition : Bool) :
    skipIf? m condition = some (done (m.skipIf condition)) := by
  have htwo : (2 : Word).toNat = 2 := rfl
  cases condition with
  | false => rfl
  | true =>
      rw [skipIf?, if_pos rfl, sum?_eq (by omega)]
      rfl

/-- Setting a register twice is setting it once, whatever happens to the screen in between. -/
theorem setRegister_twice (m : Machine) (x : Nibble) (screen : Framebuffer) (a b : Byte) :
    ({ m.setRegister x a with screen := screen }).setRegister x b =
      { m with screen := screen }.setRegister x b := by
  simp only [setRegister, Machine.mk.injEq, and_true, true_and]
  apply Table.ext_entry
  intro y
  simp only [Table.entry_put]
  split <;> rfl

/-- The rows that are read into the front of a buffer are the slice of memory itself. -/
theorem take_read (m : Memory) (addr : Word) (buffer rest : List Byte) :
    slice? ((m.read addr buffer).1 ++ rest) 0 (m.read addr buffer).2 =
      some (m.slice addr buffer.length) := by
  rw [slice?_eq (Nat.zero_le _) (by simp [Memory.read])]
  simp [Memory.read]

theorem draw?_eq (m : Machine) (x y rows : Nibble) :
    draw? m x.val y.val rows.val = some (m.executeDraw x y rows) := by
  have hrows := rows.isLt
  have hbuffer : ((List.replicate 15 (0 : Byte)).take rows.val).length = rows.val := by
    rw [List.length_take, List.length_replicate]
    omega
  have hslice : slice? (List.replicate 15 (0 : Byte)) 0 rows.val =
      some ((List.replicate 15 (0 : Byte)).take rows.val) := by
    rw [slice?_eq (Nat.zero_le _) (by rw [List.length_replicate]; omega)]
    rfl
  simp only [draw?, register?_eq, setFlag?_eq, hslice, read?_eq, take_read, hbuffer, blit?_eq,
    Option.bind_eq_bind, Option.bind_some, executeDraw]
  exact congrArg (fun m => some (Outcome.mk m (.ok true) [])) (setRegister_twice ..)

theorem slice?_registers (m : Machine) (x : Nibble) :
    slice? m.v.toList 0 (x.val + 1) = some (m.registersTo x) := by
  have hx := x.isLt
  rw [slice?_eq (Nat.zero_le _) (by rw [Vector.length_toList]; omega)]
  rfl

/-- The address of a glyph stays far below the end of the words. -/
theorem glyphStart?_eq : ∀ b : Byte,
    (product? ((b &&& 0x0F).setWidth 16) 5).bind (sum? Font.start) =
      some (Font.glyphStart b.lowNibble) := by
  decide +kernel

theorem loadRegisters?_eq (m : Machine) (x : Nibble) :
    loadRegisters? m x.val = some (done (m.setRegisters (m.memory.slice m.i (x.val + 1)))) := by
  have hx := x.isLt
  have hv : m.v.toList.length = 16 := by simp
  have hroom : Memory.room m.i (x.val + 1) ≤ x.val + 1 := by
    rw [Memory.room_eq]
    omega
  have hwindow : (m.v.toList.take (x.val + 1)).length = x.val + 1 := by
    rw [List.length_take]
    omega
  have hfront : (m.memory.read m.i (m.v.toList.take (x.val + 1))).1 =
      m.memory.slice m.i (x.val + 1) ++
        (m.v.toList.take (x.val + 1)).drop (Memory.room m.i (x.val + 1)) := by
    simp only [Memory.read, hwindow, Memory.length_slice]
  have hvalues : (Table.build fun y => (m.memory.slice m.i (x.val + 1)).getD y.val
      (m.v.entry y)).toList = m.memory.slice m.i (x.val + 1) ++
        (m.v.toList.take (x.val + 1)).drop (Memory.room m.i (x.val + 1)) ++
          m.v.toList.drop (x.val + 1) := by
    rw [List.append_assoc, ← List.drop_append_of_le_length (by omega), List.take_append_drop]
    apply List.ext_getElem
    · simp
      omega
    · intro k hk _
      have hk : k < 16 := by simpa using hk
      by_cases hmoved : k < Memory.room m.i (x.val + 1)
      · rw [List.getElem_append_left (by simpa using hmoved)]
        simp [Table.build, List.getD_eq_getElem?_getD, hmoved]
      · rw [List.getElem_append_right (by simp; omega), List.getElem_drop]
        have hsame : Memory.room m.i (x.val + 1) + (k - Memory.room m.i (x.val + 1)) = k := by
          omega
        simp [Table.build, Table.entry, List.getD_eq_getElem?_getD, hmoved, hsame]
  simp only [loadRegisters?, slice?_registers, registersTo, read?_eq, Option.bind_eq_bind,
    Option.bind_some, hfront]
  rw [copyOver?_eq (Nat.zero_le _) (by omega) (by simp; omega), Option.bind_some,
    List.take_zero, List.nil_append, registers?_eq hvalues]
  rfl

/-- No instruction goes wrong whose counter stands behind a word that could be fetched. -/
theorem execute?_eq {m : Machine} (hlow : 2 ≤ m.pc.toNat) (hhigh : m.pc.toNat ≤ 0xFFF)
    (address : Word) (ins : Instruction) :
    execute? m address ins = some (m.execute address ins) := by
  cases ins with
  | ret =>
      simp only [execute?, pop?_eq, Option.bind_eq_bind, Option.bind_some, execute, executeReturn]
      cases m.stack.pop? <;> rfl
  | skipIfByte _ _ | skipUnlessByte _ _ | skipIfSame _ _ | skipIfDiffer _ _ | skipIfHeld _
  | skipUnlessHeld _ =>
      simp [execute?, execute, skipIf?_eq hhigh]
  | or _ _ | and _ _ | xor _ _ | add _ _ | sub _ _ | subFrom _ _ | shiftRight _ | shiftLeft _ =>
      simp [execute?, execute]
  | jumpOffset base =>
      have hoffset : register? m 0 = some (m.register Machine.offset) :=
        register?_eq m Machine.offset
      have hsum : (base.setWidth 16).toNat + ((m.register Machine.offset).setWidth 16).toNat <
          65536 := by
        have := base.isLt
        have := (m.register Machine.offset).isLt
        rw [BitVec.toNat_setWidth, BitVec.toNat_setWidth]
        omega
      simp [execute?, execute, hoffset, sum?_eq hsum]
  | draw x y rows => rw [execute?, draw?_eq, execute]
  | awaitKey x =>
      simp only [execute?, firstHeld?_eq, Option.bind_eq_bind, Option.bind_some, execute,
        executeAwaitKey]
      cases m.keys.first? with
      | none =>
          simp only []
          rw [difference?_eq (b := 2) hlow]
          rfl
      | some key => simp
  | pointAtDigit x =>
      have hglyph := glyphStart?_eq (m.register x)
      simp only [execute?, register?_eq, Option.bind_eq_bind, Option.bind_some, execute]
      rw [← Option.bind_assoc, hglyph]
      rfl
  | storeDecimal x => simp [execute?, execute, write?_eq]
  | storeRegisters x => simp [execute?, execute, slice?_registers, write?_eq]
  | loadRegisters x => rw [execute?, loadRegisters?_eq, execute]
  | _ => simp [execute?, execute]

/-! ## Operations -/

/-- Carry out one instruction at the given time. -/
def step? (m : Machine) (now : Instant) : Option (Outcome Status) := do
  let address := m.pc
  match ← word? m.memory address with
  | none => return ⟨m, .error (.programRunaway address), []⟩
  | some word =>
    let m := { m with pc := ← sum? address 2 }
    match Instruction.decode? word with
    | none => return ⟨m, .error (.unknownOpcode word address), []⟩
    | some instruction =>
      let trace := LogLine.executing address word instruction
      return match ← execute? m address instruction with
        | ⟨m, .error fault, log⟩ => ⟨m, .error fault, trace :: log⟩
        | ⟨m, .ok redraw, log⟩ =>
          let (m, status) := m.settle now redraw
          ⟨m, .ok status, trace :: log⟩

/-- Load a program. -/
def load? (m : Machine) (source : ByteSource) : Option (Outcome Nat) :=
  match source.failure with
  | some message => some ⟨m, .error (.io message), []⟩
  | none => do
    let (memory, written) ← write? m.memory Memory.programStart source.data
    if written < source.data.length then
      return ⟨{ m with memory := memory },
        .error (.programTooLarge source.data.length Memory.maxProgramSize), []⟩
    else
      return ⟨{ m with memory := memory, pc := Memory.programStart }, .ok written,
        [.programLoaded written]⟩

/-- Memory at power-on, unless the font is too large for it. -/
def powerOnMemory? : Option (Except Fault Memory) := do
  let (memory, written) ← write? Memory.zeroed Font.start Font.bytes
  return if written < Font.bytes.length then
      .error (.fontTooLarge Font.bytes.length written)
    else .ok memory

/-- A machine at power-on. -/
def create? (keys : Keypad) (random : RandomSource) (now : Instant) :
    Option (Except Fault Machine) := do
  return (← powerOnMemory?).map fun memory => { start keys random now with memory := memory }

/-- Go back to power-on. -/
def reset? (m : Machine) (now : Instant) : Option (Outcome Unit) := do
  return match ← powerOnMemory? with
    | .error fault => ⟨m, .error fault, []⟩
    | .ok memory =>
      ⟨{ m with
          memory := memory
          v := Table.const 0
          i := 0
          pc := Memory.programStart
          stack := CallStack.empty
          timers := Timers.start now
          screen := m.screen.clear },
        .ok (), [.machineReset]⟩

/-- Do one operation. -/
def perform? (m : Machine) : Operation → Option (Outcome Reply)
  | .load source => do return (← load? m source).map .loaded
  | .reset now => do return (← reset? m now).map fun _ => .changed
  | .step now => do return (← step? m now).map .stepped
  | .key key down => do
    return ⟨{ m with keys := ← hold? m.keys key.val down }, .ok .changed, []⟩
  | .releaseKeys => some ⟨{ m with keys := Keypad.released }, .ok .changed, []⟩

theorem step?_eq (m : Machine) (now : Instant) : step? m now = some (m.step now) := by
  simp only [step?, word?_eq, word?_pc, step, instructionAt_pc, Option.bind_eq_bind,
    Option.bind_some]
  by_cases hpc : m.pc.toNat < 0xFFE
  · have hcounter := toNat_pc_advance hpc
    have htwo : (2 : Word).toNat = 2 := rfl
    simp only [if_pos hpc, sum?_eq (a := m.pc) (b := 2) (by omega), Option.bind_some]
    cases Instruction.decode? m.fetched with
    | none => rfl
    | some ins =>
        have heffect := execute?_eq (m := m.advance) (by omega) (by omega) m.pc ins
        simp only [advance] at heffect
        simp only [heffect, Option.bind_some]
        rfl
  · simp only [if_neg hpc]
    rfl

theorem load?_eq (m : Machine) (source : ByteSource) : load? m source = some (m.load source) := by
  unfold load? load Memory.loadProgram
  cases source.failure with
  | some message => rfl
  | none =>
      simp only [write?_eq, Option.bind_eq_bind, Option.bind_some]
      split <;> rfl

theorem powerOnMemory?_eq : powerOnMemory? = some (.ok Memory.initial) := by
  have hfont := Memory.loadFont_bytes
  simp only [Memory.loadFont, Prod.mk.injEq] at hfont
  simp only [powerOnMemory?, write?_eq, Option.bind_eq_bind, Option.bind_some]
  split
  next hshort =>
    rw [if_pos hshort] at hfont
    cases hfont.2
  next => rfl

theorem create?_eq (keys : Keypad) (random : RandomSource) (now : Instant) :
    create? keys random now = some (.ok (start keys random now)) := by
  simp only [create?, powerOnMemory?_eq, Option.bind_eq_bind, Option.bind_some]
  rfl

theorem reset?_eq (m : Machine) (now : Instant) : reset? m now = some (m.reset now) := by
  simp only [reset?, powerOnMemory?_eq, Option.bind_eq_bind, Option.bind_some, reset,
    Memory.loadFont_bytes]
  rfl

/-- No operation on any machine goes wrong. -/
theorem perform?_eq (m : Machine) (op : Operation) : perform? m op = some (m.perform op) := by
  cases op with
  | load source => rw [perform?, load?_eq]; rfl
  | reset now => rw [perform?, reset?_eq]; rfl
  | step now => rw [perform?, step?_eq]; rfl
  | key key down => rw [perform?, hold?_eq]; rfl
  | releaseKeys => rfl

end Chip8.Guarded
