/-!
# Settings

What the command line asks for.
-/

namespace Chip8

/-- The settings of a run. -/
structure Config where
  /-- The name of the file with the program. -/
  rom : String
  /-- Instructions for each second. -/
  clockHz : UInt32
  /-- Leave the sound device alone. -/
  mute : Bool
  /-- Start with the machine paused. -/
  paused : Bool
  /-- The seed of the random source, for runs that can be repeated. -/
  seed : Option UInt64
  /-- How many instructions to run, zero for no limit. -/
  cycles : UInt64
  /-- Report every instruction. -/
  trace : Bool
  deriving DecidableEq, Repr

namespace Config

/-- The rate of instructions unless another one is asked for. -/
def defaultClockHz : UInt32 := 700

/-- The settings that nothing but a program name asks for. -/
def ofRom (rom : String) : Config :=
  ⟨rom, defaultClockHz, false, false, none, 0, false⟩

/-- The nanoseconds for one instruction, rounded down. -/
def cyclePeriod (c : Config) : Nat := 1000000000 / c.clockHz.toNat

end Config

end Chip8
