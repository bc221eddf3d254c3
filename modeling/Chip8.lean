import Chip8.Machine.Operation
import Chip8.Session.Typist
import Chip8.Terminal.Recorder
import Chip8.Main
import Chip8.Proofs.Decoding
import Chip8.Proofs.Stepping
import Chip8.Proofs.Faults
import Chip8.Proofs.Subroutine
import Chip8.Proofs.Guarded.Access
import Chip8.Proofs.Guarded.Sprite
import Chip8.Proofs.Guarded.Operation
import Chip8.Proofs.Containment
import Chip8.Proofs.PowerOn
import Chip8.Proofs.Decay
import Chip8.Proofs.Drawing
import Chip8.Proofs.Footprint
import Chip8.Proofs.Noninterference
import Chip8.Proofs.LastWriter
import Chip8.Proofs.FreshFrames
import Chip8.Proofs.KeyHold
import Chip8.Proofs.RunResult
import Chip8.Proofs.SingleStep
import Chip8.Proofs.SpriteInstruction
import Chip8.Proofs.Quitting
import Chip8.Proofs.SoundDevice
import Chip8.Proofs.DeviceFailure
import Chip8.Proofs.Transfers
import Chip8.Proofs.ControlFlow
import Chip8.Proofs.DrawTwice
import Chip8.Proofs.StraightLine
import Chip8.Proofs.RegisterArithmetic
import Chip8.Proofs.BlockTransfer
import Chip8.Proofs.KeyWait
import Chip8.Proofs.RandomStream
import Chip8.Proofs.InstructionText
import Chip8.Proofs.InputService
import Chip8.Proofs.TraceLines
import Chip8.Proofs.DigitGlyphs
import Chip8.Proofs.WordForms
import Chip8.Proofs.StatusText
import Chip8.Proofs.CanvasPlanes
import Chip8.Proofs.CommandLineRoundTrip
import Chip8.Proofs.LastInFirstOut
