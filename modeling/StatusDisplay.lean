import StatusDisplay.AddressRange
import StatusDisplay.Board.Basic
import StatusDisplay.Board.Call
import StatusDisplay.Board.Lines
import StatusDisplay.Board.Master
import StatusDisplay.Board.Peripherals
import StatusDisplay.Board.Status
import StatusDisplay.Bus.Basic
import StatusDisplay.Bus.Release
import StatusDisplay.Bus.Scan
import StatusDisplay.Config
import StatusDisplay.Controller
import StatusDisplay.Defect
import StatusDisplay.Display
import StatusDisplay.Engine.Basic
import StatusDisplay.Engine.BringUp
import StatusDisplay.Engine.Interrupt
import StatusDisplay.Engine.PowerOn
import StatusDisplay.Failure
import StatusDisplay.Glyph.Basic
import StatusDisplay.Glyph.Typeface
import StatusDisplay.Lcd.Stream
import StatusDisplay.Oled.Cursor
import StatusDisplay.Oled.Stream
import StatusDisplay.Payload
import StatusDisplay.Proofs.Board.Custody
import StatusDisplay.Proofs.Board.Exchange
import StatusDisplay.Proofs.Board.Levels
import StatusDisplay.Proofs.Board.Matched
import StatusDisplay.Proofs.Board.Present
import StatusDisplay.Proofs.Board.Release
import StatusDisplay.Proofs.Board.Scene
import StatusDisplay.Proofs.Board.Settings
import StatusDisplay.Proofs.Board.Wire
import StatusDisplay.Proofs.Board.Wiring
import StatusDisplay.Proofs.Bus.Addressing
import StatusDisplay.Proofs.Bus.Calm
import StatusDisplay.Proofs.Bus.Closing
import StatusDisplay.Proofs.Bus.Detection
import StatusDisplay.Proofs.Bus.Leftover
import StatusDisplay.Proofs.Bus.Opening
import StatusDisplay.Proofs.Bus.Outcome
import StatusDisplay.Proofs.Bus.Patience
import StatusDisplay.Proofs.Bus.Present
import StatusDisplay.Proofs.Bus.Probing
import StatusDisplay.Proofs.Bus.Script
import StatusDisplay.Proofs.Bus.Search
import StatusDisplay.Proofs.Bus.Timeouts
import StatusDisplay.Proofs.Bus.Traffic
import StatusDisplay.Proofs.Bus.Waits
import StatusDisplay.Proofs.Engine.BringUp
import StatusDisplay.Proofs.Engine.Calls
import StatusDisplay.Proofs.Engine.Custody
import StatusDisplay.Proofs.Engine.Detection
import StatusDisplay.Proofs.Engine.FirstBoot
import StatusDisplay.Proofs.Engine.Frame
import StatusDisplay.Proofs.Engine.Present
import StatusDisplay.Proofs.Engine.Readied
import StatusDisplay.Proofs.Engine.Recovery
import StatusDisplay.Proofs.Engine.Refresh
import StatusDisplay.Proofs.Engine.Retry
import StatusDisplay.Proofs.Engine.Scene
import StatusDisplay.Proofs.Engine.Standing
import StatusDisplay.Proofs.Engine.Timeouts
import StatusDisplay.Proofs.Engine.Transfers
import StatusDisplay.Proofs.Engine.Twins
import StatusDisplay.Proofs.Lcd.Display
import StatusDisplay.Proofs.Lcd.Frame
import StatusDisplay.Proofs.Lcd.Picture
import StatusDisplay.Proofs.Lcd.Receiver
import StatusDisplay.Proofs.Oled.Picture
import StatusDisplay.Proofs.Oled.Receiver
import StatusDisplay.Proofs.Payloads
import StatusDisplay.Proofs.Run.Addresses
import StatusDisplay.Proofs.Run.Addressing
import StatusDisplay.Proofs.Run.Backlight
import StatusDisplay.Proofs.Run.Basic
import StatusDisplay.Proofs.Run.Cadence
import StatusDisplay.Proofs.Run.Cargo
import StatusDisplay.Proofs.Run.Custody
import StatusDisplay.Proofs.Run.FirstBoot
import StatusDisplay.Proofs.Run.Foreground
import StatusDisplay.Proofs.Run.Forgetting
import StatusDisplay.Proofs.Run.Healing
import StatusDisplay.Proofs.Run.Openings
import StatusDisplay.Proofs.Run.Ownership
import StatusDisplay.Proofs.Run.Recovery
import StatusDisplay.Proofs.Run.Retry
import StatusDisplay.Proofs.Run.Standing
import StatusDisplay.Proofs.Run.Timeline
import StatusDisplay.Proofs.Run.Transactions
import StatusDisplay.Proofs.Run.Twins
import StatusDisplay.Proofs.Serialization
import StatusDisplay.Proofs.Sync.Bitmap
import StatusDisplay.Proofs.Sync.Cadence
import StatusDisplay.Proofs.Sync.Character
import StatusDisplay.Proofs.Sync.Counting
import StatusDisplay.Proofs.Sync.Hooks
import StatusDisplay.Proofs.Sync.Passes
import StatusDisplay.Proofs.Sync.PowerOn
import StatusDisplay.Proofs.Text.Cells
import StatusDisplay.Sync
import StatusDisplay.Text.Grid
import StatusDisplay.Watchdog
