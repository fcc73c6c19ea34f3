import TradingSim.Foundation.Checked
import TradingSim.Foundation.Loop
import TradingSim.Foundation.Iterator
import TradingSim.Foundation.Consume
import TradingSim.Foundation.Service
import TradingSim.Foundation.Region
import TradingSim.Foundation.Ownership
import TradingSim.Foundation.Framing
import TradingSim.Foundation.Items
import TradingSim.Foundation.Damage
import TradingSim.Foundation.LittleEndian
import TradingSim.Foundation.Layout
import TradingSim.Wire.Event
import TradingSim.Wire.Mbo
import TradingSim.Wire.Codec
import TradingSim.Ingest.Prologue
import TradingSim.Ingest.Frame
import TradingSim.Ingest.Route
import TradingSim.Ingest.Assembler
import TradingSim.Ingest.Chunking
import TradingSim.Ingest.Source
import TradingSim.Ingest.Pump
import TradingSim.Ingest.Replay
import TradingSim.Ingest.DbnReader
import TradingSim.Ingest.Construction
import TradingSim.Ingest.MmapDbnReader
import TradingSim.Ingest.Reader
import TradingSim.Ingest.Parity
import TradingSim.Ingest.Grammar
import TradingSim.Ingest.CleanStop
import TradingSim.Ingest.Accounting
import TradingSim.Ingest.EndOfStream
import TradingSim.Ingest.Truncation
import TradingSim.Ingest.Damage
import TradingSim.Ingest.FailingDevice
import TradingSim.Ingest.Noninterference
import TradingSim.Ingest.Codec
import TradingSim.Ingest.Recording
import TradingSim.Ingest.Safety
import TradingSim.Ingest.SizeType
import TradingSim.Ingest.Progress
import TradingSim.Ingest.BoundedMemory
import TradingSim.Ingest.ReadCost
import TradingSim.Mapping.Os
import TradingSim.Mapping.MemoryMappedFile
import TradingSim.Mapping.Outcome
import TradingSim.Mapping.Lifetime
import TradingSim.Ingest.Moving
import TradingSim.Ingest.MovingStream
import TradingSim.Ingest.Views
import TradingSim.Ingest.Process
import TradingSim.Ingest.Holdings
import TradingSim.Ingest.Following
import TradingSim.Ingest.Portable
import TradingSim.Drivers.Fixture
import TradingSim.Drivers.Console
import TradingSim.Drivers.ReplayDbn
import TradingSim.Drivers.BenchDbn
import TradingSim.Drivers.FrameFuzz
