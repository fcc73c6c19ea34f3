import TradingSim.Drivers.Console
import TradingSim.Foundation.Consume
import TradingSim.Ingest.Accounting
import TradingSim.Wire.Codec

/-!
# The replay driver

`replay_dbn` streams a whole file through `DbnReader` and reports the version, the
first event, the counters and how the stream ended.  Its output is a function of
the file: a refusal of the prologue, or the report of the record region.  A device
that fails can only cut the reported stream short.
-/

namespace TradingSim

open Foundation

namespace ReplayDbn

def usage (argv0 : String) : String := "usage: " ++ argv0 ++ " <file.dbn>\n"

def versionLine (version : UInt8) : String :=
  "DBN version : " ++ toString version.toNat ++ "\n"

def firstEventLine (e : Event) : String :=
  "first event : action=" ++ String.singleton (Char.ofNat e.action.toWire.toNat) ++
    " side=" ++ String.singleton (Char.ofNat e.side.toWire.toNat) ++
    " order_id=" ++ toString e.orderId.toNat ++
    " price=" ++ toString e.price.toInt ++
    " size=" ++ toString e.size.toNat ++
    " seq=" ++ toString e.sequence.toNat ++
    " ts_event=" ++ toString e.tsEvent.toNat ++ "\n"

def totalLine (count : Nat) : String :=
  "total events: " ++ toString count ++ "\n"

def statsLine (st : IngestStats) : String :=
  "stats        : records=" ++ toString st.records.toNat ++
    " events=" ++ toString st.events.toNat ++
    " skip_non_mbo=" ++ toString st.skippedNonMbo.toNat ++
    " skip_malformed=" ++ toString st.skippedMalformed.toNat ++ "\n"

def endedLine (failed : Bool) : String :=
  "ended        : " ++
    (if failed then "CORRUPT (stopped on bad frame)" else "clean EOF") ++ "\n"

/-- The body of the loop: what is printed so far, and the count. -/
def reportEvent : String × Nat → Event → String × Nat :=
  fun (stdout, count) e =>
    (if count = 0 then stdout ++ firstEventLine e else stdout, count + 1)

/-- The `try` block of `main`. -/
def replayFile (fuel : Nat) (disk : Disk) (path : String) :
    Checked RuntimeError Exit := do
  let reader ← DbnReader.openPath fuel disk 0 path
  let stdout := versionLine reader.version
  let ((stdout, count), reader) ←
    (Iterator.consume DbnReader.next reportEvent fuel (stdout, 0) reader).mapThrown
      (.refused "DbnReader")
  let stdout := stdout ++ totalLine count
  let stdout := stdout ++ statsLine reader.stats
  let stdout := stdout ++ endedLine reader.failed
  .ok { stdout, code := if reader.failed then 1 else 0 }

/-- `main`, with the arguments after the name of the program. -/
def main (fuel : Nat) (disk : Disk) (argv0 : String) :
    List String → Checked Empty Exit
  | [] => .ok { stderr := usage argv0, code := 2 }
  | path :: _ =>
      match replayFile fuel disk path with
      | .ok exit => .ok exit
      -- Only the constructor throws, and it comes before anything is printed.
      | .error (.thrown ex) =>
          .ok { stderr := "replay_dbn error: " ++ ex.what path ++ "\n", code := 1 }
      | .error (.fault kind) => .error (.fault kind)
      | .error .outOfFuel => .error .outOfFuel

/-! ## What a run reports -/

/-- The exit of a run whose constructor throws. -/
def refusal (path : String) (error : RuntimeError) : Exit where
  stderr := "replay_dbn error: " ++ error.what path ++ "\n"
  code := 1

variable {fuel : Nat} {disk : Disk} {path argv0 : String}

/-- A fresh reader will see the beginning of the record region, and all of it over
a source without device errors. -/
theorem unread_of_fresh {contents : Bytes} {chunkSize : Nat} {reader : DbnReader}
    (fresh : DbnReader.Fresh contents chunkSize reader) :
    reader.unread <+: recordRegion contents ∧
      (reader.source.Faultless → 0 < chunkSize →
        reader.unread = recordRegion contents) := by
  have unread : reader.unread = reader.source.supply reader.scratch.length := by
    rw [DbnReader.unread, fresh.assembler, RecordAssembler.unconsumed_empty,
      List.nil_append]
  rw [unread, ← fresh.rest]
  refine ⟨reader.source.supply_prefix _, ?_⟩
  intro faultless room
  exact faultless.supply_eq (fresh.chunk ▸ room)

/-- The sample file, read a byte at a time. -/
def sampleDisk : Disk where
  contents := fun _ => some sampleFile
  reads := fun _ => shortReads fun _ => 1
  answers := fun _ =>
    { file := some 3, size := some 128, mapping := none, view := some 4096 }
  granted := fun _ _ => rfl

end ReplayDbn

end TradingSim
