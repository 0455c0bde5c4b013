import AggregateStage.Decimal.Fixed
import AggregateStage.Log
import AggregateStage.Metrics.Duration

/-! The closing report of a call: how its time divides into phases. -/
namespace AggregateStage.Metrics

structure Summary where
  service : String
  events : UInt64
  total : Duration
  processing : Duration
  send : Duration
  recv : Duration
  deriving DecidableEq, Repr

namespace Summary

def millis (d : Duration) : Float := d.toFloat * 1000.0

/-- A phase in percent of the total. -/
def share (s : Summary) (phase : Duration) : Float := phase.toFloat / s.total.toFloat * 100.0

/-- Milliseconds of a phase for each event. -/
def perEvent (s : Summary) (phase : Duration) : Float := millis phase / s.events.toFloat

def phaseLine (s : Summary) (name : String) (phase : Duration) : String :=
  name ++ " time: " ++ Decimal.fixed 2 (millis phase) ++ "ms (" ++
    Decimal.fixed 1 (s.share phase) ++ "%)"

def averageLine (s : Summary) (name : String) (phase : Duration) : String :=
  "  " ++ name ++ ": " ++ Decimal.fixed 4 (s.perEvent phase) ++ "ms"

def reportLines (s : Summary) : List String := [
  "=== " ++ s.service ++ " Metrics ===",
  "Events processed: " ++ Decimal.integer s.events.toNat,
  s.phaseLine "Processing" s.processing,
  s.phaseLine "IPC Send" s.send,
  s.phaseLine "IPC Recv" s.recv,
  "Avg per event:",
  s.averageLine "Processing" s.processing,
  s.averageLine "IPC Send" s.send,
  s.averageLine "IPC Recv" s.recv]

def report (s : Summary) : String := "\n".intercalate s.reportLines

def fields (s : Summary) : List Log.Field := [
  ⟨"service", .text s.service⟩,
  ⟨"events", .integer s.events.toNat⟩,
  ⟨"total_ms", .real (millis s.total)⟩,
  ⟨"processing_ms", .real (millis s.processing)⟩,
  ⟨"processing_pct", .real (s.share s.processing)⟩,
  ⟨"send_ms", .real (millis s.send)⟩,
  ⟨"send_pct", .real (s.share s.send)⟩,
  ⟨"recv_ms", .real (millis s.recv)⟩,
  ⟨"recv_pct", .real (s.share s.recv)⟩,
  ⟨"avg_processing_ms", .real (s.perEvent s.processing)⟩,
  ⟨"avg_send_ms", .real (s.perEvent s.send)⟩,
  ⟨"avg_recv_ms", .real (s.perEvent s.recv)⟩]

/-- The numbers on one line for machines, the report on another for people. -/
def lines (s : Summary) : List Log.Line := [
  ⟨.info, .metrics, "Connection metrics", s.fields⟩,
  ⟨.debug, .metrics, s.report, []⟩]

end Summary

end AggregateStage.Metrics
