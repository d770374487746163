import OpenController.RfHears
import OpenController.RfRange
import OpenController.RtcCircle

/-!
# The hop catches up

A main loop that is late calls `RF_ConnectedTick` with the anchor many intervals behind. A call makes at most `RF_HOP_MAX_STEP` steps,
so it may take several. The times here are true ones, of which the RTC shows the residue.
-/

namespace OpenController

/-- What can happen between two statements of the main loop when no poll is caught and the counter stands still. -/
inductive TickStep : Rf → Rf → Prop where
  | callback {s} (sta : RfSta) (rsr : Nat) (rxBuf : Option RxBuf)
      (h : sta = .rxData → rsr = 0 → ∀ buf ∈ rxBuf, ¬s.CatchesPoll buf) : TickStep s (s.rf2g4StatusCallBack sta rsr rxBuf)
  | tmr0Cycle (s) : TickStep s { s with tmr0 := s.tmr0.cycle }
  | tmr0Irq (s) : TickStep s s.tmr0IRQHandler
  | expire (s) (e : RfEvt) : TickStep s { s with tmos := s.tmos.expire e }
  | advance (s) (ticks : Nat) : TickStep s { s with tmos := s.tmos.advance ticks }
  | hardware (s) (hw : RfHw) (h : hw.rtc = s.hw.rtc) : TickStep s { s with hw := hw }

/-- The state at a time. -/
def Rf.atTime (now : Int) (s : Rf) : Rf := { s with hw := { s.hw with rtc := rtcAt now } }

/-- A call of `RF_ConnectedTick` at a time. -/
def TickAt (now : Int) (s t : Rf) : Prop := Prog.Runs TickStep rfConnectedTick (s.atTime now) () t

/-- The last time, up to now, that the anchor shows. -/
def Rf.anchorTime (now : Int) (s : Rf) : Int := now - rtcAhead (rtcAt now) s.hop.hopAnchor

/-- Calls at times that do not go back, each at most `RF_HOP_DESYNC_INTERVALS` intervals after the anchor. -/
inductive TickRun (start : Int) (s₀ : Rf) : Int → Rf → Prop where
  | start : TickRun start s₀ start s₀
  | call {now later s t} (h : TickRun start s₀ now s) (hle : now ≤ later)
      (hlag : later - s.anchorTime now ≤ s.hop.connInterval * rfHopDesyncIntervals) (ht : TickAt later s t) :
      TickRun start s₀ later t

/-- So many calls at one time. -/
inductive TickAgain (now : Int) (s : Rf) : Nat → Rf → Prop where
  | zero : TickAgain now s 0 s
  | succ {n t u} (h : TickAgain now s n t) (ht : TickAt now t u) : TickAgain now s (n + 1) u

/-- A session that is locked, at the time of its anchor, with no response pending. -/
structure Rf.InSession (start : Int) (s : Rf) : Prop where
  connected : s.state = .connected
  locked : s.hop.provisional = false
  hop : s.hop.InRange
  anchor : s.hop.hopAnchor = rtcAt start
  idle : s.resp.responsePending = false

/-- From one hop at a time, so many steps lead to another: the index and the anchor have made the same, but for a tick that the anchor
gives back, and it is not ahead of now. -/
structure RfHop.Stepped (start now : Int) (k r : Nat) (h₀ h : RfHop) : Prop where
  back : r ≤ 1
  index : h.prevDataIdx = (h₀.prevDataIdx + k) % numDataChannels
  anchor : h.hopAnchor = rtcAt (start + k * h₀.connInterval - r)
  past : start + k * h₀.connInterval - r ≤ now

end OpenController
