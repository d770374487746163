import OpenController.RfSleep

/-!
# The range of the connected hop

What the hop computes with comes from packets, flash and the RTC. All of it is kept in range, at every statement, so nothing that
`RF_ConnectedTick` computes leaves its type.
-/

namespace OpenController

/-- What can happen between two statements of the main loop, with a counter that shows values below its modulus. The radio may
call back late. -/
def RfClock (s t : Rf) : Prop := RfAnytime s t ∧ t.hw.rtc < rtc32kWrap

/-- The states between the calls of a main loop that such interrupts run into. -/
abbrev RfClocked : Rf → Prop :=
  Reach (fun s => RfBooted s ∧ s.hw.rtc < rtc32kWrap) fun (call : RfCall) s t => Prog.Runs RfClock call.program s () t

/-- An interval that a session runs at. -/
def HopInterval (interval : Nat) : Prop := 20 ≤ interval ∧ interval ≤ 40

/-- The hop of a session is in range. -/
structure RfHop.InRange (h : RfHop) : Prop where
  interval : HopInterval h.connInterval
  index : h.prevDataIdx < numDataChannels
  anchor : h.hopAnchor < rtc32kWrap

/-- All that the hop computes with is in range. -/
structure Rf.HopRange (s : Rf) : Prop where
  hop : s.hop.InRange
  pendingAnchor : s.pending.anchor < rtc32kWrap
  armed : s.resp.responseArmedRtc < rtc32kWrap
  now : s.hw.rtc < rtc32kWrap

/-- `rtc_delta_32k` computes the time since a value in 32 bits. -/
def SpanInRange (now then_ : Nat) : Prop := now < then_ → then_ ≤ rtc32kWrap ∧ rtc32kWrap - then_ + now < 4294967296

/-- `rtc_add_32k` computes the sum in 32 bits, and its loop ends after at most one subtraction. -/
def SumInRange (t ticks : Nat) : Prop := t + ticks < 4294967296 ∧ rtcReduce 1 (t + ticks) < rtc32kWrap

/-- What `RF_ConnectedTick` computes from here on, at the interval it has read: the spans, the limits, the hop by so many steps, the
anchor and the channel. -/
structure Rf.TickInRange (interval : Nat) (s : Rf) : Prop where
  divisor : interval ≠ 0
  channel : s.hop.prevDataIdx < dataChannels.length
  elapsed : SpanInRange s.hw.rtc s.hop.hopAnchor
  waited : SpanInRange s.hw.rtc s.resp.responseArmedRtc
  limits : interval * 2 < 4294967296 ∧ interval * rfHopDesyncIntervals < 4294967296
  parked : SumInRange s.hop.hopAnchor interval
  steps : ∀ step ≤ numDataChannels, interval * step < 4294967296 ∧ SumInRange s.hop.hopAnchor (interval * step) ∧
    s.hop.prevDataIdx + step < 4294967296
  backdated : ∀ ticks ≤ rfHopAnchorBackdate, rtcBackdate32k s.hw.rtc ticks < rtc32kWrap

end OpenController
