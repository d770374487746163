import OpenController.RfHears

/-!
# The hop and the dongle's schedule

A dongle polls at a fixed interval, each poll one channel index after the last, whether the keyboard catches it or not.
`RF_ConnectedTick` runs at every tick of the RTC and follows it by elapsed time; the polls that are caught correct its phase. The
hop is locked while the index is that of the dongle's next poll, and the anchor is off by a bounded number of ticks.
-/

namespace OpenController

/-- The schedule of a dongle, in ticks of the RTC: when its poll 0 is reported, how far apart polls are, and the index of poll 0. -/
structure Dongle where
  start : Nat
  interval : Nat
  index : Nat

/-- When the poll `k` is reported. -/
def Dongle.tick (d : Dongle) (k : Nat) : Nat := d.start + k * d.interval

/-- The channel index of the poll `k`. -/
def Dongle.channelIdx (d : Dongle) (k : Nat) : Nat := (d.index + k) % numDataChannels

/-- A poll is reported at this time. -/
def Dongle.PollsAt (d : Dongle) (time : Nat) : Prop := ∃ k, time = d.tick k

/-- What can happen between two statements of the main loop at one tick of the RTC: the callback takes a poll only when the dongle's
poll is reported, and the counter stands still. -/
inductive HopStep (d : Dongle) (time : Nat) : Rf → Rf → Prop where
  | callback {s} (sta : RfSta) (rsr : Nat) (rxBuf : Option RxBuf)
      (h : sta = .rxData → rsr = 0 → ∀ buf ∈ rxBuf, s.CatchesPoll buf → d.PollsAt time) :
      HopStep d time s (s.rf2g4StatusCallBack sta rsr rxBuf)
  | tmr0Cycle (s) : HopStep d time s { s with tmr0 := s.tmr0.cycle }
  | tmr0Irq (s) : HopStep d time s s.tmr0IRQHandler
  | expire (s) (e : RfEvt) : HopStep d time s { s with tmos := s.tmos.expire e }
  | advance (s) (ticks : Nat) : HopStep d time s { s with tmos := s.tmos.advance ticks }
  | hardware (s) (hw : RfHw) (h : hw.rtc = s.hw.rtc) : HopStep d time s { s with hw := hw }

/-- A run with the dongle: the time, whether `RF_ConnectedTick` has run at it, and the state. It runs at every tick, among any other
calls, and finds no response pending at the tick before a poll. -/
inductive HopRun (d : Dongle) (start : Nat) (s₀ : Rf) : Nat → Bool → Rf → Prop where
  | start : HopRun d start s₀ start false s₀
  | call {time ticked s t} (call : RfCall) (h : HopRun d start s₀ time ticked s)
      (hr : Prog.Runs (HopStep d time) call.program s () t) : HopRun d start s₀ time ticked t
  | tick {time ticked s t} (h : HopRun d start s₀ time ticked s)
      (hp : d.PollsAt (time + 1) → s.resp.responsePending = false)
      (hr : Prog.Runs (HopStep d time) rfConnectedTick s () t) : HopRun d start s₀ time true t
  | next {time s} (h : HopRun d start s₀ time true s) :
      HopRun d start s₀ (time + 1) false { s with hw := { s.hw with rtc := (time + 1) % rtc32kWrap } }

/-- `RF_ConnectedTick` alone, at so many ticks from a time on. -/
def Rf.ticksAlone (time : Nat) : Nat → Rf → Rf
  | 0, s => s
  | ticks + 1, s =>
    let t := rfConnectedTick.exec s
    { t with hw := { t.hw with rtc := (time + 1) % rtc32kWrap } }.ticksAlone (time + 1) ticks

/-! ## The lock -/

/-- The hop waits for the poll `n`, its anchor off by `off` ticks. The tick that the hop gives up after the first slot without a
poll is taken from a smaller offset, since it comes once after each poll. -/
structure RfHop.Follows (d : Dongle) (time n : Nat) (off : Int) (h : RfHop) : Prop where
  interval : h.connInterval = d.interval
  locked : h.provisional = false
  index : h.prevDataIdx = d.channelIdx n
  anchor : h.hopAnchor = rtcAt (d.tick n - rfPollBackdateBase + off)
  past : (d.tick n : Int) - rfPollBackdateBase + off < time
  early : -8 ≤ off
  fresh : h.sinceRx ≤ 1 → -7 ≤ off
  late : off ≤ 6

/-- The hop follows the dongle, and is not behind it for the next `slack` ticks. -/
def RfHop.Locked (d : Dongle) (time slack : Nat) (h : RfHop) : Prop :=
  ∃ n off, h.Follows d time n off ∧ time + slack < d.tick (n + 1)

/-- The hop of the session is locked, as long as the session lasts. -/
structure Rf.LockOk (d : Dongle) (time session slack : Nat) (s : Rf) : Prop where
  rtc : s.hw.rtc = time % rtc32kWrap
  since : session ≤ s.log.sessions
  locked : s.log.sessions = session → s.state = .connected → s.hop.Locked d time slack

end OpenController
