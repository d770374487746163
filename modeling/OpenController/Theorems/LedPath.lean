import OpenController.Lemmas.LedPathRun
import OpenController.Theorems.LedRelay

/-!
# No LED byte is lost for good

Whenever nothing is under way, the keyboard's host has ACKed the byte that the dongle relayed last, or its loss is on record and
the next relay is handed over, be it of the same byte.
-/

namespace OpenController

open LedPath

/-- Once it is forgotten which byte was handed over last, every relay is posted. -/
theorem ledHears_posts {w v : LedWorld} (hi : LedHears w v) (hforgotten : w.rf.led.lastLedSent = 0xFF)
    (harmed : w.rf.tmos.armed .notifyLed = false) (hrelay : v.relayed ≠ w.relayed) : ¬v.Quiet := by
  rcases ledInterrupt_spec (ledHears_interrupt hi harmed).1 with ⟨hsame, -⟩ | ⟨b, hb, -, hposted⟩
  · exact absurd hsame hrelay
  · intro hquiet
    have hwaits := hposted.waits.symm.trans hquiet
    rw [hforgotten, decide_eq_true hb, Bool.true_or] at hwaits
    cases hwaits

/-- Whenever no NOTIFY_LED event is queued and host wake is idle: no byte was relayed; or the newest value that host wake was given
is the byte relayed last, and the host ACKed it, or it was lost, and host wake still says so or the next relay, of whatever byte, is
posted to be handed over. -/
theorem led_acked_or_asked {g t : Fin 4294967296} {m : Fin 256} {w : LedPath} (h : LedPathRun g t m w) (hquiet : w.led.Quiet)
    (hidle : w.hw.isIdle = true) :
    w.led.relayed = [] ∨ ∃ b, w.led.relayed.getLast? = some b ∧ (ledSlot w.evs).newest = some ⟨0x5A, b⟩ ∧
      ((ledSlot w.evs).fate = .acked ∨ (ledSlot w.evs).fate = .lost ∧
        (w.hw.latestLost = true ∨ ∀ v, LedHears w.led v → v.relayed ≠ w.led.relayed → ¬v.Quiet)) := by
  obtain ⟨⟨hreached, harmed⟩, hok⟩ := ok_run h
  have hlast : w.led.rf.ledsHanded.getLast? = w.led.relayed.getLast? := (ledOk_reached hreached).newest hquiet
  rcases hrel : w.led.relayed.getLast? with _ | b
  · exact .inl (List.getLast?_eq_none_iff.mp hrel)
  have hnewest : (ledSlot w.evs).newest = some ⟨0x5A, b⟩ := by
    rw [hok.newest, hlast, hrel]
    rfl
  refine .inr ⟨b, rfl, hnewest, ?_⟩
  have hinv := HostWake.ledRun_inv hok.run
  rcases HostWake.fate_idle hinv hidle with hnone | hacked | hlost
  · cases hnone.symm.trans hnewest
  · exact .inl hacked
  · refine .inr ⟨hlost, (hok.lost hlost).imp hinv.flag.trans fun hforgotten v hv hrelay => ?_⟩
    exact ledHears_posts hv (hforgotten.resolve_left nofun) harmed hrelay

/-! ## A value is lost and handed over again -/

namespace LedPath

/-- The callback runs. -/
def callback (w : LedPath) (sta : RfSta) (rxBuf : Option RxBuf) : LedPath :=
  { w with led := ⟨w.led.rf.rf2g4StatusCallBack sta 0 rxBuf, w.led.relayed ++ w.led.rf.ledRelayed sta 0 rxBuf⟩ }

/-- What happens in an undisturbed run: a call, or the callback between two calls. -/
inductive Input where
  | call (c : LedPathCall)
  | callback (sta : RfSta) (rxBuf : Option RxBuf)

def Input.apply (w : LedPath) : Input → LedPath
  | .call c => c.program.exec w
  | .callback sta rxBuf => w.callback sta rxBuf

/-- The callback runs while the radio is not shut, and relays no 0xFF. -/
def Input.Fits (w : LedPath) : Input → Prop
  | .call _ => True
  | .callback sta rxBuf => w.led.rf.radio.shut = false ∧ ∀ b ∈ w.led.rf.ledRelayed sta 0 rxBuf, b ≠ 0xFF

instance (w : LedPath) (i : Input) : Decidable (i.Fits w) :=
  match i with
  | .call _ => instDecidableTrue
  | .callback .. => inferInstanceAs (Decidable (_ ∧ _))

def FitsRun (w : LedPath) : List Input → Prop
  | [] => True
  | i :: is => i.Fits w ∧ FitsRun (i.apply w) is

instance decFitsRun (w : LedPath) : (is : List Input) → Decidable (FitsRun w is)
  | [] => isTrue trivial
  | i :: is => @instDecidableAnd _ _ _ (decFitsRun (i.apply w) is)

theorem run_after {g t : Fin 4294967296} {m : Fin 256} {w : LedPath} (h : LedPathRun g t m w) {is : List Input}
    (hfits : FitsRun w is) : LedPathRun g t m (is.foldl Input.apply w) := by
  induction is generalizing w with
  | nil => exact h
  | cons i is ih =>
    refine ih ?_ hfits.2
    cases i with
    | call c => exact .step c h (Prog.runs_run _ _ _)
    | callback sta rxBuf =>
      exact .step (.rf .other nofun) h (.env (.hears (.callback sta 0 rxBuf hfits.1.1 hfits.1.2)) (.ret () _))

/-- A pass of TMOS. -/
def pass : Input := .call (.rf .process nofun)

/-- A command of the host. -/
def command (sub : Byte) : Input := .call (.rf (.frame 0xA6 sub (Vector.replicate 8 0)) nofun)

/-- The keyboard connects, a byte is relayed and handed over. -/
def connectAndRelay (b : Byte) : List Input :=
  [pass, command 0x30, command 0x51, pass, .callback .txFinish none, pass, .callback .rxData (some offerPacket), pass,
    .callback .rxData (some offerPacket), pass, .callback .rxData (some (ledPoll b)), pass]

/-- Host wake is stepped, at a time. -/
def service (now : Fin 4294967296) : Input := .call (.service now)

/-- The host does not ACK the LED frame, but every other frame. -/
def ledUnheard : List Input :=
  [service 0, service 10, service 110, .call .takeLedLost, service 310] ++
    (List.replicate 6 [.call .ack, service 310]).flatten

/-- The module has been switched on. -/
def switchedOn : LedPath := ⟨⟨newKeyboard, []⟩, HostWake.init 10 100 1, []⟩

/-- It relays a byte that the host does not ACK. -/
def unheard : LedPath := (connectAndRelay 2 ++ ledUnheard).foldl Input.apply switchedOn

end LedPath

/-- The byte is lost, and the next relay is posted. -/
theorem led_acked_or_asked_unheard : (ledSlot unheard.evs).fate = .lost ∧
    ∀ v, LedHears unheard.led v → v.relayed ≠ unheard.led.relayed → ¬v.Quiet := by
  have hrun : LedPathRun 10 100 1 unheard :=
    run_after (.init ⟨newKeyboard, ⟨_, _, _, _, rfl⟩, rfl⟩) (by decide +kernel)
  rcases led_acked_or_asked hrun (by decide +kernel) (by decide +kernel) with hnone | ⟨b, -, -, hacked | ⟨hlost, hsays | hposts⟩⟩
  · exact absurd hnone (by decide +kernel)
  · exact absurd hacked (by decide +kernel)
  · exact absurd hsays (by decide +kernel)
  · exact ⟨hlost, hposts⟩

end OpenController
