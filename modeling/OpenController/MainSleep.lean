import OpenController.MainLoop

/-!
# The explicit sleep

A request to sleep is held by the reducer of the sleep protocol (`sleep_pending`), then by `Power_Service`, then by the power layer
(`pwr_explicit_request`). A new negotiation reaches the first only, and a wake by the host the last only.
-/

namespace OpenController

/-- Nothing vetoes the deep sleep, and an edge of the host comes with its end. -/
def SleepView.HostWakes (view : SleepView) : Prop :=
  view.masked = false ∧ (view.wakeAsserted = false ∧ view.trigAsserted = false) ∧ (view.hostEdge = true ∨ view.lateEdge = true)

/-- The sleep that was requested is tried, and the host wakes the module from it. Whether the deadline leaves the time for one is for
the clock to say, which goes on until the callback reads it. -/
def Main.HostEndsSleep (txIdle rxQuiet : Bool) (view : SleepView) (m : Main) : Prop :=
  (m.pwr.explicitRequest = true ∧ m.rf.state = .idle) ∧ (m.openbootEntryPending = false ∧ txIdle = true ∧ rxQuiet = true) ∧
    view.HostWakes

/-- No layer keeps a request that another one gives up: the protocol is not negotiated anew while the power layer holds one, and
the host does not wake the module from one while the reducer holds another. -/
def MainOp.DropsRequest (op : MainOp) (m : Main) : Prop :=
  match op with
  | .call (.frame cmd sub _) => cmd = 0xA6 → sub = 0x56 → m.pwr.explicitRequest = false
  | .call (.lowPower _ txIdle rxQuiet view) => m.HostEndsSleep txIdle rxQuiet view → m.sleepProto.sleepPending = false
  | _ => True

instance (view : SleepView) : Decidable view.HostWakes := inferInstanceAs (Decidable (_ ∧ (_ ∧ _) ∧ (_ ∨ _)))

instance (txIdle rxQuiet : Bool) (view : SleepView) (m : Main) : Decidable (m.HostEndsSleep txIdle rxQuiet view) :=
  inferInstanceAs (Decidable ((_ ∧ _) ∧ (_ ∧ _ ∧ _) ∧ _))

instance (op : MainOp) (m : Main) : Decidable (op.DropsRequest m) := by
  cases op with
  | call c => cases c <;> first | exact instDecidableTrue | exact inferInstanceAs (Decidable (_ → _))
  | event next u => exact instDecidableTrue

/-- Every request that is held is wanted, and every one that was taken was. If `c` the power layer's is about to be withdrawn. -/
structure Main.RequestOk (c : Prop) (m : Main) : Prop where
  pending : m.sleepProto.sleepPending = true → m.log.wanted = true
  request : ¬c → m.pwr.explicitRequest = true → m.log.wanted = true
  taken : ∀ e ∈ m.log.sleeps, e.explicit = true → e.wanted = true

end OpenController
