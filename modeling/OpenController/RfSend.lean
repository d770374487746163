import OpenController.RfHears

/-!
# What was sent of the FIFO

An acknowledgement retires the head of the FIFO, which must have been sent. `rf_do_response_tx` chooses the head with interrupts
masked and sets `hid_head_sent` when its transmission has started: a poll that retires the head in between makes the flag speak
of the next one.
-/

namespace OpenController

/-- No poll retires the head between the choice of a response's report and `RF_Shut`. -/
def Hearing.keepsSelected : Hearing := fun s buf => s.log.stretch = .selected → ¬s.Retires buf

instance (s : Rf) (buf : RxBuf) : Decidable (Hearing.keepsSelected s buf) := inferInstanceAs (Decidable (_ → _))

/-- The indices are bytes, the FIFO holds at most its slots, a head that is marked as sent was, and so was every entry retired. -/
structure RfHid.SendOk (h : RfHid) (log : RfLog) : Prop where
  head_lt : h.head < 256
  tail_lt : h.tail < 256
  count_le : h.count ≤ hidFifoSlots
  sent : h.headSent = true → h.tail ≠ h.head ∧ ⟨log.sessions, log.passed, h.headReport⟩ ∈ log.started
  retired : ∀ x ∈ log.retired, x ∈ log.started

/-- What was sent is in order. -/
def Rf.SendOk (s : Rf) : Prop := s.hid.SendOk s.log

end OpenController
