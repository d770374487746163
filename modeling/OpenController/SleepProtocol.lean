import OpenController.Lib.Word

/-!
# The sleep protocol

The reducer of `sleep_protocol.c`: which frames of the host ask for a sleep, and which stand one down.
-/

namespace OpenController

/-- What the reducer asks of `handle_uart_frame` (`sleep_proto_action_t`). -/
inductive SleepProtoAction where
  | nothing
  | sendReady
  | arm
  | cancel
  deriving DecidableEq, Repr

/-- `sleep_proto_t`. -/
structure SleepProto where
  unlocked : Bool
  sleepPending : Bool
  autosleep : Bool
  deriving DecidableEq, Repr

/-- `SleepProtocol_Reset`. -/
def SleepProto.reset : SleepProto := ⟨false, false, false⟩

/-- `SleepProtocol_IsStateChanging`. -/
def sleepProtocolIsStateChanging (cmd sub : Byte) : Bool :=
  decide (cmd = 0xA1 ∨ cmd = 0xA9 ∨ cmd = 0xA6 ∧ (sub = 0x11 ∨ sub = 0x30 ∨ sub = 0x31 ∨ sub = 0x32 ∨ sub = 0x33 ∨ sub = 0x51 ∨
    sub = 0x52 ∨ sub = 0x63 ∨ sub = 0x81))

/-- The end of `SleepProtocol_OnFrame`: a frame that changes the state of the link cancels a pending sleep. -/
def SleepProto.standDown (st : SleepProto) (cmd sub : Byte) : SleepProto × SleepProtoAction :=
  if st.sleepPending && sleepProtocolIsStateChanging cmd sub then ({ st with sleepPending := false }, .cancel) else (st, .nothing)

/-- `SleepProtocol_OnFrame`. -/
def SleepProto.onFrame (st : SleepProto) (cmd sub : Byte) (openbootPending : Bool) : SleepProto × SleepProtoAction :=
  if cmd = 0xA6 ∧ sub = 0x56 then ({ st with unlocked := true, sleepPending := false, autosleep := false }, .sendReady)
  else if cmd = 0xA6 ∧ sub = 0x57 then (if st.unlocked then { st with autosleep := true } else st, .nothing)
  else
    let st := if cmd = 0xA6 ∧ (sub = 0x51 ∨ sub = 0x52 ∨ sub = 0x63) then { st with autosleep := false } else st
    if cmd = 0xA6 ∧ sub = 0x54 then
      if st.unlocked && !openbootPending && !st.sleepPending then ({ st with sleepPending := true }, .arm) else (st, .nothing)
    else st.standDown cmd sub

/-- `SleepProtocol_ElapsedTicks`. -/
def sleepProtocolElapsedTicks (now start modulus backstepTol : Nat) : Nat :=
  if now ≥ start then now - start
  else if start - now ≤ backstepTol then 0
  else u32 (now + sub32 modulus start)

/-- The frame asks for a sleep. -/
def SleepProto.Asks (st : SleepProto) (cmd sub : Byte) (openbootPending : Bool) : Prop :=
  cmd = 0xA6 ∧ sub = 0x54 ∧ st.unlocked = true ∧ openbootPending = false

/-- The frame stands a sleep down: it negotiates the protocol anew, or changes the state of the link. -/
def StandsDown (cmd sub : Byte) : Prop := cmd = 0xA6 ∧ sub = 0x56 ∨ sleepProtocolIsStateChanging cmd sub = true

instance (st : SleepProto) (cmd sub : Byte) (openbootPending : Bool) : Decidable (st.Asks cmd sub openbootPending) :=
  inferInstanceAs (Decidable (_ ∧ _))

instance (cmd sub : Byte) : Decidable (StandsDown cmd sub) := inferInstanceAs (Decidable (_ ∨ _))

end OpenController
