import OpenController.Lemmas.RfStatements
import OpenController.RfHears

/-!
# The calls of the main loop and their parts

An assertion that the environment, the handler of every event and the functions behind the host's frames keep is kept by every
call of the main loop, so it holds in every state that is reached.
-/

namespace OpenController

open Prog

variable {env : Rf → Rf → Prop} {I : Rf → Prop}

/-- The bond is forgotten, once the link is down. -/
def unpair : RfM Unit := do
  rfDisconnect
  rfClearBond

/-- What the host asks for, but for its reports, has a property that sequences have when their parts do. -/
structure HostParts (K : {α : Type} → RfM α → Prop) : Prop extends Composes K where
  out : ∀ o, K (.modify (·.out o) : RfM Unit)
  transport : ∀ is2g4, K (setTransport is2g4)
  drop : K rfDropQueueUnlessReselected
  select : K rfSelect2G4
  pair : K rfEnterPairing
  disconnect : K rfDisconnect
  unpair : K unpair

/-- What the host asks for keeps an assertion. -/
structure HostKeep (env : Rf → Rf → Prop) (I : Rf → Prop) : Prop where
  stable : Stable env I
  out : ∀ o, Keeps I (·.out o)
  transport : ∀ is2g4, Kept env I (setTransport is2g4)
  drop : Kept env I rfDropQueueUnlessReselected
  select : Kept env I rfSelect2G4
  pair : Kept env I rfEnterPairing
  disconnect : Kept env I rfDisconnect
  unpair : Kept env I unpair
  report : ∀ r, Kept env I (rfQueueHIDReport r)

/-- The parts of the calls keep an assertion. -/
structure PartsKeep (env : Rf → Rf → Prop) (I : Rf → Prop) : Prop extends HostKeep env I where
  ledResync : Kept env I rfLedResync
  flush : Kept env I rfFlushBondSave
  process : Kept env I tmosProcess
  tick : Kept env I rfConnectedTick

/-- A pass of TMOS keeps what taking an event and handling it keep. -/
theorem kept_tmosProcess (hst : Stable env I)
    (take : Keeps I fun s => { s with tmos := s.tmos.next.elim s.tmos s.tmos.take })
    (event : ∀ e, Kept env I (rfProcessEvent e)) : Kept env I tmosProcess := by
  have htake : Kept env I (.stmt (fun s => { s with tmos := s.tmos.next.elim s.tmos s.tmos.take }) fun s => pure s.tmos.next) :=
    Triple.stmt hst fun s hs => Triple.pure hst fun _ ht => ht ▸ take s hs
  refine htake.bind fun next => ?_
  cases next with
  | none => exact Kept.pure hst ()
  | some e => exact event e

/-- A handler that runs in one state of the link keeps an assertion, if it does in that state. -/
theorem kept_inState (hst : Stable env I) (henv : ∀ s t, env s t → t.state = s.state) {st : RfState} {p : RfM Unit}
    (hp : Triple env (fun s => I s ∧ s.state = st) p fun _ => I) : Kept env I (do
      let state ← .read fun s => s.state
      whenever (state = st) p) := by
  have hstate : Triple env I (.read fun s => s.state) fun state s => I s ∧ (state = st → s.state = st) :=
    Triple.read hst (fun _ s t hi hs => ⟨hst s t hi hs.1, fun he => (henv s t hi).trans (hs.2 he)⟩) fun _ hs => ⟨hs, id⟩
  refine hstate.bind fun state => Triple.ite (fun he => ?_) fun _ => Triple.pure hst fun _ hs => hs.1
  exact hp.conseq (fun s hs => ⟨hs.1, hs.2 he⟩) fun _ _ hs => hs

/-- A command has the property of the functions it calls. -/
theorem HostParts.handleCommand {K : {α : Type} → RfM α → Prop} (h : HostParts K) (sub : Byte) : K (handleCommand sub) := by
  have status (b : Byte) : K (keyboardUartSendStatus b) := h.out _
  have thenUnpair {q : RfM Unit} (hq : K q) : K (do
      rfDisconnect
      rfClearBond
      q) := by
    have hu : K (OpenController.unpair >>= fun _ => q) := h.bind h.unpair fun _ => hq
    rwa [OpenController.unpair, bind_bind] at hu
  unfold OpenController.handleCommand
  refine ite_of (fun _ => ?_) fun _ => ite_of (fun _ => ?_) fun _ => ite_of (fun _ => ?_) fun _ => ite_of (fun _ => ?_) fun _ =>
    ite_of (fun _ => ?_) fun _ => ite_of (fun _ => h.out _) fun _ => ite_of (fun _ => ?_) fun _ => h.pure ()
  · refine h.bind (h.transport _) fun _ => h.bind h.disconnect fun _ => h.bind h.drop fun _ => ?_
    exact h.bind (status _) fun _ => status _
  · exact h.bind (h.transport _) fun _ => h.bind h.select fun _ => h.bind (status _) fun _ => status _
  · refine h.bind (h.transport _) fun _ => h.bind h.disconnect fun _ => h.bind h.drop fun _ => ?_
    exact h.bind (status _) fun _ => h.bind (status _) fun _ => status _
  · refine h.bind (h.read _) fun is2g4 => ite_of (fun _ => h.bind (h.read _) fun valid => ?_) fun _ => h.pure ()
    refine ite_of (fun _ => status _) fun _ => h.bind h.pair fun entered => ?_
    exact ite_of (fun _ => h.bind (status _) fun _ => status _) fun _ => status _
  · exact thenUnpair (status _)
  · refine h.bind (h.transport _) fun _ => h.bind (h.read _) fun valid => ite_of (fun _ => status _) fun _ => ?_
    exact thenUnpair (h.bind h.pair fun _ => h.bind (status _) fun _ => status _)

namespace HostKeep

variable (h : HostKeep env I)
include h

theorem whenever {c : Prop} [Decidable c] {p : RfM Unit} (hp : Kept env I p) : Kept env I (whenever c p) :=
  Kept.ite (fun _ => hp) fun _ => Kept.pure h.stable ()

theorem parts : HostParts fun p => Kept env I p where
  toComposes := Kept.composes h.stable
  out o := Kept.modify h.stable (h.out o)
  transport := h.transport
  drop := h.drop
  select := h.select
  pair := h.pair
  disconnect := h.disconnect
  unpair := h.unpair

theorem handleCommand (sub : Byte) : Kept env I (handleCommand sub) := h.parts.handleCommand sub

/-- A frame of the host keeps what the functions it calls keep. -/
theorem frame (cmd sub : Byte) (payload : Report) : Kept env I (handleUartFrame cmd sub payload) :=
  Kept.ite (fun _ => h.report payload) fun _ => Kept.ite (fun _ => h.handleCommand sub) fun _ => Kept.pure h.stable ()

end HostKeep

/-- Every call keeps what its parts keep. -/
theorem PartsKeep.program (h : PartsKeep env I) (call : RfCall) : Kept env I call.program := by
  cases call with
  | frame cmd sub payload => exact h.frame cmd sub payload
  | process => exact h.process
  | connectedTick => exact h.tick
  | ledResync => exact h.ledResync
  | quiesce => exact h.flush.bind fun _ => h.disconnect
  | other => exact Kept.pure h.stable ()

/-- What the parts of the calls keep holds between any two calls. -/
theorem PartsKeep.reach (h : PartsKeep env I) (boot : ∀ s, RfBooted s → I s) {s : Rf}
    (hs : Reach RfBooted (fun (call : RfCall) s t => Prog.Runs env call.program s () t) s) : I s :=
  hs.invariant boot fun call s t _ hi hr => h.program call s () t hi hr

end OpenController
