import OpenController.RfSystem

/-!
# The statements of the main-loop functions

With `open RfStatements` the simplifier sees through every function of the RF task to its statements, so that
`Each (Keeps I) p` comes down to what the statements of `p` change.
-/

namespace OpenController

instance : Nonempty Rf := ⟨newKeyboard⟩

/-- The statement keeps an assertion. -/
def Keeps (I : Rf → Prop) (f : Rf → Rf) : Prop := ∀ s, I s → I (f s)

namespace RfStatements

attribute [scoped simp] Keeps whenever Rf.setEvent Rf.out
attribute [scoped simp] rfSetEventAtomic rfStartTaskAtomic rfStopTaskAtomic rfShut rfRx rfSetChannel rfTx RfRadio.tx
  keyboardUartSendStatus keyboardUartSendLed keyboardUartSendBattery
attribute [scoped simp] setState setPairing setConnected clearResponsePending setRxWindow clearRest rfTmr0Stop pficEnableTmr0
  rfConfigure rfConfigureIfNeeded rfStartRx
attribute [scoped simp] restCancel restArmIdle restGoQuiet restEnter enterBondedSearch restProbeStart restProbeEnd
  restPromoteToNormal
attribute [scoped simp] rfSelectHead rfTxResponse rfDoResponseTx sendBeacon rfPairBroadcast startSession announceSession
  rfEnterConnected Rf.noteUse rfPending rfReleaseResponse rfAdvance rfPendingAgain rfHopTick rearmSupervision rfHopOrWait rfConnectedTick
attribute [scoped simp] onRxRestart onPairRxOff onPairTimeout onNotifyLed rfDiscardHidQueue onDiscardHid saveBond dropBondSave
  onRestIdle onRestProbe onRestProbeTimeout onRestStage2 onDisconnect onStart
attribute [scoped simp] rfDropQueueUnlessReselected wakeProbe keepProbe searchBonded rfSelect2G4 rfEnterPairing rfDisconnect
  rfFlushBondSave forgetBond rfClearBond queueReport wakeRest rfQueueHIDReport rfLedResync setTransport takeDown

end RfStatements
end OpenController
