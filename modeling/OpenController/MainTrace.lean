import OpenController.MainLoop

/-!
# What the host asked for

A run of the main loop with its steps, so that what the module does can be held against the frames that the host sent.
-/

namespace OpenController

/-- The steps that a main loop does from a state, and where they lead. -/
inductive MainTrace (board : Board) (m : Main) : List MainOp → Main → Prop where
  | start : MainTrace board m [] m
  | step {ops t u} (op : MainOp) : MainTrace board m ops t → t.updated = false → op.Steps board t u →
      MainTrace board m (ops ++ [op]) u.settle

/-- The command and the first byte of each frame of the host. -/
def hostFrames (ops : List MainOp) : List (Byte × Byte) :=
  ops.filterMap fun op => match op with
    | .call (.frame cmd sub _) => some (cmd, sub)
    | _ => none

/-- The steps of an undisturbed run. -/
def Main.ops (board : Board) : List MainInput → Main → List MainOp
  | [], _ => []
  | i :: is, m => i.op m :: Main.ops board is (i.apply board m)

/-- An undisturbed run is a run. -/
theorem MainTrace.after {board : Board} {m t : Main} {ops : List MainOp} (h : MainTrace board m ops t) {is : List MainInput}
    (hp : t.Plays board (fun _ _ => True) is) : MainTrace board m (ops ++ t.ops board is) (t.after board is) := by
  induction is generalizing t ops with
  | nil => exact (List.append_nil ops).symm ▸ h
  | cons i is ih =>
    obtain ⟨⟨hu, -, hi⟩, hrest⟩ := hp
    have hstep : MainTrace board m (ops ++ [i.op t]) (i.apply board t) := by
      cases i with
      | call c => exact .step (.call c) h hu (Prog.runs_run _ _ _)
      | process => exact .step (.event _ _) h hu ⟨Prog.runs_run _ _ _, Prog.runs_run _ _ _⟩
      | interrupt op => exact .step (.call .other) h hu (.env (.rf (RfOp.Interrupts.interrupt hi)) (.ret () _))
    have hall := ih hstep hrest
    rwa [List.append_assoc] at hall

theorem MainTrace.of_plays {board : Board} {m : Main} {is : List MainInput} (hp : m.Plays board (fun _ _ => True) is) :
    MainTrace board m (m.ops board is) (m.after board is) := MainTrace.start.after hp

/-- What an entry into the bootloader is about: the latch of `A6 81`, the state of `OpenBoot_Service`, whether the update was
requested, and the deep sleeps so far. -/
structure EntryView where
  pending : Bool
  svc : Svc
  updated : Bool
  sleeps : List SleepEntry

def Main.entry (m : Main) : EntryView := ⟨m.openbootEntryPending, m.openboot, m.updated, m.log.sleeps⟩

/-- The frame disarms auto-sleep: it negotiates the protocol anew, or pairs or unpairs. -/
def DisarmsAutosleep (cmd sub : Byte) : Prop := cmd = 0xA6 ∧ (sub = 0x56 ∨ sub = 0x51 ∨ sub = 0x52 ∨ sub = 0x63)

instance (cmd sub : Byte) : Decidable (DisarmsAutosleep cmd sub) := inferInstanceAs (Decidable (_ ∧ _))

/-- Auto-sleep was armed after the protocol was negotiated, and was not disarmed since. -/
def Armed (frames : List (Byte × Byte)) : Prop :=
  ∃ a b, frames = a ++ (0xA6, 0x57) :: b ∧ (0xA6, 0x56) ∈ a ∧ ∀ f ∈ b, ¬DisarmsAutosleep f.1 f.2

/-- What the host negotiated: a sleep is asked for after the negotiation, and the module may sleep of its own accord while auto-sleep
is armed. If `c` the power layer has not heard yet that it was disarmed. -/
structure Main.Negotiated (c : Prop) (frames : List (Byte × Byte)) (m : Main) : Prop where
  unlocked : m.sleepProto.unlocked = true → (0xA6, 0x56) ∈ frames
  pending : m.sleepProto.sleepPending = true → [(0xA6, 0x56), (0xA6, 0x54)].Sublist frames
  request : m.pwr.explicitRequest = true → [(0xA6, 0x56), (0xA6, 0x54)].Sublist frames
  armed : m.sleepProto.autosleep = true → Armed frames
  autosleep : ¬c → m.pwr.autosleep = true → Armed frames

/-- The host has negotiated this sleep: it asked for it, or armed auto-sleep and did not disarm it since. -/
structure SleepEntry.Negotiated (frames : List (Byte × Byte)) (e : SleepEntry) : Prop where
  asked : e.explicit = true → [(0xA6, 0x56), (0xA6, 0x54)].Sublist frames
  armed : e.explicit = false → Armed frames

/-- The `k`-th of the sleeps is entered in this step, after these steps of a run. -/
def EntersSleep (board : Board) (m₀ : Main) (sleeps : List SleepEntry) (k : Nat) (before : List MainOp) (op : MainOp) : Prop :=
  ∃ t u, MainTrace board m₀ before t ∧ op.Steps board t u ∧ t.log.sleeps = sleeps.take k ∧ u.log.sleeps = sleeps.take (k + 1)

/-- No sleep is added, or one that the host has negotiated. -/
def SleepsAs (frames : List (Byte × Byte)) (before after : List SleepEntry) : Prop :=
  after = before ∨ ∃ e : SleepEntry, after = before ++ [e] ∧ e.Negotiated frames

end OpenController
