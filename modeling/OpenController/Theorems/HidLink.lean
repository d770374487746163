import OpenController.Lemmas.HidLinkQueue
import OpenController.Lib.Repeats

/-!
# Delivery of the reports

What the dongle accepts of a keyboard, over any number of sessions, whatever polls and responses are lost and transmissions fail, as
long as no response is chosen while the dongle may have heard the one before it: between two choices a poll is caught. In one session
no entry is accepted twice, and across sessions at most the head of the FIFO is sent again. `acked_were_accepted_false` is a run in
which a response is chosen twice, and a report is retired that the dongle never accepted.
-/

namespace OpenController

open Prog RfStatements

variable {w w' : HidLink} {s t : Rf}

/-- Every entry that an acknowledgement retired was accepted by the dongle, in its session. -/
theorem acked_were_accepted (h : LinkReach w) (hw : w.twice = false) : ∀ f ∈ w.rf.log.retired, f ∈ w.carried :=
  ((linkOk_reach h).deliveries hw).retired

/-- The dongle accepts reports that entered the FIFO, in their order, and in one session none twice. -/
theorem accepted_in_order (h : LinkReach w) (hw : w.twice = false) :
    w.dongle.reports = w.carried.map (·.report.toList) ∧ w.carried.Pairwise HidFrame.Before ∧
      ∀ f ∈ w.carried, f.entry ≤ w.rf.log.passed ∧ w.rf.log.entered[f.entry]? = some f.report := by
  have hd := (linkOk_reach h).deliveries hw
  exact ⟨hd.reports, hd.order, fun f hf => ⟨(hd.entries f hf).entry, (hd.entries f hf).report⟩⟩

/-! ## Nothing is left out -/

/-- As long as nothing was discarded, the dongle has accepted all entries that left the FIFO, and of those in it none, or the head:
each at least once, in their order. -/
theorem accepted_repeat_entered (h : LinkReach w) (hw : w.twice = false) (hkept : w.rf.log.passed = w.rf.log.retired.length) :
    ∃ n, w.rf.log.passed ≤ n ∧ n ≤ w.rf.log.passed + 1 ∧ n ≤ w.rf.log.entered.length ∧
      Repeats ((w.rf.log.entered.take n).map (·.toList)) w.dongle.reports := by
  have hd := (linkOk_reach h).deliveries hw
  have hlen := (linkOk_reach h).filed.passed_le
  have hold : ∀ k < w.rf.log.passed, k ∈ w.carried.map (·.entry) := by
    intro k hk
    have hmem : k ∈ w.rf.log.retired.map (·.entry) := by
      rw [(retired_reach h).all hkept]
      exact List.mem_range.mpr hk
    obtain ⟨f, hf, rfl⟩ := List.mem_map.mp hmem
    exact List.mem_map_of_mem (hd.retired f hf)
  have hle : ∀ k ∈ w.carried.map (·.entry), k ≤ w.rf.log.passed := by
    intro k hk
    obtain ⟨f, hf, rfl⟩ := List.mem_map.mp hk
    exact (hd.entries f hf).entry
  have hsorted : (w.carried.map (·.entry)).Pairwise (· ≤ ·) :=
    List.pairwise_map.mpr (hd.order.imp fun hab => hab.entry)
  -- the numbers of the entries say which reports they were
  have hreports {n : Nat} (hn : n ≤ w.rf.log.entered.length) (hr : Repeats (List.range n) (w.carried.map (·.entry))) :
      Repeats ((w.rf.log.entered.take n).map (·.toList)) w.dongle.reports := by
    have hmap := hr.map fun k => (w.rf.log.entered.getD k (Vector.replicate 8 0)).toList
    have htake : (List.range n).map (fun k => (w.rf.log.entered.getD k (Vector.replicate 8 0)).toList) =
        (w.rf.log.entered.take n).map (·.toList) := by
      refine List.ext_getElem (by simp [hn]) fun k hk _ => ?_
      have hk' : k < w.rf.log.entered.length := by simp at hk; omega
      simp [List.getD, hk']
    have hcarried : (w.carried.map (·.entry)).map (fun k => (w.rf.log.entered.getD k (Vector.replicate 8 0)).toList) =
        w.dongle.reports := by
      rw [hd.reports, List.map_map]
      refine List.map_congr_left fun f hf => ?_
      simp [List.getD, (hd.entries f hf).report]
    rwa [htake, hcarried] at hmap
  by_cases hhead : w.rf.log.passed ∈ w.carried.map (·.entry)
  · obtain ⟨f, hf, hfe⟩ := List.mem_map.mp hhead
    have hlt := (List.getElem?_eq_some_iff.mp (hd.entries f hf).report).1
    rw [hfe] at hlt
    refine ⟨w.rf.log.passed + 1, Nat.le_succ _, Nat.le_refl _, hlt, hreports hlt ?_⟩
    refine Repeats.range hsorted (fun k hk => Nat.lt_succ_of_le (hle k hk)) fun k hk => ?_
    rcases Nat.lt_succ_iff_lt_or_eq.mp hk with hk | rfl
    · exact hold k hk
    · exact hhead
  · refine ⟨w.rf.log.passed, Nat.le_refl _, Nat.le_succ _, hlen, hreports hlen (Repeats.range hsorted (fun k hk => ?_) hold)⟩
    exact Nat.lt_of_le_of_ne (hle k hk) fun he => hhead (he ▸ hk)

/-- So no key is stuck: once the FIFO is empty, the report accepted last is the last one of the host. -/
theorem accepted_last (h : LinkReach w) (hw : w.twice = false) (hkept : w.rf.log.passed = w.rf.log.retired.length)
    (hempty : w.rf.hid.tail = w.rf.hid.head) : w.dongle.reports.getLast? = w.offered.map (·.toList) := by
  obtain ⟨n, hle, _, hn, hrepeats⟩ := accepted_repeat_entered h hw hkept
  have hfiled := (linkOk_reach h).filed
  have hcount : w.rf.hid.count = 0 := by
    have := hfiled.inOrder.tail_lt
    rw [RfHid.count, sub8, hempty]
    omega
  have hlen := hfiled.length
  obtain rfl : n = w.rf.log.entered.length := by omega
  rw [hrepeats.getLast?, List.take_length, List.getLast?_map, (newest_reach h).entered]

/-! ## Runs -/

/-- What happens on the link: something happens to the RF task, or the dongle hears a response. -/
inductive LinkOp where
  | rf (op : RfOp)
  | hear

namespace HidLink

/-- The state after it happened. -/
def apply (op : LinkOp) (w : HidLink) : HidLink :=
  match op with
  | .hear => w.air.elim w fun r => w.hear r
  | .rf op =>
    match op.call, op with
    | some call, _ => (call.program.zoom rf watch).exec (w.begin call)
    | none, .callback .rxData rsr (some buf) =>
      if rsr = 0 ∧ w.rf.CatchesPoll buf then w.poll buf else { w with rf := w.rf.rf2g4StatusCallBack .rxData rsr (some buf) }
    | none, op => { w with rf := op.apply w.rf }

/-- It can happen: a packet comes while the radio listens, a poll only from the dongle, and a transmission ends while the radio is
live. -/
def Hears (w : HidLink) : LinkOp → Prop
  | .hear => w.air.isSome = true
  | .rf (.callback .rxData rsr (some buf)) =>
    w.rf.radio.receiving = true ∧ (rsr = 0 → w.rf.CatchesPoll buf → ackBit (buf 2) = w.dongle.ctrl)
  | .rf (.callback .txFinish _ _) => w.rf.radio.shut = false
  | .rf (.callback ..) => False
  | .rf _ => True

/-- It can happen, throughout a run. -/
def HearsRun (w : HidLink) : List LinkOp → Prop
  | [] => True
  | op :: ops => w.Hears op ∧ (w.apply op).HearsRun ops

/-- The state after a run. -/
def after (w : HidLink) (ops : List LinkOp) : HidLink := ops.foldl (fun w op => w.apply op) w

instance (w : HidLink) (op : LinkOp) : Decidable (w.Hears op) :=
  match op with
  | .hear => inferInstanceAs (Decidable (w.air.isSome = true))
  | .rf (.callback .rxData rsr (some buf)) =>
    inferInstanceAs (Decidable (w.rf.radio.receiving = true ∧ (rsr = 0 → w.rf.CatchesPoll buf → ackBit (buf 2) = w.dongle.ctrl)))
  | .rf (.callback .txFinish _ none) | .rf (.callback .txFinish _ (some _)) => inferInstanceAs (Decidable (w.rf.radio.shut = false))
  | .rf (.callback .rxData _ none) | .rf (.callback .txFail _ none) | .rf (.callback .txFail _ (some _))
  | .rf (.callback .other _ none) | .rf (.callback .other _ (some _)) => instDecidableFalse
  | .rf (.frame ..) | .rf .process | .rf .connectedTick | .rf .tmr0Cycle | .rf .tmr0Irq | .rf (.expire _) | .rf (.advance _)
  | .rf (.hardware _) | .rf .ledResync | .rf .quiesce => instDecidableTrue

instance decHearsRun (w : HidLink) : (ops : List LinkOp) → Decidable (w.HearsRun ops)
  | [] => isTrue trivial
  | op :: ops => @instDecidableAnd _ _ _ (decHearsRun (w.apply op) ops)

theorem hears_apply {op : LinkOp} (h : LinkReach w) (hh : w.Hears op) : LinkReach (w.apply op) := by
  have call (c : RfCall) : LinkReach ((c.program.zoom rf watch).exec (w.begin c)) := .step c h (runs_run _ _ _)
  have between {w' : HidLink} (hi : LinkHears w w') : LinkReach w' := .step .other h (.env hi (.ret () _))
  cases op with
  | hear =>
    obtain ⟨r, hr⟩ := Option.isSome_iff_exists.mp hh
    have happly : w.apply .hear = w.hear r := by rw [apply, hr]; rfl
    exact happly ▸ between (.hear hr)
  | rf op =>
    cases op with
    | frame cmd sub payload => exact call _
    | process => exact call _
    | connectedTick => exact call _
    | ledResync => exact call _
    | quiesce => exact call _
    | tmr0Cycle => exact between (.other (.tmr0Cycle w.rf))
    | tmr0Irq => exact between (.other (.tmr0Irq w.rf))
    | expire e => exact between (.other (.expire w.rf e))
    | advance ticks => exact between (.other (.advance w.rf ticks))
    | hardware hw => exact between (.other (.hardware w.rf hw))
    | callback sta rsr rxBuf =>
      cases sta with
      | rxData =>
        cases rxBuf with
        | none => exact hh.elim
        | some buf =>
          by_cases hpoll : rsr = 0 ∧ w.rf.CatchesPoll buf
          · have happly : w.apply (.rf (.callback .rxData rsr (some buf))) = w.poll buf := if_pos hpoll
            exact happly ▸ between (.poll buf hh.1 hpoll.2 (hh.2 hpoll.1 hpoll.2))
          · have happly : w.apply (.rf (.callback .rxData rsr (some buf))) =
                { w with rf := w.rf.rf2g4StatusCallBack .rxData rsr (some buf) } := if_neg hpoll
            exact happly ▸ between (.other (.packet rsr buf hh.1 fun hrsr hc => hpoll ⟨hrsr, hc⟩))
      | txFinish => exact between (.other (.status .txFinish rsr rxBuf hh (fun hs => absurd hs (by decide))))
      | txFail => exact hh.elim
      | other => exact hh.elim

theorem hears_after {ops : List LinkOp} (h : LinkReach w) (hh : w.HearsRun ops) : LinkReach (w.after ops) := by
  induction ops generalizing w with
  | nil => exact h
  | cons op ops ih => exact ih (hears_apply h hh.1) hh.2

end HidLink

/-- What happens to the RF task alone. -/
def rfOps (ops : List RfOp) : List LinkOp := ops.map .rf

/-- A poll is caught, and its response is on the air. -/
def pollAndAnswer (ctrl : Byte) : List LinkOp := rfOps [.poll ctrl, .tmr0Cycle, .tmr0Irq, .process]

/-- The transmission ends, and the radio listens. -/
def listenAgain : List LinkOp := rfOps [.txFinish, .process]

/-- A session, and a key that was pressed and released. -/
def hidPressRelease : HidLink :=
  (HidLink.start newKeyboard).after (rfOps (connectUp ++ [.report (Vector.replicate 8 4), .report (Vector.replicate 8 0)]))

theorem linkReach_hidPressRelease : LinkReach hidPressRelease :=
  HidLink.hears_after (.init ⟨_, ⟨_, _, _, _, rfl⟩, rfl⟩) (by decide +kernel)

/-- The dongle does not hear the press, hears it when it is sent again, and hears the release: the acknowledgement of the release
comes with the poll after. -/
def lostOnce : List LinkOp :=
  pollAndAnswer 0 ++ listenAgain ++ pollAndAnswer 0 ++ [.hear] ++ listenAgain ++ pollAndAnswer 1 ++ [.hear] ++ listenAgain ++
    rfOps [.poll 0]

/-- It is acknowledged in time, and every entry that was retired was accepted. -/
theorem acked_were_accepted_lost : (hidPressRelease.after lostOnce).rf.log.retired.length = 2 ∧
    ∀ f ∈ (hidPressRelease.after lostOnce).rf.log.retired, f ∈ (hidPressRelease.after lostOnce).carried :=
  ⟨by decide +kernel, acked_were_accepted (HidLink.hears_after linkReach_hidPressRelease (by decide +kernel)) (by decide +kernel)⟩

/-- The dongle accepts the press, but its acknowledgement is lost, and the supervision time runs out. In the next session the press
is sent again, and then the release. -/
def sessionLost : List LinkOp :=
  pollAndAnswer 0 ++ [.hear] ++ listenAgain ++
    rfOps [.expire .disconnect, .process, .process, .command 0x30, .process, .txFinish, .process, .offer, .process] ++
    pollAndAnswer 0 ++ [.hear] ++ listenAgain ++ pollAndAnswer 1 ++ [.hear] ++ listenAgain ++ rfOps [.poll 0]

/-- In each session it is accepted once. -/
theorem accepted_in_order_sessions :
    (hidPressRelease.after sessionLost).carried.map (fun f => (f.session, f.entry)) = [(1, 0), (2, 0), (2, 1)] ∧
      (hidPressRelease.after sessionLost).carried.Pairwise HidFrame.Before :=
  ⟨by decide +kernel,
    (accepted_in_order (HidLink.hears_after linkReach_hidPressRelease (by decide +kernel)) (by decide +kernel)).2.1⟩

/-- The dongle has seen the press twice, and everything that entered. -/
theorem accepted_repeat_entered_sessions :
    (hidPressRelease.after sessionLost).dongle.reports = [List.replicate 8 4, List.replicate 8 4, List.replicate 8 0] ∧
      ∃ n, 2 ≤ n ∧ Repeats (((hidPressRelease.after sessionLost).rf.log.entered.take n).map (·.toList))
        (hidPressRelease.after sessionLost).dongle.reports := by
  refine ⟨by decide +kernel, ?_⟩
  have hreach : LinkReach (hidPressRelease.after sessionLost) :=
    HidLink.hears_after linkReach_hidPressRelease (by decide +kernel)
  obtain ⟨n, hn, _, _, hrepeats⟩ := accepted_repeat_entered hreach (by decide +kernel) (by decide +kernel)
  exact ⟨n, Nat.le_trans (by decide +kernel) hn, hrepeats⟩

/-- The release is what it saw last. -/
theorem accepted_last_sessions :
    (hidPressRelease.after sessionLost).dongle.reports.getLast? = some (List.replicate 8 0) :=
  (accepted_last (HidLink.hears_after linkReach_hidPressRelease (by decide +kernel)) (by decide +kernel) (by decide +kernel)
    (by decide +kernel)).trans (by decide +kernel)

/-- Two polls are caught before the first is answered. The dongle hears the first answer, which is empty. A key is pressed, and the
second answer carries the press with the same sequence bit: the dongle drops it, and the next poll retires it. -/
def answeredTwice : List LinkOp :=
  rfOps (connectUp ++ [.poll 0, .tmr0Cycle, .tmr0Irq, .poll 0, .process]) ++ [.hear] ++
    rfOps [.report (Vector.replicate 8 4), .tmr0Cycle, .tmr0Irq, .process, .txFinish, .process, .poll 1]

/-- A report is retired that the dongle never accepted: a response was chosen twice. -/
theorem acked_were_accepted_false : ∃ w, LinkReach w ∧ w.rf.log.retired = [⟨1, 0, Vector.replicate 8 4⟩] ∧ w.carried = [] := by
  have hstart : LinkReach (.start newKeyboard) := .init ⟨_, ⟨_, _, _, _, rfl⟩, rfl⟩
  have hreach : LinkReach ((HidLink.start newKeyboard).after answeredTwice) := HidLink.hears_after hstart (by decide +kernel)
  exact ⟨_, hreach, by decide +kernel, by decide +kernel⟩

end OpenController
