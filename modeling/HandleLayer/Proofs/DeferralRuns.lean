import Mathlib.Data.List.Basic
import HandleLayer.Proofs.Completion
import HandleLayer.Proofs.History
import HandleLayer.Scripted

/-!
# Deferred work in runs

A call has put its work off under an operation.  Whatever happens then, the work waits until a
call reports the operation done or the operation is destroyed.  With the first of these calls
the work is done or given up, and it is never heard of again.

## Main definitions

* `System.work`, `System.withDeferred` — what waits for an operation, and the system in which
  something else does.
* `Happening.completes`, `Happening.destroys`, `Happening.putsOff` — calls that report an
  operation done, that name it as one to be destroyed, and that put work off under it.
* `Happening.spares`, `Happening.ends` — calls that leave what waits for an operation alone, and
  calls that are the end of it.
* `System.Awaits`, `System.Forgets` — what asking for the result of an operation comes to,
  while something waits for it and when nothing does.

## Main results

* `System.discreet_run` — **a run that spares an operation is the same whatever waits for it.**
* `deferred_work_completes_once` — **deferred work is done once, when its operation is.**
-/

namespace HandleLayer

variable {σ : Type}

namespace System

/-- What waits for an operation of a device. -/
def work (s : System σ) (k : Nat) (operation : Handle) : Option PendingOperation :=
  (s.kept k).deferred.get? operation

/-- The system in which something else waits for the operations of a device. -/
def withDeferred (k : Nat) (d : DeferredOperations) (s : System σ) : System σ :=
  { s with devices := s.devices.modify k fun device =>
      device.withOwn (device.own.withDeferred d) }

theorem getElem?_withDeferred {s : System σ} {k : Nat} {device : Dispatch Tracked}
    (h : s.devices[k]? = some device) (d : DeferredOperations) :
    (s.withDeferred k d).devices[k]? = some (device.withOwn (device.own.withDeferred d)) := by
  unfold withDeferred
  rw [List.getElem?_modify, h]
  simp

theorem work_of_device {s : System σ} {k : Nat} {device : Dispatch Tracked}
    (h : s.devices[k]? = some device) (operation : Handle) :
    s.work k operation = device.own.deferred.get? operation := by
  rw [work, kept_of_device h]

end System

/-! ### Calls that matter to an operation -/

namespace Happening

/-- Whether a call reports an operation of a device done. -/
def completes (k : Nat) (operation : Handle) (x : Happening) : Bool :=
  x.device == k && x.request.awaits? == some operation && x.outcome.1 == .success

/-- Whether a call names an operation of a device as one to be destroyed. -/
def destroys (k : Nat) (operation : Handle) (x : Happening) : Bool :=
  x.device == k && x.request == .destroy .deferredOperation operation

/-- Whether a call neither reports an operation of a device done nor names it as one to be
destroyed. -/
def spares (k : Nat) (operation : Handle) (x : Happening) : Bool :=
  !(x.completes k operation || x.destroys k operation)

/-- Whether a call is the end of what waits for an operation of a device: it reports the
operation done, or it destroys the operation and is not skipped. -/
def ends (k : Nat) (operation : Handle) (x : Happening) : Bool :=
  x.completes k operation || x.destroys k operation && x.outcome.1 == .success

/-- Whether a call puts work off under an operation of a device. -/
def putsOff (k : Nat) (operation : Handle) (x : Happening) : Bool :=
  x.device == k && x.request.defers? == some operation && x.outcome.1 == .operationDeferred

theorem completes_iff {k : Nat} {operation : Handle} {x : Happening} :
    x.completes k operation = true ↔
      x.device = k ∧ x.request.awaits? = some operation ∧ x.outcome.1 = .success := by
  simp only [completes, Bool.and_eq_true, beq_iff_eq, and_assoc]

theorem destroys_iff {k : Nat} {operation : Handle} {x : Happening} :
    x.destroys k operation = true ↔
      x.device = k ∧ x.request = .destroy .deferredOperation operation := by
  simp only [destroys, Bool.and_eq_true, beq_iff_eq]

theorem putsOff_iff {k : Nat} {operation : Handle} {x : Happening} :
    x.putsOff k operation = true ↔
      x.device = k ∧ x.request.defers? = some operation ∧ x.outcome.1 = .operationDeferred := by
  simp only [putsOff, Bool.and_eq_true, beq_iff_eq, and_assoc]

end Happening

namespace System

variable [NextLayer σ]

/-! ### The same whatever waits -/

/-- Devices come, and none ever goes. -/
theorem length_devices_le_act (s : System σ) (a : Action σ) :
    s.devices.length ≤ (s.act a).devices.length := by
  cases a with
  | callInstance r out => exact Nat.le_refl _
  | callDevice k r out =>
    cases hdevice : s.devices[k]? with
    | none => exact Nat.le_of_eq (by rw [act_of_no_device hdevice])
    | some device =>
      rw [act_of_device hdevice]
      exact Nat.le_of_eq List.length_set.symm
  | createDevice physicalDevice handle table objects =>
    show s.devices.length ≤ (s.devices ++ [_]).length
    rw [List.length_append]
    exact Nat.le_add_right _ _
  | release device kind =>
    cases device with
    | none => exact Nat.le_refl _
    | some k => exact Nat.le_of_eq (List.length_modify _ _ _).symm
  | releaseAll device =>
    cases device with
    | none => exact Nat.le_refl _
    | some k => exact Nat.le_of_eq (List.length_modify _ _ _).symm
  | instruct behaviour => exact Nat.le_refl _
  | moveBelow f => exact Nat.le_refl _

omit [NextLayer σ] in
theorem eq_of_parts {s t : System σ} (hhost : s.host = t.host) (hdevices : s.devices = t.devices)
    (hworld : s.world = t.world) : s = t := by
  cases s
  cases t
  cases hhost
  cases hdevices
  cases hworld
  rfl

omit [NextLayer σ] in
/-- Registries and what waits have nothing to do with each other. -/
theorem modifyRegistry_withDeferred (s : System σ) (device : Option Nat)
    (f : Behaviour → Registry → Registry) (k : Nat) (d : DeferredOperations) :
    (s.withDeferred k d).modifyRegistry device f
      = (s.modifyRegistry device f).withDeferred k d := by
  cases device with
  | none => rfl
  | some k' =>
    refine eq_of_parts rfl ?_ rfl
    unfold modifyRegistry modifyDevice withDeferred
    dsimp only
    by_cases heq : k = k'
    · rw [heq, List.modify_modify_eq, List.modify_modify_eq]
      rfl
    · exact List.modify_modify_ne _ _ _ heq

/-- Calls to other objects do not look at what waits for the operations of a device. -/
theorem act_withDeferred {s : System σ} {a : Action σ} {k : Nat} (hk : k < s.devices.length)
    (ha : ∀ r out, a ≠ .callDevice k r out) (d : DeferredOperations) :
    (s.withDeferred k d).act a = (s.act a).withDeferred k d ∧
      (s.withDeferred k d).happening? a = s.happening? a := by
  cases a with
  | callInstance r out => exact ⟨rfl, rfl⟩
  | callDevice k' r out =>
    have hne : k ≠ k' := fun heq => ha r out (by rw [heq])
    have hsame : (s.withDeferred k d).devices[k']? = s.devices[k']? := by
      unfold withDeferred
      rw [List.getElem?_modify]
      simp [hne]
    cases hdevice : s.devices[k']? with
    | none =>
      rw [hdevice] at hsame
      rw [act_of_no_device hdevice, act_of_no_device hsame, happening?_of_no_device hdevice,
        happening?_of_no_device hsame]
      exact ⟨rfl, rfl⟩
    | some device =>
      rw [hdevice] at hsame
      rw [act_of_device hdevice, act_of_device hsame, happening?_of_device hdevice,
        happening?_of_device hsame]
      refine ⟨eq_of_parts rfl ?_ rfl, rfl⟩
      show (s.devices.modify k _).set k' _ = (s.devices.set k' _).modify k _
      rw [List.set_eq_modify, List.set_eq_modify]
      exact List.modify_modify_ne _ _ _ hne
  | createDevice physicalDevice handle table objects =>
    -- the device that comes is none of those that there were
    have happend : ∀ (f : Dispatch Tracked → Dispatch Tracked) (x : Dispatch Tracked),
        s.devices.modify k f ++ [x] = (s.devices ++ [x]).modify k f := by
      intro f x
      apply List.ext_getElem?
      intro i
      rw [List.getElem?_modify, List.getElem?_append, List.getElem?_append, List.length_modify]
      by_cases hi : i < s.devices.length
      · rw [if_pos hi, if_pos hi, List.getElem?_modify]
      · have hne : k ≠ i := by omega
        simp [hi, hne]
    exact ⟨eq_of_parts rfl (happend _ _) rfl, rfl⟩
  | release device kind => exact ⟨modifyRegistry_withDeferred s device _ k d, rfl⟩
  | releaseAll device => exact ⟨modifyRegistry_withDeferred s device _ k d, rfl⟩
  | instruct behaviour => exact ⟨rfl, rfl⟩
  | moveBelow f => exact ⟨rfl, rfl⟩

variable {k : Nat} {operation : Handle}

/-- A call to the device that spares an operation is discreet about it. -/
theorem discreet_of_spares {s : System σ} {device : Dispatch Tracked} {r : DeviceRequest}
    {out : Outputs} (hdevice : s.devices[k]? = some device)
    (h : ∀ x, s.happening? (.callDevice k r out) = some x → x.spares k operation = true) :
    Device.Discreet operation (Device.perform r out) ⟨device, s.world⟩ := by
  have hnot := h _ (happening?_of_device hdevice r out)
  rw [Happening.spares, Bool.not_eq_true', Bool.or_eq_false_iff] at hnot
  apply Device.discreet_perform
  · intro hr
    exact Bool.eq_false_iff.1 hnot.2 (Happening.destroys_iff.2 ⟨rfl, hr⟩)
  · intro hr hresult
    exact Bool.eq_false_iff.1 hnot.1 (Happening.completes_iff.2 ⟨rfl, hr, hresult⟩)

/-- What waits goes on waiting when a call spares the operation. -/
theorem continues_act {s : System σ} {a : Action σ} {p : PendingOperation}
    (h : ∀ x, s.happening? a = some x → x.spares k operation = true)
    (hp : s.work k operation = some p) :
    ∃ q, (s.act a).work k operation = some q ∧ p.Continues q := by
  by_cases ha : ∃ r out, a = .callDevice k r out
  · obtain ⟨r, out, rfl⟩ := ha
    cases hdevice : s.devices[k]? with
    | none =>
      rw [act_of_no_device hdevice]
      exact ⟨p, hp, .refl p⟩
    | some device =>
      rw [work_of_device hdevice] at hp
      rw [work, kept_of_call hdevice]
      exact (discreet_of_spares hdevice h).continues p hp
  · have hkept : (s.act a).kept k = s.kept k := kept_act fun r out heq => ha ⟨r, out, heq⟩
    rw [work, hkept]
    exact ⟨p, hp, .refl p⟩

/-- An action that spares an operation does the same whatever waits for it. -/
theorem alike_act {s : System σ} {a : Action σ} (hk : k < s.devices.length)
    (h : ∀ x, s.happening? a = some x → x.spares k operation = true) {d : DeferredOperations}
    (hd : (s.kept k).deferred.Alike operation d) :
    ∃ e, ((s.act a).kept k).deferred.Alike operation e ∧
      (s.withDeferred k d).act a = (s.act a).withDeferred k e ∧
      (s.withDeferred k d).happening? a = s.happening? a := by
  by_cases ha : ∃ r out, a = .callDevice k r out
  · obtain ⟨r, out, rfl⟩ := ha
    have hdevice : s.devices[k]? = some s.devices[k] := List.getElem?_eq_getElem hk
    generalize s.devices[k] = device at hdevice
    have hdevice' := getElem?_withDeferred hdevice d
    rw [kept_of_device hdevice] at hd
    obtain ⟨e, he, hrun⟩ := (discreet_of_spares hdevice h).alike d hd
    have hrun' : (Device.perform r out).run
        ⟨device.withOwn (device.own.withDeferred d), s.world⟩ = _ := hrun
    refine ⟨e, by rw [kept_of_call hdevice]; exact he, ?_, ?_⟩
    · have hworld : (s.withDeferred k d).world = s.world := rfl
      rw [act_of_device hdevice, act_of_device hdevice', hworld, hrun']
      refine eq_of_parts rfl ?_ rfl
      show (s.devices.modify k _).set k _ = (s.devices.set k _).modify k _
      rw [List.set_eq_modify, List.set_eq_modify, List.modify_modify_eq, List.modify_modify_eq]
      rfl
    · have hfst : ((Device.perform r out).run
          ⟨device.withOwn (device.own.withDeferred d), (s.withDeferred k d).world⟩).1 = _ :=
        congrArg Prod.fst hrun'
      rw [happening?_of_device hdevice, happening?_of_device hdevice', hfst]
  · have ha' : ∀ r out, a ≠ .callDevice k r out := fun r out heq => ha ⟨r, out, heq⟩
    obtain ⟨hact, hhappening⟩ := act_withDeferred hk ha' d
    exact ⟨d, by rw [kept_act ha']; exact hd, hact, hhappening⟩

/-- What holds of all calls of a run holds of the first one and of the others. -/
theorem forall_history_cons {s : System σ} {a : Action σ} {actions : List (Action σ)}
    {P : Happening → Prop} (h : ∀ x ∈ s.history (a :: actions), P x) :
    (∀ x, s.happening? a = some x → P x) ∧ ∀ x ∈ (s.act a).history actions, P x := by
  refine ⟨fun x hx => h x (List.mem_append_left _ ?_),
    fun x hx => h x (List.mem_append_right _ hx)⟩
  rw [hx]
  exact List.mem_singleton_self x

theorem continues_run {s : System σ} {actions : List (Action σ)} {p : PendingOperation}
    (h : ∀ x ∈ s.history actions, x.spares k operation = true)
    (hp : s.work k operation = some p) :
    ∃ q, (s.run actions).work k operation = some q ∧ p.Continues q := by
  induction actions generalizing s p with
  | nil => exact ⟨p, hp, .refl p⟩
  | cons a actions ih =>
    obtain ⟨hfirst, hrest⟩ := forall_history_cons h
    obtain ⟨p', hp', hcontinues⟩ := continues_act hfirst hp
    obtain ⟨q, hq, hcontinues'⟩ := ih hrest hp'
    exact ⟨q, hq, hcontinues.trans hcontinues'⟩

/-- **A run that spares an operation is the same whatever waits for it.** -/
theorem discreet_run {s : System σ} {actions : List (Action σ)} (hk : k < s.devices.length)
    (h : ∀ x ∈ s.history actions, x.spares k operation = true) {d : DeferredOperations}
    (hd : (s.kept k).deferred.Alike operation d) :
    (∃ e, (s.withDeferred k d).run actions = (s.run actions).withDeferred k e) ∧
      (s.withDeferred k d).history actions = s.history actions := by
  -- from step to step something else may wait, but nothing that makes a difference
  induction actions generalizing s d with
  | nil => exact ⟨⟨d, rfl⟩, rfl⟩
  | cons a actions ih =>
    obtain ⟨hfirst, hrest⟩ := forall_history_cons h
    obtain ⟨e, he, hact, hhappening⟩ := alike_act hk hfirst hd
    have hk' : k < (s.act a).devices.length := Nat.lt_of_lt_of_le hk (s.length_devices_le_act a)
    obtain ⟨hrun, hhistory⟩ := ih hk' hrest he
    have hstep : (s.withDeferred k d).run (a :: actions)
        = ((s.withDeferred k d).act a).run actions := rfl
    refine ⟨?_, ?_⟩
    · rw [hstep, hact]
      exact hrun
    · rw [history, history, hhappening, hact, hhistory]

/-! ### What asking comes to -/

/-- Something waits for an operation of a device.  As long as calls spare the operation, no
object is told of pipelines that are ready; asking for the result is but talk if it is not
success; and if it is, everything that waits is done at once. -/
structure Awaits (s : System σ) (k : Nat) (operation : Handle) (p : PendingOperation) : Prop where
  work : s.work k operation = some p
  mute : ∀ r out x, s.happening? (.callDevice k r out) = some x → x.spares k operation = true →
    ∃ es, (∀ e ∈ es, Event.ready? e ≠ some operation) ∧
      (s.act (.callDevice k r out)).world.events = s.world.events ++ es
  idles : ∀ device r out, s.devices[k]? = some device → r.awaits? = some operation →
    ((Device.perform r out).run ⟨device, s.world⟩).1.1 ≠ .success →
    Layer.Idles ⟨device, s.world⟩ ((Device.perform r out).run ⟨device, s.world⟩).2
  completes : ∀ device r out, s.devices[k]? = some device → r.awaits? = some operation →
    ((Device.perform r out).run ⟨device, s.world⟩).1.1 = .success →
    let p' := p.receiveAll (Device.exchange r ⟨device, s.world⟩).2.late
    ∃ t : Layer Tracked σ, Layer.Idles ⟨device, s.world⟩ t ∧
      t.object.own.deferred.get? operation = some p' ∧
      ((Device.perform r out).run ⟨device, s.world⟩).2
        = (t.complete operation p').see (Device.closing r .success ⟨device, s.world⟩)

/-- Nothing waits for an operation of a device, and asking for its result is but talk. -/
structure Forgets (s : System σ) (k : Nat) (operation : Handle) : Prop where
  work : s.work k operation = none
  idles : ∀ device r out, s.devices[k]? = some device → r.awaits? = some operation →
    Layer.Idles ⟨device, s.world⟩ ((Device.perform r out).run ⟨device, s.world⟩).2

theorem awaits_of_work {s : System σ} {p : PendingOperation}
    (hw : s.world.wrapper.enabled = true) (hp : s.work k operation = some p) :
    s.Awaits k operation p := by
  refine ⟨hp, fun r out x hx hspares => ?_, fun device r out hdevice hr hresult => ?_,
    fun device r out hdevice hr hresult => ?_⟩
  · obtain ⟨device, hdevice, rfl⟩ := Option.map_eq_some_iff.1 hx
    have hdiscreet : Device.Discreet operation (Device.perform r out) ⟨device, s.world⟩ := by
      refine discreet_of_spares hdevice fun y hy => ?_
      rw [hx] at hy
      cases hy
      exact hspares
    rw [act_of_device hdevice]
    exact hdiscreet.mute
  · exact Device.idles_perform_of_awaits hr hw (.inr hresult)
  · rw [work_of_device hdevice] at hp
    exact Device.complete_perform_of_awaits hr hw hresult hp

theorem forgets_of_work {s : System σ} (hw : s.world.wrapper.enabled = true)
    (hnone : s.work k operation = none) : s.Forgets k operation := by
  refine ⟨hnone, fun device r out hdevice hr => ?_⟩
  rw [work_of_device hdevice] at hnone
  exact Device.idles_perform_of_awaits hr hw (.inl hnone)

/-! ### The end of what waits -/

/-- Where nothing waits, nothing waits until a call puts work off. -/
theorem work_act_of_none {s : System σ} {a : Action σ} (hw : s.world.wrapper.enabled = true)
    (hnone : s.work k operation = none)
    (h : ∀ x, s.happening? a = some x → x.putsOff k operation = false) :
    (s.act a).work k operation = none := by
  by_cases ha : ∃ r out, a = .callDevice k r out
  · obtain ⟨r, out, rfl⟩ := ha
    cases hdevice : s.devices[k]? with
    | none =>
      rw [act_of_no_device hdevice]
      exact hnone
    | some device =>
      have hnot := h _ (happening?_of_device hdevice r out)
      rw [work_of_device hdevice] at hnone
      rw [work, kept_of_call hdevice]
      refine Device.get?_perform_of_none hw hnone fun hputs => ?_
      exact Bool.eq_false_iff.1 hnot (Happening.putsOff_iff.2 ⟨rfl, hputs⟩)
  · rw [work, kept_act fun r out heq => ha ⟨r, out, heq⟩]
    exact hnone

theorem work_run_of_none {s : System σ} (hs : s.Sound) {actions : List (Action σ)}
    (hnone : s.work k operation = none)
    (h : ∀ x ∈ s.history actions, x.putsOff k operation = false) :
    (s.run actions).work k operation = none := by
  induction actions generalizing s with
  | nil => exact hnone
  | cons a actions ih =>
    obtain ⟨hfirst, hrest⟩ := forall_history_cons h
    exact ih (hs.act a) (work_act_of_none hs.world.wrapping hnone hfirst) hrest

/-- After the end of what waits nothing does. -/
theorem work_act_of_ends {s : System σ} {a : Action σ} {x : Happening}
    (hw : s.world.wrapper.enabled = true) (hx : s.happening? a = some x)
    (hends : x.ends k operation = true) : (s.act a).work k operation = none := by
  obtain ⟨device, out, rfl, hdevice, houtcome⟩ := exists_of_happening? hx
  rw [Happening.ends, Bool.or_eq_true, Bool.and_eq_true, Happening.completes_iff,
    Happening.destroys_iff] at hends
  rcases hends with ⟨rfl, hr, hresult⟩ | ⟨⟨rfl, hr⟩, -⟩
  · rw [work, kept_of_call hdevice]
    rw [houtcome] at hresult
    cases hp : device.own.deferred.get? operation with
    | none =>
      -- a call that succeeds puts nothing off
      refine Device.get?_perform_of_none hw hp fun hputs => ?_
      rw [hresult] at hputs
      cases hputs.2
    | some p =>
      obtain ⟨t, -, -, hrun⟩ := Device.complete_perform_of_awaits hr hw hresult hp
      rw [hrun]
      refine (DeferredOperations.get?_erase t.object.own.deferred operation operation).trans ?_
      rw [if_pos rfl]
  · rw [work, kept_of_call hdevice, hr]
    exact Device.get?_perform_destroy out _

end System

/-! ### Deferred work -/

variable [NextLayer σ]

/-- **Deferred work is done once, when its operation is.**  Take a system that wraps handles,
whatever has happened to it, and a call that puts its work off under an operation.  Its work
waits after that of earlier calls, and nothing else has come of the call.

As long as no call reports the operation done or names it as one to be destroyed, all that waits
goes on waiting in the same order; everything else is the same whatever waits; and no object is
told of pipelines that are ready.  The first call that reports the operation done does all of it
in order.  After that call, or after one that destroys the operation instead, asking for its
result is but talk until work is put off under it again. -/
theorem deferred_work_completes_once (instanceHandle : Handle) (requested : ApiVersion)
    (settings : Settings) (hwrapping : settings.handleWrapping = true) (table : EntryTable)
    (behaviour : Behaviour) (objects : List ValidationObject) (below : σ)
    (before : List (Action σ)) (k : Nat) (device : Dispatch Tracked) (r : DeviceRequest)
    (operation : Handle) (out : Outputs) :
    let start := System.start instanceHandle requested settings table behaviour objects below
    let s := start.run before
    let call := (Device.perform r out).run ⟨device, s.world⟩
    let s' := s.act (.callDevice k r out)
    let exchange := Device.exchange r ⟨device, s.world⟩
    let p := ((s.work k operation).getD {}).add (r.work exchange.1 exchange.2)
      (r.watchers device.registry.chain)
    s.devices[k]? = some device → r.defers? = some operation → operation ≠ 0 →
    call.1.1 = .operationDeferred →
    Device.PutsOff r operation out ⟨device, s.world⟩ call ∧
      s'.work k operation = some p ∧
      ∀ middle : List (Action σ),
        (∀ x ∈ s'.history middle, x.spares k operation = true) →
        let t := s'.run middle
        (∃ q, p.Continues q ∧ t.Awaits k operation q) ∧
        (∀ d, (s'.kept k).deferred.Alike operation d →
          ((s'.withDeferred k d).run middle).world = t.world ∧
            (s'.withDeferred k d).history middle = s'.history middle) ∧
        ∀ (last : Action σ) (x : Happening), t.happening? last = some x →
          x.ends k operation = true →
          ∀ after : List (Action σ),
            (∀ y ∈ (t.act last).history after, y.putsOff k operation = false) →
            ((t.act last).run after).Forgets k operation := by
  intro start s call s' exchange p hdevice hr hoperation hresult
  have hstart : start.Sound :=
    System.sound_start instanceHandle requested hwrapping table behaviour objects below
  have hs : s.Sound := hstart.run before
  have hs' : s'.Sound := hs.act _
  have hputs := Device.putsOff_perform hr hoperation hs.world.wrapping hresult
  have hwork : s'.work k operation = some p := by
    rw [System.work, System.kept_of_call hdevice, hputs.object]
    refine (DeferredOperations.get?_add device.own.deferred operation operation _ _).trans ?_
    rw [if_pos rfl, ← System.work_of_device hdevice]
  have hk : k < s'.devices.length :=
    Nat.lt_of_lt_of_le (List.getElem?_eq_some_iff.1 hdevice).1 (s.length_devices_le_act _)
  refine ⟨hputs, hwork, fun middle hmiddle => ⟨?_, fun d hd => ?_, ?_⟩⟩
  · obtain ⟨q, hq, hcontinues⟩ := System.continues_run hmiddle hwork
    exact ⟨q, hcontinues, System.awaits_of_work (hs'.run middle).world.wrapping hq⟩
  · obtain ⟨⟨e, hrun⟩, hhistory⟩ := System.discreet_run hk hmiddle hd
    refine ⟨?_, hhistory⟩
    rw [hrun]
    rfl
  · intro last x hx hends after hafter
    have hmid : (s'.run middle).Sound := hs'.run middle
    have hlast : ((s'.run middle).act last).Sound := hmid.act last
    have hnone := System.work_act_of_ends hmid.world.wrapping hx hends
    exact System.forgets_of_work (hlast.run after).world.wrapping
      (System.work_run_of_none hlast hnone hafter)

/-- Two calls put pipelines off under one operation; a query hands them out in order, and a join
before that does not. -/
theorem pipelines_of_two_calls :
    let create (batch : BatchId) : DeviceRequest :=
      .createRayTracingPipelines batch (idAt 0) 0 (.elems [⟨.elems [], none, 0, 0, 0, .ofApp []⟩])
    let out : Outputs := { slots := some [0], chains := [[]] }
    let before : List (Action Scripted) :=
      [.createDevice 0xd000 0xe000 ⟨[.createDeferredOperationKhr, .createRayTracingPipelinesKhr,
          .deferredOperationJoinKhr, .getDeferredOperationResultKhr]⟩ [⟨0, .coreValidation⟩],
        .callDevice 0 (.create .deferredOperation) { slots := some [0] },
        .moveBelow fun b =>
          { b with operation := idAt 0, script := { result := some .operationDeferred } },
        .callDevice 0 (create 1) out]
    let start := System.start 0xa000 0 .default .empty default [] ({} : Scripted)
    let s := start.run before
    let s' := s.act (.callDevice 0 (create 2) out)
    let middle : List (Action Scripted) :=
      [.moveBelow fun b => { b with script := { result := some .incomplete } },
        .callDevice 0 (.joinOperation (idAt 0)) {},
        .moveBelow fun b => { b with script := {} }]
    let t := s'.run middle
    let query : Action Scripted := .callDevice 0 (.queryOperation (idAt 0)) {}
    (Settings.default.handleWrapping = true ∧ idAt 0 ≠ 0 ∧
        (∃ device, s.devices[0]? = some device ∧
          ((Device.perform (create 2) out).run ⟨device, s.world⟩).1.1 = .operationDeferred) ∧
        (∀ x ∈ s'.history middle, x.spares 0 (idAt 0) = true) ∧
        ∃ x, t.happening? query = some x ∧ x.ends 0 (idAt 0) = true) ∧
      (∃ q, t.Awaits 0 (idAt 0) q ∧ q.completions.length = 4) ∧
      t.world.wrapper.map.drawn = 1 ∧
      (t.act query).Forgets 0 (idAt 0) ∧
      (t.act query).world.wrapper.map.unwrap (idAt 1) = some 0x100010 ∧
      (t.act query).world.wrapper.map.unwrap (idAt 2) = some 0x100020 := by
  intro create out before start s s' middle t query
  have hwrapping : Settings.default.handleWrapping = true := by decide +kernel
  have hoperation : idAt 0 ≠ 0 := by decide +kernel
  have hcall : (s.devices[0]?).map (fun device =>
      ((Device.perform (create 2) out).run ⟨device, s.world⟩).1.1) = some .operationDeferred := by
    decide +kernel
  have hmiddle : ∀ x ∈ s'.history middle, x.spares 0 (idAt 0) = true := by decide +kernel
  have hquery : (t.happening? query).map (Happening.ends 0 (idAt 0)) = some true := by
    decide +kernel
  have hwork : (t.work 0 (idAt 0)).map (fun q => q.completions.length) = some 4 := by
    decide +kernel
  have hdrawn : t.world.wrapper.map.drawn = 1 := by decide +kernel
  have hunwrap : (t.act query).world.wrapper.map.unwrap (idAt 1) = some 0x100010 ∧
      (t.act query).world.wrapper.map.unwrap (idAt 2) = some 0x100020 := by decide +kernel
  obtain ⟨device, hdevice, hresult⟩ := Option.map_eq_some_iff.1 hcall
  obtain ⟨x, hx, hends⟩ := Option.map_eq_some_iff.1 hquery
  have hdefers : (create 2).defers? = some (idAt 0) := rfl
  -- the runs are not looked into any more
  clear_value before middle query create out
  obtain ⟨-, -, hruns⟩ := deferred_work_completes_once 0xa000 0 .default hwrapping .empty default []
    ({} : Scripted) before 0 device (create 2) (idAt 0) out hdevice hdefers hoperation hresult
  obtain ⟨⟨q, -, hawaits⟩, -, hafter⟩ := hruns middle hmiddle
  refine ⟨⟨hwrapping, hoperation, ⟨device, hdevice, hresult⟩, hmiddle, x, hx, hends⟩,
    ⟨q, hawaits, ?_⟩, hdrawn, ?_, hunwrap⟩
  · have hlength := hwork
    rw [hawaits.work] at hlength
    exact Option.some.inj hlength
  · exact hafter query x hx hends [] fun y hy => absurd hy List.not_mem_nil

/-- What waits for an operation that is destroyed is not even done when a later query reports
success; and an operation that was done once is done again when further work was put off under
it. -/
theorem work_given_up_and_put_off_again :
    let create : Action Scripted :=
      .callDevice 0
        (.createRayTracingPipelines 1 (idAt 0) 0 (.elems [⟨.elems [], none, 0, 0, 0, .ofApp []⟩]))
        { slots := some [0], chains := [[]] }
    let query : Action Scripted := .callDevice 0 (.queryOperation (idAt 0)) {}
    let answer (result : Result) : Action Scripted :=
      .moveBelow fun b => { b with operation := idAt 0, script := { result := some result } }
    let start := System.start 0xa000 0 .default .empty default [] ({} : Scripted)
    let s := start.run
      [.createDevice 0xd000 0xe000 ⟨[.createDeferredOperationKhr, .createRayTracingPipelinesKhr,
          .destroyDeferredOperationKhr, .getDeferredOperationResultKhr]⟩ [⟨0, .coreValidation⟩],
        .callDevice 0 (.create .deferredOperation) { slots := some [0] },
        answer .operationDeferred, create]
    let destroyed :=
      s.run [.callDevice 0 (.destroy .deferredOperation (idAt 0)) {}, answer .success]
    let done := s.run [answer .success, query]
    let again := done.run [answer .operationDeferred, create, answer .success]
    let isDone (s : System Scripted) : Bool :=
      (s.happening? query).any (Happening.completes 0 (idAt 0))
    let ready (s : System Scripted) : List Handle := s.world.events.filterMap Event.ready?
    (s.work 0 (idAt 0)).isSome = true ∧
      (isDone destroyed = true ∧ ready (destroyed.act query) = [] ∧
        (destroyed.act query).world.wrapper.map.drawn = destroyed.world.wrapper.map.drawn) ∧
      (ready done = [idAt 0] ∧ isDone again = true ∧
        ready (again.act query) = [idAt 0, idAt 0] ∧
        (again.act query).world.wrapper.map.drawn = again.world.wrapper.map.drawn + 1) := by
  decide +kernel

end HandleLayer
