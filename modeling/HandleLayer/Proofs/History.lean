import HandleLayer.Proofs.Ledger
import HandleLayer.Proofs.LifetimeRuns

/-!
# Histories

What has come of the calls of a run is its history.  Rules for applications look back on
it: which handles an application has got, and from which call.

## Main definitions

* `Happening`, `System.history` — a call to a device with what has come of it, and all the
  calls of a run.
* `Lasts` — what a call has brought about and no call since has undone.
* `System.abides` — whether all that happens keeps to a rule.
* `System.kept` — what is kept for one of the devices.

## Main results

* `System.history_append` — the history of a run that goes on.
* `System.kept_act` — what is kept for devices changes by calls to them only.
-/

namespace HandleLayer

/-- A call to a device, with what has come of it. -/
structure Happening where
  device : Nat
  request : DeviceRequest
  outcome : Outcome
  deriving DecidableEq

/-! ### What lasts -/

/-- One of the calls satisfies `P`, and no later one satisfies `Q`. -/
def Lasts (P Q : Happening → Prop) (H : List Happening) : Prop :=
  ∃ before x after, H = before ++ x :: after ∧ P x ∧ ∀ y ∈ after, ¬ Q y

section Lasts

variable {P Q : Happening → Prop} {H : List Happening} {x : Happening}

theorem not_lasts_nil : ¬ Lasts P Q [] := by
  rintro ⟨before, x, after, hH, -⟩
  simp at hH

/-- One more call brings it about, or leaves it as it is. -/
theorem lasts_concat : Lasts P Q (H ++ [x]) ↔ P x ∨ ¬ Q x ∧ Lasts P Q H := by
  constructor
  · rintro ⟨before, y, after, hH, hy, hafter⟩
    rcases after.eq_nil_or_concat with rfl | ⟨after, z, rfl⟩
    · obtain ⟨-, hlast⟩ := List.append_inj' hH rfl
      obtain rfl : x = y := List.head_eq_of_cons_eq hlast
      exact .inl hy
    · have hH' : H ++ [x] = (before ++ y :: after) ++ [z] := by
        rw [hH]
        simp
      obtain ⟨rfl, hlast⟩ := List.append_inj' hH' rfl
      obtain rfl : x = z := List.head_eq_of_cons_eq hlast
      refine .inr ⟨hafter x (by simp), before, y, after, rfl, hy, fun w hw => hafter w ?_⟩
      simp [hw]
  · rintro (hx | ⟨hx, before, y, after, rfl, hy, hafter⟩)
    · exact ⟨H, x, [], rfl, hx, fun _ hy => absurd hy List.not_mem_nil⟩
    · refine ⟨before, y, after ++ [x], by simp, hy, fun z hz => ?_⟩
      rcases List.mem_append.1 hz with hz | hz
      · exact hafter z hz
      · rw [List.mem_singleton.1 hz]
        exact hx

end Lasts

namespace System

variable {σ : Type}

/-! ### What is kept for a device -/

/-- What is kept for the device with this number; nothing, if there is none. -/
def kept (s : System σ) (k : Nat) : Tracked := ((s.devices[k]?).map Dispatch.own).getD .empty

theorem kept_of_device {s : System σ} {k : Nat} {device : Dispatch Tracked}
    (h : s.devices[k]? = some device) : s.kept k = device.own := by
  unfold kept
  rw [h]
  rfl

theorem kept_modifyRegistry (s : System σ) (device : Option Nat)
    (f : Behaviour → Registry → Registry) (k : Nat) :
    (s.modifyRegistry device f).kept k = s.kept k := by
  cases device with
  | none => rfl
  | some k' =>
    unfold modifyRegistry modifyDevice kept
    rw [List.getElem?_modify]
    cases s.devices[k]? with
    | none => rfl
    | some device =>
      by_cases heq : k' = k
      · simp [heq]
      · simp [heq]

variable [NextLayer σ]

/-- A call to a device that there is. -/
theorem act_of_device {s : System σ} {k : Nat} {device : Dispatch Tracked}
    (h : s.devices[k]? = some device) (r : DeviceRequest) (out : Outputs) :
    let u := (Device.perform r out).run ⟨device, s.world⟩
    s.act (.callDevice k r out)
      = { s with devices := s.devices.set k u.2.object, world := u.2.world } := by
  intro u
  rw [act_callDevice]
  unfold onDevice
  rw [h]
  rfl

/-- A call to a device that there is not comes to nothing. -/
theorem act_of_no_device {s : System σ} {k : Nat} (h : s.devices[k]? = none)
    (r : DeviceRequest) (out : Outputs) : s.act (.callDevice k r out) = s := by
  rw [act_callDevice]
  unfold onDevice
  rw [h]
  rfl

/-- A call changes what is kept for its own device. -/
theorem kept_of_call {s : System σ} {k : Nat} {device : Dispatch Tracked}
    (h : s.devices[k]? = some device) (r : DeviceRequest) (out : Outputs) :
    (s.act (.callDevice k r out)).kept k
      = ((Device.perform r out).run ⟨device, s.world⟩).2.object.own := by
  have hk : k < s.devices.length := (List.getElem?_eq_some_iff.1 h).1
  rw [act_of_device h]
  unfold kept
  rw [List.getElem?_set_self hk]
  rfl

/-- **What is kept for a device is changed by calls to it**, and by nothing else. -/
theorem kept_act {s : System σ} {a : Action σ} {k : Nat}
    (ha : ∀ r out, a ≠ .callDevice k r out) : (s.act a).kept k = s.kept k := by
  cases a with
  | callInstance r out => rfl
  | callDevice k' r out =>
    have hne : k' ≠ k := fun heq => ha r out (by rw [heq])
    cases hdevice : s.devices[k']? with
    | none => rw [act_of_no_device hdevice]
    | some device =>
      rw [act_of_device hdevice]
      unfold kept
      rw [List.getElem?_set_ne hne]
  | createDevice physicalDevice handle table objects =>
    have hown := (Instance.run_startDevice physicalDevice handle table objects
      ⟨s.host, s.world⟩).1
    -- the new device comes last, and nothing is kept for it yet
    show (((s.devices ++ [_])[k]?).map Dispatch.own).getD .empty = s.kept k
    unfold kept
    rcases Nat.lt_trichotomy k s.devices.length with hlt | heq | hgt
    · rw [List.getElem?_append_left hlt]
    · rw [heq, List.getElem?_append_right (Nat.le_refl _), Nat.sub_self,
        List.getElem?_eq_none (Nat.le_refl _)]
      exact hown
    · rw [List.getElem?_eq_none (by simp; omega), List.getElem?_eq_none (by omega)]
  | release device kind => exact kept_modifyRegistry s device _ k
  | releaseAll device => exact kept_modifyRegistry s device _ k
  | instruct behaviour => rfl
  | moveBelow f => rfl

/-! ### Calls with their outcomes -/

/-- The call to a device that an action is, if there is the device. -/
def happening? (s : System σ) : Action σ → Option Happening
  | .callDevice k r out => (s.devices[k]?).map fun device =>
    ⟨k, r, ((Device.perform r out).run ⟨device, s.world⟩).1⟩
  | _ => none

/-- The calls to devices that are made when all of this happens in turn. -/
def history (s : System σ) : List (Action σ) → List Happening
  | [] => []
  | a :: actions => (s.happening? a).toList ++ (s.act a).history actions

theorem history_append (s : System σ) (actions actions' : List (Action σ)) :
    s.history (actions ++ actions')
      = s.history actions ++ (s.run actions).history actions' := by
  induction actions generalizing s with
  | nil => rfl
  | cons a actions ih =>
    have htail := ih (s.act a)
    rw [List.cons_append, history, history, htail, List.append_assoc]
    rfl

theorem happening?_of_device {s : System σ} {k : Nat} {device : Dispatch Tracked}
    (h : s.devices[k]? = some device) (r : DeviceRequest) (out : Outputs) :
    s.happening? (.callDevice k r out)
      = some ⟨k, r, ((Device.perform r out).run ⟨device, s.world⟩).1⟩ := by
  show Option.map _ s.devices[k]? = _
  rw [h]
  rfl

theorem happening?_of_no_device {s : System σ} {k : Nat} (h : s.devices[k]? = none)
    (r : DeviceRequest) (out : Outputs) : s.happening? (.callDevice k r out) = none := by
  show Option.map _ s.devices[k]? = _
  rw [h]
  rfl

/-- A call to a device that there is, and what has come of it. -/
theorem exists_of_happening? {s : System σ} {a : Action σ} {x : Happening}
    (h : s.happening? a = some x) :
    ∃ device out, a = .callDevice x.device x.request out ∧
      s.devices[x.device]? = some device ∧
      x.outcome = ((Device.perform x.request out).run ⟨device, s.world⟩).1 := by
  cases a with
  | callDevice k r out =>
    obtain ⟨device, hdevice, rfl⟩ := Option.map_eq_some_iff.1 h
    exact ⟨device, out, rfl, hdevice, rfl⟩
  | _ => cases h

/-- Only what happens is in the history. -/
theorem exists_of_mem_history {s : System σ} {actions : List (Action σ)} {x : Happening}
    (hx : x ∈ s.history actions) : ∃ out, .callDevice x.device x.request out ∈ actions := by
  induction actions generalizing s with
  | nil => exact absurd hx List.not_mem_nil
  | cons a actions ih =>
    rw [history, List.mem_append, Option.mem_toList] at hx
    rcases hx with hfirst | hrest
    · obtain ⟨device, out, rfl, -⟩ := exists_of_happening? hfirst
      exact ⟨out, List.mem_cons_self⟩
    · obtain ⟨out, hmem⟩ := ih hrest
      exact ⟨out, List.mem_cons_of_mem a hmem⟩

/-- What is kept for a device is as it was when no call to it has come about. -/
theorem kept_act_of_other {s : System σ} {a : Action σ} {k : Nat}
    (ha : ∀ x, s.happening? a = some x → x.device ≠ k) : (s.act a).kept k = s.kept k := by
  by_cases hcall : ∃ r out, a = .callDevice k r out
  · obtain ⟨r, out, rfl⟩ := hcall
    cases hdevice : s.devices[k]? with
    | none => rw [act_of_no_device hdevice]
    | some device => exact absurd rfl (ha _ (happening?_of_device hdevice r out))
  · exact kept_act fun r out heq => hcall ⟨r, out, heq⟩

/-! ### Rules -/

/-- Whether everything that happens keeps to a rule, which may look back on the calls so
far. -/
def abides (rule : List Happening → Action σ → Bool) (H : List Happening) (s : System σ) :
    List (Action σ) → Bool
  | [] => true
  | a :: actions =>
    rule H a && abides rule (H ++ (s.happening? a).toList) (s.act a) actions

theorem abides_cons {rule : List Happening → Action σ → Bool} {H : List Happening}
    {s : System σ} {a : Action σ} {actions : List (Action σ)} :
    s.abides rule H (a :: actions) = true ↔ rule H a = true ∧
      (s.act a).abides rule (H ++ (s.happening? a).toList) actions = true := by
  rw [abides, Bool.and_eq_true]

end System

end HandleLayer
