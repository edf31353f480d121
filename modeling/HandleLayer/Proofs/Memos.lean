import Mathlib.Data.List.Induction
import HandleLayer.Proofs.ChildrenRuns

/-!
# What is remembered of objects

The layer remembers what some objects were created from: render passes, because the states of a
pipeline depend on them, and update templates, because data for them have to be rebuilt.  It does
so under the handle that the application got, once the creation has succeeded, and it forgets an
object when its handle is named to be destroyed, whatever comes of that call.

Both tables work in the same way.  No handle is returned twice, so that what is remembered under a
handle is what the one object was created from that the handle stands for.

## Main definitions

* `Memo` — a table of what is remembered of the objects of one kind.
* `Happening.Returns` — the calls that create an object.
* `Memo.Makes`, `Memo.Unmakes`, `Memo.Settles` — what a call does to the object behind a handle.
* `Memo.StandsFor` — what a handle stands for after a run.
* `Memo.Recalls` — the invariant: what is remembered is what handles stand for.

## Main results

* `Device.exists_of_perform_create` — what comes of a creation.
* `Memo.table_perform` — what one call does to what is remembered.
* `Memo.Recalls.act`, `Memo.Recalls.run` — **the invariant holds whatever happens.**
* `System.not_returns_twice` — no handle is returned twice.
-/

namespace HandleLayer

variable {σ α β : Type}

/-! ### Creations -/

namespace Device

theorem not_edits_destroyDevice (f : Tracked → Tracked) :
    ¬ DeviceRequest.destroyDevice.Edits f := by
  intro h
  cases h with
  | receive hr => cases hr
  | complete hr => cases hr

/-- What a program leaves alone that no request edits. -/
theorem Edited.own_eq {α : Type} {p : DeviceM σ α} (hp : Edited .destroyDevice p)
    (s : Layer Tracked σ) : (p.run s).2.object.own = s.object.own :=
  (hp s).eq_of_not_edits not_edits_destroyDevice

variable [NextLayer σ] {s : Layer Tracked σ}

/-- The surrogate that comes of a creation. -/
theorem exists_of_run_createObject {info : CreateInfo} {out out' : Outputs} {h : Handle}
    {rest : List Handle} {t : Layer Tracked σ}
    (hrun : (createObject info out).run s = ((.success, out'), t))
    (hslots : out'.slots = some (h :: rest)) :
    ∃ real, (answer (.create info) (out.slots.map List.length) s).result = .success ∧
      out.slots.map (overlay · (answer (.create info) (out.slots.map List.length) s).slots)
        = some (real :: rest) ∧
      h = (s.world.wrapper.wrapNew real).1 ∧
      t.world.wrapper = (s.world.wrapper.wrapNew real).2 := by
  unfold createObject at hrun
  rw [run_bind_of (run_relay _ _ s)] at hrun
  generalize hreply : answer (.create info) (out.slots.map List.length) s = reply at hrun ⊢
  dsimp only at hrun
  split at hrun
  · next real rest' hwritten =>
    split at hrun
    · next hsuccess =>
      rw [run_bind_of (run_wrapNew real _), run_bind_of (run_announceCreated _ _ _)] at hrun
      obtain ⟨hout, rfl⟩ := Prod.mk.inj hrun
      obtain ⟨-, rfl⟩ := Prod.mk.inj hout
      obtain ⟨rfl, rfl⟩ := List.cons.inj (Option.some.inj hslots)
      refine ⟨real, hsuccess, hwritten, ?_, ?_⟩
      · rw [wrapper_sent]
      · show ((sent _ _ s).world.wrapper.wrapNew real).2 = _
        rw [wrapper_sent]
    · next hfailed =>
      obtain ⟨hout, -⟩ := Prod.mk.inj hrun
      exact absurd (Prod.mk.inj hout).1 hfailed
  · next hnone =>
    obtain ⟨hout, -⟩ := Prod.mk.inj hrun
    obtain ⟨-, rfl⟩ := Prod.mk.inj hout
    exact absurd hslots (hnone h rest)

/-- What comes of a creation is known from the part of it that can be skipped. -/
theorem exists_of_perform_create {info : CreateInfo} (hs : s.world.wrapper.enabled = true)
    {out : Outputs} {h : Handle} {rest : List Handle}
    (hsuccess : ((perform (.create info) out).run s).1.1 = .success)
    (hslots : ((perform (.create info) out).run s).1.2.slots = some (h :: rest)) :
    ∃ real, (answer (.create info) (out.slots.map List.length) s).result = .success ∧
      out.slots.map (overlay · (answer (.create info) (out.slots.map List.length) s).slots)
        = some (real :: rest) ∧
      h = (s.world.wrapper.wrapNew real).1 ∧
      ((perform (.create info) out).run s).2.world.wrapper = (s.world.wrapper.wrapNew real).2 ∧
      ((perform (.create info) out).run s).2.object.own = remember h info s.object.own := by
  cases hveto : s.object.registry.chain.vetoes s.world.behaviour
      (DeviceRequest.create info).command with
  | true =>
    rw [run_perform_of_vetoes hveto] at hsuccess
    cases hsuccess
  | false =>
    have hperform : (perform (.create info) out).run s = _ :=
      run_perform_of_not_loses (r := .create info) not_false hveto
    dsimp only at hperform
    generalize s.object.registry.chain.intercepting _ = objects at hperform
    generalize hbegun : s.see _ = begun at hperform
    have hserve : serve (.create info) out = (createObject info out : DeviceM σ _) := rfl
    rw [hserve] at hperform
    have hown : ((createObject info out).run begun).2.object.own = begun.object.own :=
      (edited_createObject info out).own_eq begun
    rcases hrun : (createObject info out).run begun with ⟨⟨result, out'⟩, t⟩
    rw [hrun] at hperform hown
    rw [hperform] at hsuccess hslots ⊢
    obtain rfl : result = .success := hsuccess
    have hslots : out'.slots = some (h :: rest) := hslots
    obtain ⟨real, hanswer, hreal, hh, hwrapper⟩ := exists_of_run_createObject hrun hslots
    subst hbegun
    have hwrapping : t.world.wrapper.enabled = true := by
      rw [hwrapper]
      exact (Wrapper.enabled_wrapNew _ _).trans hs
    -- what is remembered comes last
    refine ⟨real, hanswer, hreal, hh, ?_⟩
    unfold conclude
    rw [run_bind_of (run_wrapping _), if_pos ⟨hwrapping, rfl⟩]
    dsimp only
    rw [hslots]
    exact ⟨hwrapper, congrArg (remember h info) hown⟩

/-- Nothing is remembered of an object that the application has not got. -/
theorem own_perform_create_of_none {info : CreateInfo} {out : Outputs}
    (hnone : ∀ h rest, ((perform (.create info) out).run s).1.1 = .success →
      ((perform (.create info) out).run s).1.2.slots ≠ some (h :: rest)) :
    ((perform (.create info) out).run s).2.object.own = s.object.own := by
  have hintercept : Edited .destroyDevice (intercept (DeviceRequest.create info).command out
      (serve (.create info) out) : DeviceM σ (Result × Outputs)) :=
    Edited.intercept (edited_createObject info out)
  have hown := hintercept.own_eq s
  rcases hrun : (intercept (DeviceRequest.create info).command out
    (serve (.create info) out)).run s with ⟨⟨result, out'⟩, t⟩
  have hperform : (perform (.create info) out).run s
      = ((result, out'), ((conclude (.create info) result out').run t).2) := by
    show ((do
      let outcome ← intercept (DeviceRequest.create info).command out (serve (.create info) out)
      conclude (.create info) outcome.1 outcome.2
      return outcome : DeviceM σ (Result × Outputs)).run s) = _
    rw [run_bind_of hrun]
    rfl
  rw [hperform] at hnone ⊢
  rw [hrun] at hown
  unfold conclude
  rw [run_bind_of (run_wrapping t)]
  split
  · next hwrapped =>
    split
    · next h rest hslots => exact absurd hslots (hnone h rest hwrapped.2)
    · exact hown
  · exact hown

/-- The destruction of an object without children changes what is kept only before it is brought
before the validation objects, and so it does when it is skipped. -/
theorem own_perform_destroy {kind : Destroyable} {h : Handle}
    (hkind : (destroy kind h : DeviceM σ Unit) = destroyObject kind h) (out : Outputs) :
    ((perform (.destroy kind h) out).run s).2.object.own
      = s.object.own.prepared (.destroy kind h) := by
  have hserve : (serve (.destroy kind h) out : DeviceM σ (Result × Outputs))
      = silently (destroyObject kind h) out :=
    congrArg (silently · out) hkind
  have hrest : Edited .destroyDevice (intercept (DeviceRequest.destroy kind h).command out
      (serve (.destroy kind h) out) >>= pure : DeviceM σ (Result × Outputs)) := by
    rw [hserve]
    exact (Edited.intercept ((edited_destroyObject _ h).bind fun _ => .pure _)).bind .pure
  have hrun : (perform (.destroy kind h) out).run s = _ :=
    run_bind_of (run_prepare (.destroy kind h) s) _
  rw [hrun]
  exact hrest.own_eq _

end Device

/-! ### Tables of objects -/

/-- A table of what is remembered of the objects of one kind. -/
structure Memo (α β : Type) where
  /-- What is remembered, by the handles of the objects. -/
  table : Tracked → Table Handle β
  /-- The kind of the objects, as it is given when one is destroyed. -/
  kind : Destroyable
  /-- What an object is created from, if it is one of the kind. -/
  made? : CreateInfo → Option α
  /-- What is to be remembered of an object that is created from this. -/
  digest : α → β
  /-- Nothing is remembered in the beginning. -/
  table_empty : table .empty = .empty
  /-- An object is forgotten before it is destroyed, -/
  table_prepared : ∀ (t : Tracked) (h : Handle),
    table (t.prepared (.destroy kind h)) = (table t).erase h
  /-- it has no children, -/
  childless : kind ≠ .descriptorPool ∧ kind ≠ .swapchain
  /-- it is remembered once it was created, -/
  table_remember : ∀ (t : Tracked) (h : Handle) (info : CreateInfo),
    table (Device.remember h info t)
      = (made? info).elim (table t) fun a => (table t).insert h (digest a)
  /-- and no other request changes the table. -/
  table_edits : ∀ (r : DeviceRequest) (f : Tracked → Tracked), r.Edits f →
    (∀ info, r ≠ .create info) → (∀ h, r ≠ .destroy kind h) → ∀ t, table (f t) = table t

namespace Memo

variable (m : Memo α β)

/-- What is remembered after a call with this outcome. -/
def after (r : DeviceRequest) (o : Outcome) (known : Table Handle β) : Table Handle β :=
  match r with
  | .destroy kind h => if kind = m.kind then known.erase h else known
  | .create info =>
    match m.made? info, o.2.slots with
    | some a, some (h :: _) => if o.1 = .success then known.insert h (m.digest a) else known
    | _, _ => known
  | _ => known

variable [NextLayer σ]

/-- An object is destroyed by one request, and nothing else is to be done. -/
theorem destroy_kind (h : Handle) :
    (Device.destroy m.kind h : DeviceM σ Unit) = Device.destroyObject m.kind h := by
  obtain ⟨hpool, hswapchain⟩ := m.childless
  cases hkind : m.kind with
  | descriptorPool => exact absurd hkind hpool
  | swapchain => exact absurd hkind hswapchain
  | _ => rfl

/-- An object is forgotten when it is named to be destroyed. -/
theorem table_perform_destroy (h : Handle) (out : Outputs) (s : Layer Tracked σ) :
    m.table ((Device.perform (.destroy m.kind h) out).run s).2.object.own
      = (m.table s.object.own).erase h := by
  rw [Device.own_perform_destroy (m.destroy_kind h), m.table_prepared]

/-- An object is remembered when the application gets its handle. -/
theorem table_perform_create (info : CreateInfo) (out : Outputs) {s : Layer Tracked σ}
    (hs : s.world.wrapper.enabled = true) :
    let u := (Device.perform (.create info) out).run s
    m.table u.2.object.own = m.after (.create info) u.1 (m.table s.object.own) := by
  intro u
  by_cases hreturned : ∃ h rest, u.1.1 = .success ∧ u.1.2.slots = some (h :: rest)
  · obtain ⟨h, rest, hsuccess, hslots⟩ := hreturned
    obtain ⟨real, -, -, -, -, hown⟩ := Device.exists_of_perform_create hs hsuccess hslots
    rw [hown, m.table_remember]
    dsimp only [after]
    rw [hslots]
    cases m.made? info with
    | none => rfl
    | some a => exact (if_pos hsuccess).symm
  · have hnone : ∀ h rest, u.1.1 = .success → u.1.2.slots ≠ some (h :: rest) :=
      fun h rest hsuccess hslots => hreturned ⟨h, rest, hsuccess, hslots⟩
    rw [Device.own_perform_create_of_none hnone]
    dsimp only [after]
    split
    · next a h rest _ hslots => exact (if_neg fun hsuccess => hnone h rest hsuccess hslots).symm
    · rfl

/-- **What one call does to what is remembered.** -/
theorem table_perform (r : DeviceRequest) (out : Outputs) {s : Layer Tracked σ}
    (hs : s.world.wrapper.enabled = true) :
    let u := (Device.perform r out).run s
    m.table u.2.object.own = m.after r u.1 (m.table s.object.own) := by
  intro u
  have hother : (∀ info, r ≠ .create info) → (∀ h, r ≠ .destroy m.kind h) →
      m.table u.2.object.own = m.table s.object.own := fun hcreate hdestroy =>
    (Device.edited_perform r out s).preserves fun f hf => m.table_edits r f hf hcreate hdestroy
  cases r with
  | create info => exact m.table_perform_create info out hs
  | destroy kind h =>
    by_cases hkind : kind = m.kind
    · subst hkind
      exact (m.table_perform_destroy h out s).trans (if_pos rfl).symm
    · refine (hother (fun info heq => by cases heq) fun h' heq => ?_).trans (if_neg hkind).symm
      exact hkind (DeviceRequest.destroy.inj heq).1
  | _ => exact hother (fun info heq => by cases heq) fun h heq => by cases heq

end Memo

/-! ### What handles stand for -/

namespace Happening

/-- Whether a call has created an object that the application knows as `h`. -/
def Returns (x : Happening) (h : Handle) : Prop :=
  ∃ info rest, x.request = .create info ∧ x.outcome.1 = .success ∧
    x.outcome.2.slots = some (h :: rest)

end Happening

namespace Memo

variable (m : Memo α β)

/-- Whether a call has created an object of the device, which the application knows as `h`. -/
def Makes (x : Happening) (k : Nat) (h : Handle) (a : α) : Prop :=
  x.device = k ∧ ∃ info rest, x.request = .create info ∧ m.made? info = some a ∧
    x.outcome.1 = .success ∧ x.outcome.2.slots = some (h :: rest)

/-- Whether a call names an object of the device to be destroyed. -/
def Unmakes (x : Happening) (k : Nat) (h : Handle) : Prop :=
  x.device = k ∧ x.request = .destroy m.kind h

/-- Whether a handle stands for another object of the device after a call, or for none. -/
def Settles (x : Happening) (k : Nat) (h : Handle) : Prop :=
  m.Unmakes x k h ∨ ∃ a, m.Makes x k h a

/-- Whether a handle stands for an object of the device after all these calls: it was created
under the handle, and no call since has destroyed it or put another one in its place. -/
def StandsFor (H : List Happening) (k : Nat) (h : Handle) (a : α) : Prop :=
  ∃ before x after, H = before ++ x :: after ∧ m.Makes x k h a ∧ ∀ y ∈ after, ¬ m.Settles y k h

variable {m} {x : Happening} {H : List Happening} {k : Nat} {h : Handle} {a : α}

theorem Makes.returns (hx : m.Makes x k h a) : x.Returns h := by
  obtain ⟨-, info, rest, hrequest, -, hsuccess, hslots⟩ := hx
  exact ⟨info, rest, hrequest, hsuccess, hslots⟩

theorem Makes.unique {a' : α} (hx : m.Makes x k h a) (hx' : m.Makes x k h a') : a' = a := by
  obtain ⟨-, info, rest, hrequest, hmade, -⟩ := hx
  obtain ⟨-, info', rest', hrequest', hmade', -⟩ := hx'
  rw [hrequest] at hrequest'
  cases hrequest'
  exact Option.some.inj (hmade'.symm.trans hmade)

variable (known : Table Handle β)

theorem get?_of_makes (hx : m.Makes x k h a) :
    (m.after x.request x.outcome known).get? h = some (m.digest a) := by
  obtain ⟨-, info, rest, hrequest, hmade, hsuccess, hslots⟩ := hx
  rw [hrequest]
  dsimp only [after]
  rw [hmade, hslots]
  dsimp only
  rw [if_pos hsuccess, Table.get?_insert_self]

theorem get?_of_unmakes (hx : m.Unmakes x k h) :
    (m.after x.request x.outcome known).get? h = none := by
  rw [hx.2]
  dsimp only [after]
  rw [if_pos rfl, Table.get?_erase_self]

/-- A call leaves alone what it does not settle. -/
theorem get?_of_not_settles (hx : ¬ m.Settles x x.device h) :
    (m.after x.request x.outcome known).get? h = known.get? h := by
  unfold after
  split
  · next kind h' hrequest =>
    split
    · next hkind =>
      have hne : h' ≠ h := fun heq => hx (.inl ⟨rfl, by rw [hrequest, hkind, heq]⟩)
      rw [Table.get?_erase, if_neg hne]
    · rfl
  · next info hrequest =>
    split
    · next a h' rest hmade hslots =>
      split
      · next hsuccess =>
        have hne : h' ≠ h := by
          rintro rfl
          exact hx (.inr ⟨a, rfl, info, rest, hrequest, hmade, hsuccess, hslots⟩)
        rw [Table.get?_insert, if_neg hne]
      · rfl
    · rfl
  · rfl

/-- What is remembered after a call was created by it, or was remembered before and is not
settled. -/
theorem get?_after (hk : x.device = k) {b : β} :
    (m.after x.request x.outcome known).get? h = some b
      ↔ (∃ a, m.Makes x k h a ∧ m.digest a = b) ∨ ¬ m.Settles x k h ∧ known.get? h = some b := by
  by_cases hmakes : ∃ a, m.Makes x k h a
  · obtain ⟨a, hmakes⟩ := hmakes
    rw [get?_of_makes known hmakes]
    constructor
    · rintro ⟨⟩
      exact .inl ⟨a, hmakes, rfl⟩
    · rintro (⟨a', hmakes', rfl⟩ | ⟨hsettles, -⟩)
      · rw [hmakes.unique hmakes']
      · exact absurd (.inr ⟨a, hmakes⟩) hsettles
  by_cases hunmakes : m.Unmakes x k h
  · rw [get?_of_unmakes known hunmakes]
    refine iff_of_false (fun hnone => by cases hnone) ?_
    rintro (⟨a, hmakes', -⟩ | ⟨hsettles, -⟩)
    · exact hmakes ⟨a, hmakes'⟩
    · exact hsettles (.inl hunmakes)
  · have hsettles : ¬ m.Settles x k h := fun h => h.elim hunmakes hmakes
    rw [get?_of_not_settles known (hk ▸ hsettles)]
    exact ⟨fun hget => .inr ⟨hsettles, hget⟩,
      fun hor => hor.elim (fun ⟨a, hmakes', _⟩ => absurd ⟨a, hmakes'⟩ hmakes) And.right⟩

variable {known}

theorem not_standsFor_nil : ¬ m.StandsFor [] k h a := not_lasts_nil

theorem standsFor_concat : m.StandsFor (H ++ [x]) k h a
    ↔ m.Makes x k h a ∨ (¬ m.Settles x k h ∧ m.StandsFor H k h a) :=
  lasts_concat

/-- A handle that no later call returns stands for what it was created for, until it is named
to be destroyed. -/
theorem standsFor_append (hx : m.Makes x k h a) {after : List Happening}
    (hfresh : ∀ y ∈ after, ∀ a, ¬ m.Makes y k h a) {a' : α} :
    m.StandsFor (H ++ x :: after) k h a' ↔ a' = a ∧ ∀ y ∈ after, ¬ m.Unmakes y k h := by
  induction after using List.reverseRecOn with
  | nil =>
    rw [standsFor_concat]
    constructor
    · rintro (hmakes | ⟨hsettles, -⟩)
      · exact ⟨hx.unique hmakes, fun y hy => absurd hy List.not_mem_nil⟩
      · exact absurd (.inr ⟨a, hx⟩) hsettles
    · rintro ⟨rfl, -⟩
      exact .inl hx
  | append_singleton after y ih =>
    have hlast : ∀ a, ¬ m.Makes y k h a := hfresh y (by simp)
    have hsettles : m.Settles y k h ↔ m.Unmakes y k h := by
      simp [Settles, hlast]
    have hrest := ih fun z hz => hfresh z (by simp [hz])
    rw [← List.cons_append, ← List.append_assoc, standsFor_concat, hrest, hsettles]
    simp only [hlast, false_or, List.mem_append, List.mem_singleton, or_imp, forall_and,
      forall_eq]
    exact ⟨fun ⟨hy, heq, hbefore⟩ => ⟨heq, hbefore, hy⟩,
      fun ⟨heq, hbefore, hy⟩ => ⟨hy, heq, hbefore⟩⟩

/-! ### What is remembered along runs -/

variable (m) in
/-- What is remembered is what handles stand for. -/
def Recalls (s : System σ) (H : List Happening) : Prop :=
  ∀ k h b, (m.table (s.kept k)).get? h = some b ↔ ∃ a, m.StandsFor H k h a ∧ m.digest a = b

variable [NextLayer σ] {s : System σ}

theorem table_act (hs : s.world.wrapper.enabled = true) {action : Action σ}
    (hx : s.happening? action = some x) :
    m.table ((s.act action).kept x.device)
      = m.after x.request x.outcome (m.table (s.kept x.device)) := by
  obtain ⟨device, out, rfl, hdevice, houtcome⟩ := System.exists_of_happening? hx
  rw [System.kept_of_call hdevice, System.kept_of_device hdevice, houtcome]
  exact m.table_perform x.request out (s := ⟨device, s.world⟩) hs

/-- **Whatever happens keeps the invariant.** -/
theorem Recalls.act (hs : m.Recalls s H) (hwrapping : s.world.wrapper.enabled = true)
    (action : Action σ) : m.Recalls (s.act action) (H ++ (s.happening? action).toList) := by
  intro k h b
  have hold := hs k h b
  cases hx : s.happening? action with
  | none =>
    have hkept : (s.act action).kept k = s.kept k := System.kept_act_of_other fun x hx' => by
      rw [hx] at hx'
      cases hx'
    rw [hkept, Option.toList_none, List.append_nil]
    exact hold
  | some x =>
    have hstands : (∃ a, m.StandsFor (H ++ [x]) k h a ∧ m.digest a = b) ↔
        (∃ a, m.Makes x k h a ∧ m.digest a = b) ∨
          ¬ m.Settles x k h ∧ (m.table (s.kept k)).get? h = some b := by
      simp only [standsFor_concat, hold, or_and_right, exists_or, and_assoc, exists_and_left]
    rw [Option.toList_some, hstands]
    by_cases hk : x.device = k
    · rw [← hk, table_act hwrapping hx]
      exact get?_after _ rfl
    · -- a call to another device settles nothing here
      have hmakes : ∀ a, ¬ m.Makes x k h a := fun a hmakes => hk hmakes.1
      have hsettles : ¬ m.Settles x k h := by
        rintro (hunmakes | ⟨a, hmakes'⟩)
        · exact hk hunmakes.1
        · exact hmakes a hmakes'
      have hkept : (s.act action).kept k = s.kept k := System.kept_act_of_other fun y hy => by
        rw [hx] at hy
        exact Option.some.inj hy ▸ hk
      rw [hkept]
      refine ⟨fun hget => .inr ⟨hsettles, hget⟩, ?_⟩
      rintro (⟨a, hmakes', -⟩ | ⟨-, hget⟩)
      · exact absurd hmakes' (hmakes a)
      · exact hget

theorem Recalls.run (hs : m.Recalls s H) (hsound : s.Sound) (actions : List (Action σ)) :
    m.Recalls (s.run actions) (H ++ s.history actions) := by
  induction actions generalizing s H with
  | nil =>
    rw [System.history, List.append_nil]
    exact hs
  | cons action actions ih =>
    rw [System.history, ← List.append_assoc]
    exact ih (hs.act hsound.world.wrapping action) (hsound.act action)

omit [NextLayer σ] in
variable (m) in
/-- In the beginning nothing is remembered. -/
theorem recalls_start (instanceHandle : Handle) (requested : ApiVersion) (settings : Settings)
    (table : EntryTable) (behaviour : Behaviour) (objects : List ValidationObject) (below : σ) :
    m.Recalls (System.start instanceHandle requested settings table behaviour objects below)
      [] := by
  intro k h b
  refine iff_of_false (fun hget => ?_) fun ⟨a, hstands, _⟩ => not_standsFor_nil hstands
  have hnone : (m.table .empty).get? h = some b := hget
  rw [m.table_empty, Table.get?_empty] at hnone
  cases hnone

end Memo

namespace System

/-! ### Handles are returned once -/

variable [NextLayer σ] {s : System σ} {actions : List (Action σ)}

/-- A creation returns the surrogate of a new draw. -/
theorem exists_of_returns (hs : s.Sound) {a : Action σ} {x : Happening}
    (hx : s.happening? a = some x) {h : Handle} (hreturns : x.Returns h) :
    ∃ real, h = (s.world.wrapper.wrapNew real).1 ∧
      (s.act a).world.wrapper = (s.world.wrapper.wrapNew real).2 := by
  obtain ⟨device, out, rfl, hdevice, houtcome⟩ := exists_of_happening? hx
  obtain ⟨info, rest, hrequest, hsuccess, hslots⟩ := hreturns
  rw [houtcome] at hsuccess hslots
  rw [act_of_device hdevice]
  rw [hrequest] at hsuccess hslots ⊢
  obtain ⟨real, -, -, hh, hwrapper, -⟩ := Device.exists_of_perform_create
    (s := ⟨device, s.world⟩) hs.world.wrapping hsuccess hslots
  exact ⟨real, hh, hwrapper⟩

theorem drawn_of_returns (hs : s.Sound) {a : Action σ} {x : Happening}
    (hx : s.happening? a = some x) {h : Handle} (hreturns : x.Returns h) (hzero : h ≠ 0) :
    ∃ n, s.world.wrapper.map.drawn ≤ n ∧ n < (s.act a).world.wrapper.map.drawn ∧ h = idAt n := by
  obtain ⟨real, hh, hwrapper⟩ := exists_of_returns hs hx hreturns
  have hreal : real ≠ 0 := by
    rintro rfl
    rw [Wrapper.wrapNew_zero] at hh
    exact hzero hh
  obtain ⟨n, hn, -, hwrap⟩ := Wrapper.exists_wrapNew_eq hs.world.wrapping hreal
  rw [hwrap] at hh hwrapper
  refine ⟨n, hn, ?_, hh⟩
  rw [hwrapper]
  exact Nat.lt_succ_self n

/-- What was drawn before is not returned later. -/
theorem not_returns_of_drawn (hs : s.Sound) {h : Handle} (hzero : h ≠ 0)
    (hdrawn : s.world.wrapper.map.Drawn h)
    (hlimit : (s.run actions).world.wrapper.map.drawn ≤ drawLimit) :
    ∀ y ∈ s.history actions, ¬ y.Returns h := by
  induction actions generalizing s with
  | nil => exact fun y hy => absurd hy List.not_mem_nil
  | cons a actions ih =>
    intro y hy hreturns
    have hnext := hs.act a
    rw [history, List.mem_append, Option.mem_toList] at hy
    rcases hy with hy | hy
    · obtain ⟨n, hlow, hhigh, heq⟩ := drawn_of_returns hs hy hreturns hzero
      have hle : (s.act a).world.wrapper.map.drawn ≤ drawLimit :=
        Nat.le_trans (drawn_le_run hnext actions) hlimit
      exact hdrawn.ne_later hlow (by omega) heq
    · exact ih hnext (hdrawn.mono (drawn_le_act hs a)) hlimit y hy hreturns

/-- **No handle is returned twice**, unless the counter comes round. -/
theorem not_returns_twice (hs : s.Sound)
    (hlimit : (s.run actions).world.wrapper.map.drawn ≤ drawLimit)
    {before after : List Happening} {x : Happening} (hH : s.history actions = before ++ x :: after)
    {h : Handle} (hx : x.Returns h) (hzero : h ≠ 0) : ∀ y ∈ after, ¬ y.Returns h := by
  induction actions generalizing s before with
  | nil =>
    rw [history] at hH
    simp at hH
  | cons a actions ih =>
    have hnext := hs.act a
    rw [history] at hH
    cases hfirst : s.happening? a with
    | none =>
      rw [hfirst] at hH
      exact ih hnext hlimit hH
    | some z =>
      rw [hfirst, Option.toList_some, List.singleton_append] at hH
      cases before with
      | nil =>
        obtain ⟨rfl, rfl⟩ := List.cons.inj hH
        obtain ⟨n, -, hhigh, heq⟩ := drawn_of_returns hs hfirst hx hzero
        exact not_returns_of_drawn hnext hzero ⟨n, hhigh, heq⟩ hlimit
      | cons z' before => exact ih hnext hlimit (List.cons.inj hH).2

end System

end HandleLayer
