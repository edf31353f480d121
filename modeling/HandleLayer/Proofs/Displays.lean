import HandleLayer.Proofs.ChainCopies
import HandleLayer.Proofs.ChildrenRuns
import HandleLayer.Proofs.Courses
import HandleLayer.Proofs.MapRuns
import HandleLayer.Proofs.UnwrappedRuns
import HandleLayer.Scripted

/-!
# Displays

The next layer reports the same displays again and again, and five queries report them.  A
display is always shown as the same surrogate, which is found again through a table from real
handles to surrogates.  That table and the surrogates change with every call to the instance and
to each of its devices, so that the two have to stay in step through all of these.

## Main definitions

* `SurrogateMap.Consistent` — kept surrogates resolve to the handles that they are kept for.
* `Wrapper.Enters` — the id of a later draw comes in for a handle.
* `Wrapper.Evolves` — what becomes of kept surrogates on the way from one wrapper to another.
* `reported`, `Instance.answered` — the handles that a query has reported, and what the next
  layer has left of a query.
* `System.sightings` — the displays that were reported in a run, with what was shown for them.
* `System.sparesDisplays` — the rule that no call names a display as one to go.
* `System.Shows` — the invariant.

## Main results

* `Wrapper.Step.inv` — what one step can do to the surrogates.
* `SurrogateMap.Consistent.evolves` — kept surrogates stay kept as long as they live.
* `Instance.run_perform_query` — **what a query comes to.**
* `System.Shows.act`, `System.Shows.run` — the invariant holds whatever happens.
* `displays_keep_one_surrogate` — **a display has one identity.**
-/

namespace HandleLayer

variable {σ : Type}

/-! ### Kept surrogates -/

/-- Every surrogate that is kept resolves to the handle that it is kept for, and whatever
resolves was drawn and is not null. -/
structure SurrogateMap.Consistent (m : SurrogateMap) : Prop where
  unwrap : ∀ real s, m.reverse.get? real = some s → m.unwrap s = some real
  drawn : ∀ s, (m.unwrap s).isSome = true → m.Drawn s ∧ s ≠ 0

/-- From one wrapper to a later one, kept surrogates stay kept as long as they live, and others
come only with later draws and where displays are shown. -/
structure Wrapper.Evolves (shows : Prop) (w w' : Wrapper) : Prop where
  consistent : w'.map.Consistent
  drawn_le : w.map.drawn ≤ w'.map.drawn
  new : ∀ h, (w'.map.unwrap h).isSome = true → (w.map.unwrap h).isSome = true ∨
    ∃ n, w.map.drawn ≤ n ∧ n < w'.map.drawn ∧ h = idAt n
  kept : ∀ real s, w.map.reverse.get? real = some s → (w'.map.unwrap s).isSome = true →
    w'.map.reverse.get? real = some s
  arrived : ∀ real s, w'.map.reverse.get? real = some s → w.map.reverse.get? real = some s ∨
    shows ∧ ∃ n, w.map.drawn ≤ n ∧ n < w'.map.drawn ∧ s = idAt n

namespace Wrapper

variable {shows : Prop} {w w' w'' : Wrapper}

theorem Evolves.refl (hw : w.map.Consistent) : w.Evolves shows w :=
  ⟨hw, Nat.le_refl _, fun _ h => .inl h, fun _ _ h _ => h, fun _ _ h => .inl h⟩

theorem Evolves.trans (hw : w.map.Consistent) (h : w.Evolves shows w')
    (h' : w'.Evolves shows w'') (hlimit : w''.map.drawn ≤ drawLimit) : w.Evolves shows w'' := by
  have hle := h.drawn_le
  have hle' := h'.drawn_le
  refine ⟨h'.consistent, by omega, fun k hk => ?new, fun real s hs hk => ?kept,
    fun real s hs => ?arrived⟩
  case new =>
    rcases h'.new k hk with hold | ⟨n, hlow, hhigh, heq⟩
    · rcases h.new k hold with hold | ⟨n, hlow, hhigh, heq⟩
      · exact .inl hold
      · exact .inr ⟨n, hlow, by omega, heq⟩
    · exact .inr ⟨n, by omega, hhigh, heq⟩
  case kept =>
    -- a surrogate that is gone does not come back, as no id is drawn twice
    have hlive : (w.map.unwrap s).isSome = true := by rw [hw.unwrap real s hs]; rfl
    rcases h'.new s hk with hold | ⟨n, hlow, hhigh, heq⟩
    · exact h'.kept real s (h.kept real s hs hold) hk
    · exact absurd heq ((hw.drawn s hlive).1.ne_later (by omega) (by omega))
  case arrived =>
    rcases h'.arrived real s hs with hold | ⟨hshows, n, hlow, hhigh, heq⟩
    · rcases h.arrived real s hold with hold | ⟨hshows, n, hlow, hhigh, heq⟩
      · exact .inl hold
      · exact .inr ⟨hshows, n, hlow, by omega, heq⟩
    · exact .inr ⟨hshows, n, by omega, hhigh, heq⟩

/-- A display whose surrogate is kept is shown as that one. -/
theorem wrapDisplay_of_kept {real s : Handle} (hpasses : w.passes real = false)
    (hkept : w.map.reverse.get? real = some s) : w.wrapDisplay real = (s, w) := by
  simp only [wrapDisplay, hpasses, SurrogateMap.wrapUnique, hkept]
  rfl

/-- Any other display gets the id of a later draw, which is kept for it. -/
theorem exists_wrapDisplay_eq {real : Handle} (hpasses : w.passes real = false)
    (hnone : w.map.reverse.get? real = none) : ∃ n, w.map.drawn ≤ n ∧ idAt n ≠ 0 ∧
      w.wrapDisplay real = (idAt n, { w with map :=
        { w.map.enter n real with reverse := w.map.reverse.insert real (idAt n) } }) := by
  obtain ⟨n, hn, hzero, -, hwrap⟩ := w.map.exists_wrap_eq real
  refine ⟨n, hn, hzero, ?_⟩
  simp only [wrapDisplay, hpasses, SurrogateMap.wrapUnique, hnone, hwrap]
  rfl

/-- The id of a later draw comes in for a handle, for which it may be kept where displays are
shown; everything else stays. -/
structure Enters (shows : Prop) (n : Nat) (real : Handle) (w w' : Wrapper) : Prop where
  later : w.map.drawn ≤ n
  ne_zero : idAt n ≠ 0
  drawn_eq : w'.map.drawn = n + 1
  unwrap : ∀ h, w'.map.unwrap h = if idAt n = h then some real else w.map.unwrap h
  kept : ∀ r s, w.map.reverse.get? r = some s → w'.map.reverse.get? r = some s
  arrived : ∀ r s, w'.map.reverse.get? r = some s → w.map.reverse.get? r = some s ∨
    shows ∧ r = real ∧ s = idAt n

/-- **What a step can do**: nothing, or it lets an id come in, or it removes a surrogate. -/
theorem Step.inv (h : Step shows w w') :
    w' = w ∨ (∃ n real, w.Enters shows n real w') ∨ ∃ h, w' = w.erase h := by
  cases h with
  | mint real =>
    by_cases hpasses : w.passes real = true
    · exact .inl (by rw [wrapNew, if_pos hpasses])
    · obtain ⟨n, hn, hzero, -, hwrap⟩ := w.map.exists_wrap_eq real
      have hwrapped : (w.wrapNew real).2 = { w with map := w.map.enter n real } := by
        rw [wrapNew, if_neg hpasses, hwrap]
      rw [hwrapped]
      exact .inr (.inl ⟨n, real, hn, hzero, rfl, fun h => SurrogateMap.unwrap_enter n real h w.map,
        fun _ _ h => h, fun _ _ h => .inl h⟩)
  | display hshows real =>
    cases hpasses : w.passes real with
    | true => exact .inl (by rw [wrapDisplay, if_pos hpasses])
    | false =>
      cases hkept : w.map.reverse.get? real with
      | some s => exact .inl (by rw [wrapDisplay_of_kept hpasses hkept])
      | none =>
        obtain ⟨n, hn, hzero, hwrapped⟩ := exists_wrapDisplay_eq hpasses hkept
        rw [hwrapped]
        refine .inr (.inl ⟨n, real, hn, hzero, rfl,
          fun h => SurrogateMap.unwrap_enter n real h w.map, fun r s hs => ?_, fun r s hs => ?_⟩)
        · have hne : real ≠ r := fun heq => by rw [heq, hs] at hkept; cases hkept
          exact (Table.get?_insert w.map.reverse real r (idAt n)).trans ((if_neg hne).trans hs)
        · have hinsert := (Table.get?_insert w.map.reverse real r (idAt n)).symm.trans hs
          split at hinsert
          · next heq => exact .inr ⟨hshows, heq.symm, (Option.some.inj hinsert).symm⟩
          · exact .inl hinsert
  | erase h => exact .inr (.inr ⟨h, rfl⟩)

theorem Step.drawn_le (h : Step shows w w') : w.map.drawn ≤ w'.map.drawn := by
  rcases h.inv with rfl | ⟨n, real, henters⟩ | ⟨gone, rfl⟩
  · exact Nat.le_refl _
  · have hlater := henters.later
    have hdrawn := henters.drawn_eq
    omega
  · exact Nat.le_of_eq (w.drawn_erase gone).symm

end Wrapper

namespace SurrogateMap.Consistent

variable {shows : Prop} {w w' : Wrapper}

/-- A surrogate comes with a later draw, and it may be kept for its handle. -/
theorem evolves_enters (hw : w.map.Consistent) {n : Nat} {real : Handle}
    (h : w.Enters shows n real w') (hlimit : w'.map.drawn ≤ drawLimit) : w.Evolves shows w' := by
  have hn := h.later
  have hdrawn := h.drawn_eq
  have hnew : ∀ k, (w'.map.unwrap k).isSome = true →
      (w.map.unwrap k).isSome = true ∨ k = idAt n := by
    intro k hk
    rw [h.unwrap] at hk
    split at hk
    · next heq => exact .inr heq.symm
    · exact .inl hk
  refine ⟨⟨fun r s hs => ?unwrap, fun s hs => ?drawn⟩, by omega, fun k hk => ?new,
    fun r s hs _ => h.kept r s hs, fun r s hs => ?arrived⟩
  case unwrap =>
    rw [h.unwrap]
    rcases h.arrived r s hs with hold | ⟨-, rfl, rfl⟩
    · -- the new id is that of no surrogate that is kept already
      have hresolves := hw.unwrap r s hold
      have hne := (hw.drawn s (by rw [hresolves]; rfl)).1.ne_later hn (by omega)
      rw [if_neg hne.symm, hresolves]
    · rw [if_pos rfl]
  case drawn =>
    rcases hnew s hs with hold | rfl
    · obtain ⟨hbefore, hne⟩ := hw.drawn s hold
      exact ⟨hbefore.mono (by omega), hne⟩
    · exact ⟨⟨n, by omega, rfl⟩, h.ne_zero⟩
  case new =>
    rcases hnew k hk with hold | heq
    · exact .inl hold
    · exact .inr ⟨n, hn, by omega, heq⟩
  case arrived =>
    rcases h.arrived r s hs with hold | ⟨hshows, -, heq⟩
    · exact .inl hold
    · exact .inr ⟨hshows, n, hn, by omega, heq⟩

/-- A surrogate goes, and with it what it was kept for. -/
theorem evolves_erase (hw : w.map.Consistent) (h : Handle) : w.Evolves shows (w.erase h) := by
  unfold Wrapper.erase
  split
  · exact .refl hw
  · have hunwrap : ∀ k, (w.map.erase h).2.unwrap k = if h = k then none else w.map.unwrap k :=
      w.map.unwrap_erase h
    have hreverse : ∀ real, (w.map.erase h).2.reverse.get? real = _ :=
      fun real => SurrogateMap.reverse_pop hw.unwrap h real
    have hdrawn : (w.map.erase h).2.drawn = w.map.drawn := w.map.drawn_pop h
    have hold : ∀ k, ((w.map.erase h).2.unwrap k).isSome = true →
        (w.map.unwrap k).isSome = true ∧ h ≠ k := by
      intro k hk
      rw [hunwrap] at hk
      split at hk
      · cases hk
      · next hne => exact ⟨hk, hne⟩
    refine ⟨⟨fun real s hs => ?unwrap, fun s hs => ?drawn⟩, Nat.le_of_eq hdrawn.symm,
      fun k hk => .inl (hold k hk).1, fun real s hs hk => ?kept, fun real s hs => ?arrived⟩
    case unwrap =>
      rw [hreverse, Option.filter_eq_some_iff] at hs
      rw [hunwrap, hw.unwrap real s hs.1, if_neg]
      simpa using hs.2
    case drawn =>
      obtain ⟨hbefore, hne⟩ := hw.drawn s (hold s hs).1
      exact ⟨hbefore.mono (Nat.le_of_eq hdrawn.symm), hne⟩
    case kept =>
      rw [hreverse, hs, Option.filter_some, if_pos]
      simpa using (hold s hk).2
    case arrived =>
      rw [hreverse, Option.filter_eq_some_iff] at hs
      exact .inl hs.1

theorem evolves_step (hw : w.map.Consistent) (h : Wrapper.Step shows w w')
    (hlimit : w'.map.drawn ≤ drawLimit) : w.Evolves shows w' := by
  rcases h.inv with rfl | ⟨n, real, henters⟩ | ⟨gone, rfl⟩
  · exact .refl hw
  · exact hw.evolves_enters henters hlimit
  · exact hw.evolves_erase gone

/-- **Kept surrogates stay kept as long as they live**, however many steps there are. -/
theorem evolves (hw : w.map.Consistent)
    (h : Relation.ReflTransGen (Wrapper.Step shows) w w') (hlimit : w'.map.drawn ≤ drawLimit) :
    w.Evolves shows w' := by
  induction h with
  | refl => exact .refl hw
  | @tail v u _ hstep ih =>
    have hbefore := ih (Nat.le_trans hstep.drawn_le hlimit)
    exact hbefore.trans hw (hbefore.consistent.evolves_step hstep hlimit) hlimit

end SurrogateMap.Consistent

/-! ### Showing displays -/

namespace Wrapper

variable {w : Wrapper}

theorem reverse_wrapDisplay {real s : Handle} (h : w.map.reverse.get? real = some s)
    (real' : Handle) : (w.wrapDisplay real').2.map.reverse.get? real = some s := by
  cases hpasses : w.passes real' with
  | true =>
    rw [wrapDisplay, if_pos hpasses]
    exact h
  | false =>
    cases hkept : w.map.reverse.get? real' with
    | some s' =>
      rw [wrapDisplay_of_kept hpasses hkept]
      exact h
    | none =>
      obtain ⟨n, -, -, hwrapped⟩ := exists_wrapDisplay_eq hpasses hkept
      have hne : real' ≠ real := fun heq => by rw [heq, h] at hkept; cases hkept
      rw [hwrapped]
      exact (Table.get?_insert w.map.reverse real' real (idAt n)).trans ((if_neg hne).trans h)

/-- What is kept stays kept while displays are shown. -/
theorem reverse_wrapDisplayMany {real s : Handle} (h : w.map.reverse.get? real = some s)
    (reals : List Handle) : (w.wrapDisplayMany reals).2.map.reverse.get? real = some s := by
  induction reals generalizing w with
  | nil => exact h
  | cons real' reals ih => exact ih (reverse_wrapDisplay h real')

/-- What a display is shown as: null as null, anything else as what is kept for it. -/
def Presents (w : Wrapper) (real shown : Handle) : Prop :=
  if real = 0 then shown = 0 else w.map.reverse.get? real = some shown

theorem presents_wrapDisplay (hw : w.enabled = true) (real : Handle) :
    (w.wrapDisplay real).2.Presents real (w.wrapDisplay real).1 := by
  unfold Presents
  by_cases hzero : real = 0
  · have hpasses : w.passes real = true := by simp [passes, hzero]
    rw [if_pos hzero, wrapDisplay, if_pos hpasses, hzero]
  · have hpasses : w.passes real = false := by simp [passes, hw, hzero]
    rw [if_neg hzero]
    cases hkept : w.map.reverse.get? real with
    | some s =>
      rw [wrapDisplay_of_kept hpasses hkept]
      exact hkept
    | none =>
      obtain ⟨n, -, -, hwrapped⟩ := exists_wrapDisplay_eq hpasses hkept
      rw [hwrapped]
      exact Table.get?_insert_self w.map.reverse real (idAt n)

/-- Displays that are shown together. -/
theorem presents_wrapDisplayMany (hw : w.enabled = true) (reals : List Handle) :
    List.Forall₂ (w.wrapDisplayMany reals).2.Presents reals (w.wrapDisplayMany reals).1 := by
  induction reals generalizing w with
  | nil => exact .nil
  | cons real reals ih =>
    have henabled : (w.wrapDisplay real).2.enabled = true := by
      rw [(Fares.wrapDisplay w real).enabled_eq, hw]
    have hfirst := presents_wrapDisplay hw real
    refine List.Forall₂.cons ?_ (ih henabled)
    show ((w.wrapDisplay real).2.wrapDisplayMany reals).2.Presents real (w.wrapDisplay real).1
    unfold Presents at hfirst ⊢
    split
    · next hzero => rwa [if_pos hzero] at hfirst
    · next hzero =>
      rw [if_neg hzero] at hfirst
      exact reverse_wrapDisplayMany hfirst reals

end Wrapper

/-! ### What queries come to -/

/-- The handles that a query has reported: those at the beginning of the array, as many as it
says. -/
def reported (o : Result × Outputs) : List Handle :=
  if o.1.reports then o.2.first o.2.count.toNat else []

/-- A query that fails, or that has no room for handles, has reported none. -/
theorem reported_eq_nil {o : Result × Outputs} (h : o.1.reports = false ∨ o.2.slots = none) :
    reported o = [] := by
  unfold reported
  rcases h with hfails | hcounts
  · rw [hfails]
    rfl
  · rw [Outputs.first_of_null hcounts, ite_self]

/-- What is written over the handles that a query has reported is what it reports then. -/
theorem reported_present {o : Outcome} {hs : List Handle} (h : hs.length = (reported o).length) :
    reported (o.present hs) = hs := by
  unfold reported Outcome.present at *
  dsimp only
  split
  · next hreports =>
    rw [if_pos hreports] at h
    exact Outputs.first_present h
  · next hsilent =>
    rw [if_neg hsilent] at h
    exact (List.eq_nil_of_length_eq_zero h).symm

namespace InstanceRequest

/-- Whether a request asks for displays or for modes of a display. -/
def isQuery : InstanceRequest → Bool
  | displays .. | modes .. => true
  | _ => false

/-- Surrogates for the handles that a query reports: those kept for displays, and new ones for
modes. -/
def wrapped (r : InstanceRequest) (w : Wrapper) (reals : List Handle) : List Handle × Wrapper :=
  match r with
  | displays .. => w.wrapDisplayMany reals
  | _ => w.wrapNewMany reals

theorem wrapped_nil (r : InstanceRequest) (w : Wrapper) : r.wrapped w [] = ([], w) := by
  cases r <;> rfl

theorem length_wrapped (r : InstanceRequest) (w : Wrapper) (reals : List Handle) :
    (r.wrapped w reals).1.length = reals.length := by
  cases r with
  | displays query physicalDevice =>
    show (w.wrapDisplayMany reals).1.length = reals.length
    induction reals generalizing w with
    | nil => rfl
    | cons real reals ih => exact congrArg (· + 1) (ih (w.wrapDisplay real).2)
  | _ => exact w.length_wrapNewMany reals

end InstanceRequest

namespace Instance

variable [NextLayer σ]

/-- What comes of a call to an instance as the next layer leaves it. -/
def answered (r : InstanceRequest) (out : Outputs) (s : Layer Settings σ) : Result × Outputs :=
  r.passed (s.reply (.ofInstance (r.resolve s.world.wrapper)) (r.roomBelow out)) out

theorem run_relay (r : InstanceRequest) (out : Outputs) (s : Layer Settings σ) :
    let request := Request.ofInstance (r.resolve s.world.wrapper)
    let room := out.slots.map List.length
    (relay r out).run s
      = (((s.reply request room).result, (s.reply request room).write [] out),
          s.ask request room) := by
  intro request room
  have hrun : (relay r out).run s
      = (do
          let reply ← forward request room
          return (reply.result, reply.write [] out) : InstanceM σ (Result × Outputs)).run s := rfl
  rw [hrun, run_bind_of (run_forward _ _ s)]
  rfl

/-- The surrogates that a query comes to, and the wrapper after it. -/
def minted (r : InstanceRequest) (out : Outputs) (s : Layer Settings σ) : List Handle × Wrapper :=
  r.wrapped s.world.wrapper (reported (answered r out s))

/-- The two kinds of query differ in the surrogates only. -/
theorem serve_of_isQuery {r : InstanceRequest} (hr : r.isQuery = true) (out : Outputs) :
    (serve r out : InstanceM σ (Result × Outputs)) = reportHandles r (fun reals => do
      let wrapped := r.wrapped (← get).world.wrapper reals
      modifyWorld fun w => { w with wrapper := wrapped.2 }
      return wrapped.1) out := by
  cases r with
  | displays => rfl
  | modes => rfl
  | _ => cases hr

theorem answered_of_isQuery {r : InstanceRequest} (hr : r.isQuery = true) (out : Outputs)
    (s : Layer Settings σ) :
    let reply := s.reply (.ofInstance (r.resolve s.world.wrapper)) (out.slots.map List.length)
    answered r out s = (reply.result, reply.write [] out) := by
  cases r with
  | displays => rfl
  | modes => rfl
  | _ => cases hr

theorem run_serve_query {r : InstanceRequest} (hr : r.isQuery = true) (out : Outputs)
    (s : Layer Settings σ) :
    (serve r out).run s
      = (((answered r out s).1, { (answered r out s).2 with
            slots := (answered r out s).2.slots.map (overwrite · (minted r out s).1) }),
          (s.ask (.ofInstance (r.resolve s.world.wrapper)) (out.slots.map List.length)).withWrapper
            (minted r out s).2) := by
  have hanswered := answered_of_isQuery hr out s
  have hrelay := run_relay r out s
  dsimp only at hrelay hanswered
  rw [← hanswered] at hrelay
  have hwrapper : (s.ask (.ofInstance (r.resolve s.world.wrapper))
      (out.slots.map List.length)).world.wrapper = s.world.wrapper := Layer.wrapper_ask _ _ _
  unfold minted
  rw [serve_of_isQuery hr]
  unfold reportHandles
  rw [run_bind_of hrelay]
  generalize s.ask (.ofInstance (r.resolve s.world.wrapper)) (out.slots.map List.length) = t
    at hwrapper
  generalize answered r out s = o
  obtain ⟨result, written⟩ := o
  have hkeep : t.withWrapper s.world.wrapper = t := by rw [← hwrapper]; rfl
  dsimp only
  cases hslots : written.slots with
  | none =>
    have hnone : reported (result, written) = [] := reported_eq_nil (.inr hslots)
    rw [hnone, r.wrapped_nil, hkeep, Option.map_none]
    show ((result, written), t) = ((result, { written with slots := none }), t)
    rw [← hslots]
  | some slots =>
    dsimp only
    split
    · next hreports =>
      have hsome : reported (result, written) = slots.take written.count.toNat := by
        simp [reported, Outputs.first, hslots, hreports]
      rw [hsome, ← hwrapper]
      rfl
    · next hsilent =>
      have hnone : reported (result, written) = [] :=
        reported_eq_nil (.inl (Bool.eq_false_iff.2 hsilent))
      rw [hnone, r.wrapped_nil, hkeep, Option.map_some, overwrite, List.map_nil,
        overlay_nil_right]
      show ((result, written), t) = ((result, { written with slots := some slots }), t)
      rw [← hslots]

/-- **What a query comes to** that is not skipped: what the next layer has left, with surrogates
in the place of the handles reported, and nothing else. -/
theorem run_perform_query {r : InstanceRequest} (hr : r.isQuery = true) {s : Layer Settings σ}
    (hveto : s.object.registry.chain.vetoes s.world.behaviour r.command = false) (out : Outputs) :
    ((perform r out).run s).1
        = ((answered r out s).1, { (answered r out s).2 with
            slots := (answered r out s).2.slots.map (overwrite · (minted r out s).1) }) ∧
      ((perform r out).run s).2.world.wrapper = (minted r out s).2 ∧
      ((perform r out).run s).2.world.calls = s.world.calls ++
        if s.object.table.provides r.command then
          [⟨s.object.handle, .ofInstance (r.resolve s.world.wrapper), out.slots.map List.length⟩]
        else [] := by
  have hrun : (perform r out).run s = _ := run_intercept hveto
  have hserve := run_serve_query hr out (s.see
    (toldBefore (s.object.registry.chain.intercepting r.command) r.command))
  dsimp only at hrun
  rw [hserve] at hrun
  rw [hrun]
  refine ⟨rfl, rfl, ?_⟩
  have hcommand : (Request.ofInstance (r.resolve s.world.wrapper)).command = r.command :=
    command_resolve s.world.wrapper r
  refine (Layer.calls_see _ _).trans ?_
  rw [filterMap_toldEach fun _ => rfl, List.append_nil]
  refine (Layer.calls_ask _ _ _).trans ?_
  rw [← hcommand]
  exact congrArg (· ++ _) (Layer.calls_seen (filterMap_toldBefore (fun _ _ => rfl) _ _))

/-- What a query shows are the surrogates that it comes to. -/
theorem reported_perform_query {r : InstanceRequest} (hr : r.isQuery = true)
    {s : Layer Settings σ}
    (hveto : s.object.registry.chain.vetoes s.world.behaviour r.command = false) (out : Outputs) :
    reported ((perform r out).run s).1 = (minted r out s).1 := by
  rw [(run_perform_query hr hveto out).1]
  exact reported_present (r.length_wrapped s.world.wrapper _)

end Instance

/-! ### What calls do to kept surrogates -/

section Calls

variable [NextLayer σ]

/-- A call to a device shows no displays. -/
theorem Device.evolves_perform {s : Layer Tracked σ} (hs : s.world.wrapper.map.Consistent)
    (r : DeviceRequest) (out : Outputs)
    (hlimit : ((perform r out).run s).2.world.wrapper.map.drawn ≤ drawLimit) :
    s.world.wrapper.Evolves (¬ True) ((perform r out).run s).2.world.wrapper :=
  hs.evolves (steps_perform r out s) hlimit

/-- A call to the instance may show some. -/
theorem Instance.evolves_perform {s : Layer Settings σ} (hs : s.world.wrapper.map.Consistent)
    (r : InstanceRequest) (out : Outputs)
    (hlimit : ((perform r out).run s).2.world.wrapper.map.drawn ≤ drawLimit) :
    s.world.wrapper.Evolves (¬ False) ((perform r out).run s).2.world.wrapper :=
  hs.evolves (steps_perform r out s) hlimit

end Calls

/-! ### What is shown in a run -/

/-- The rule that displays stay: no action names what one of them is shown as, unless that is
null, as a handle to go. -/
def Action.sparesDisplays (D : List (Handle × Handle)) (a : Action σ) : Bool :=
  D.all fun p => p.2 == 0 || !a.doomed.contains p.2

theorem Action.notMem_doomed {D : List (Handle × Handle)} {a : Action σ}
    (ha : a.sparesDisplays D = true) {p : Handle × Handle} (hp : p ∈ D) (hzero : p.2 ≠ 0) :
    p.2 ∉ a.doomed := by
  have hrule := List.all_eq_true.1 ha p hp
  simpa [hzero] using hrule

namespace System

section Sightings

variable [NextLayer σ]

/-- The displays that an action has the next layer report, each with what the application is
shown for it. -/
def sighted (s : System σ) : Action σ → List (Handle × Handle)
  | .callInstance (.displays query physicalDevice) out =>
    (reported (Instance.answered (.displays query physicalDevice) out ⟨s.host, s.world⟩)).zip
      (reported (s.onInstance (Instance.perform (.displays query physicalDevice) out)).1)
  | _ => []

/-- The displays that are reported when all of this happens in turn. -/
def sightings (s : System σ) : List (Action σ) → List (Handle × Handle)
  | [] => []
  | a :: actions => s.sighted a ++ (s.act a).sightings actions

/-- Whether displays are spared whatever happens. -/
def sparesDisplays (D : List (Handle × Handle)) (s : System σ) : List (Action σ) → Bool
  | [] => true
  | a :: actions =>
    a.sparesDisplays D && sparesDisplays (D ++ s.sighted a) (s.act a) actions

end Sightings

/-- Each of the displays so far is shown as the surrogate that is kept for it, and surrogates
that are kept were never announced as objects. -/
structure Shows (D : List (Handle × Handle)) (s : System σ) : Prop where
  consistent : s.world.wrapper.map.Consistent
  unannounced : ∀ real h, s.world.wrapper.map.reverse.get? real = some h →
    ∀ type, (type, h) ∉ createdIn s.world.events
  presents : ∀ p ∈ D, s.world.wrapper.Presents p.1 p.2

namespace Shows

variable {D : List (Handle × Handle)} {s s' : System σ}

/-- A display other than null is shown as a surrogate that lives and is none of an object. -/
theorem live (hs : s.Shows D) {p : Handle × Handle} (hp : p ∈ D) (hzero : p.1 ≠ 0) :
    s.world.wrapper.map.unwrap p.2 = some p.1 ∧ p.2 ≠ 0 ∧
      ∀ type, (type, p.2) ∉ createdIn s.world.events := by
  have hkept := hs.presents p hp
  unfold Wrapper.Presents at hkept
  rw [if_neg hzero] at hkept
  have hresolves := hs.consistent.unwrap p.1 p.2 hkept
  exact ⟨hresolves, (hs.consistent.drawn p.2 (by rw [hresolves]; rfl)).2,
    hs.unannounced p.1 p.2 hkept⟩

/-- What a display is shown as stands for it. -/
theorem unwrap_eq (hs : s.Shows D) (hw : s.world.wrapper.enabled = true)
    {p : Handle × Handle} (hp : p ∈ D) : s.world.wrapper.unwrap p.2 = p.1 := by
  by_cases hzero : p.1 = 0
  · have hshown := hs.presents p hp
    unfold Wrapper.Presents at hshown
    rw [if_pos hzero] at hshown
    rw [hshown, hzero, Wrapper.unwrap_zero]
  · obtain ⟨hresolves, hne, -⟩ := hs.live hp hzero
    exact Wrapper.unwrap_of_resolves hw hne hresolves

/-- Null is shown as null, and nothing else is. -/
theorem zero_iff (hs : s.Shows D) {p : Handle × Handle} (hp : p ∈ D) : p.1 = 0 ↔ p.2 = 0 := by
  by_cases hzero : p.1 = 0
  · have hshown := hs.presents p hp
    unfold Wrapper.Presents at hshown
    rw [if_pos hzero] at hshown
    exact ⟨fun _ => hshown, fun _ => hzero⟩
  · exact ⟨fun h => absurd h hzero, fun h => absurd h (hs.live hp hzero).2.1⟩

/-- What a display is shown as is replaced by the display again. -/
theorem realOf (hs : s.Shows D) {p : Handle × Handle} (hp : p ∈ D) :
    s.world.wrapper.map.RealOf p.2 p.1 := by
  obtain ⟨real, shown⟩ := p
  by_cases hzero : real = 0
  · have hshown : shown = 0 := (hs.zero_iff hp).1 hzero
    rw [hzero, hshown]
    exact .null
  · obtain ⟨hresolves, hne, -⟩ := hs.live hp hzero
    exact .live hne hresolves

/-- The same displays are shown as the same handles, and others as others. -/
theorem shown_eq_iff (hs : s.Shows D) (hw : s.world.wrapper.enabled = true)
    {p q : Handle × Handle} (hp : p ∈ D) (hq : q ∈ D) : p.1 = q.1 ↔ p.2 = q.2 := by
  refine ⟨fun heq => ?_, fun heq => ?_⟩
  · have hshown := hs.presents p hp
    have hshown' := hs.presents q hq
    unfold Wrapper.Presents at hshown hshown'
    rw [heq] at hshown
    split at hshown
    · next hzero =>
      rw [if_pos hzero] at hshown'
      rw [hshown, hshown']
    · next hzero =>
      rw [if_neg hzero] at hshown'
      exact Option.some.inj (hshown.symm.trans hshown')
  · rw [← hs.unwrap_eq hw hp, ← hs.unwrap_eq hw hq, heq]

/-- Displays are shown as before, if their surrogates live on and no new object gets a kept
one. -/
theorem keep (hs : s.Shows D) (hsound : s.Sound) {shows : Prop}
    (hevolves : s.world.wrapper.Evolves shows s'.world.wrapper)
    (hlive : ∀ p ∈ D, p.1 ≠ 0 → s'.world.Live p.2)
    (hborn : ∀ p ∈ createdIn s'.world.events, p ∈ createdIn s.world.events ∨
      ¬ shows ∧ ¬ s.world.Live p.2)
    (hlimit : s'.world.wrapper.map.drawn ≤ drawLimit) : s'.Shows D := by
  refine ⟨hevolves.consistent, fun real h hkept type hmem => ?unannounced, fun p hp => ?presents⟩
  case unannounced =>
    rcases hborn _ hmem with hold | ⟨hhides, hdead⟩
    · rcases hevolves.arrived real h hkept with hbefore | ⟨-, n, hlow, hhigh, heq⟩
      · exact hs.unannounced real h hbefore type hold
      · -- what was announced belongs to an earlier draw
        obtain ⟨ps, hcreated, -, hbound⟩ := hsound.world.created
        rw [hcreated] at hold
        obtain ⟨q, hq, hqh⟩ := List.mem_map.1 hold
        have hdrawn : s.world.wrapper.map.Drawn h :=
          ⟨q.2, hbound q hq, (congrArg Prod.snd hqh).symm⟩
        exact hdrawn.ne_later hlow (by omega) heq
    · rcases hevolves.arrived real h hkept with hbefore | ⟨hshows, -⟩
      · refine hdead ?_
        unfold World.Live
        rw [hs.consistent.unwrap real h hbefore]
        rfl
      · exact hhides hshows
  case presents =>
    have hbefore := hs.presents p hp
    unfold Wrapper.Presents at hbefore ⊢
    split
    · next hzero => rwa [if_pos hzero] at hbefore
    · next hzero =>
      rw [if_neg hzero] at hbefore
      exact hevolves.kept p.1 p.2 hbefore (hlive p hp hzero)

/-- Nothing has happened to what is shared. -/
theorem of_quiet (hs : s.Shows D) (h : Quiet s.world s'.world) : s'.Shows D := by
  obtain ⟨hwrapper, es, hevents, hsilent⟩ := h
  have hcreated : createdIn s'.world.events = createdIn s.world.events := by
    rw [hevents, createdIn_append, hsilent.1, List.append_nil]
  refine ⟨hwrapper ▸ hs.consistent, fun real h hkept => ?_, fun p hp => ?_⟩
  · rw [hcreated]
    rw [hwrapper] at hkept
    exact hs.unannounced real h hkept
  · rw [hwrapper]
    exact hs.presents p hp

/-- A call by which objects come or go, if it does not create objects and show displays. -/
theorem of_mirrors (hs : s.Shows D) (hsound : s.Sound) {type? : Option ObjectType}
    {named : List (ObjectType × Handle)} {es : List Event}
    (h : Mirrors type? named es s.world s'.world) {shows : Prop}
    (hevolves : s.world.wrapper.Evolves shows s'.world.wrapper) (hone : type? = none ∨ ¬ shows)
    (hnamed : ∀ p ∈ D, p.2 ≠ 0 → p.2 ∉ named.map Prod.snd)
    (hlimit : s'.world.wrapper.map.drawn < drawLimit) : s'.Shows D := by
  refine hs.keep hsound hevolves (fun p hp hzero => ?_) (fun p hp => ?_) (Nat.le_of_lt hlimit)
  · obtain ⟨hresolves, hne, hnever⟩ := hs.live hp hzero
    have hlive : s.world.Live p.2 := by
      unfold World.Live
      rw [hresolves]
      rfl
    refine (h.live p.2).2 ⟨.inl hlive, fun hgone => ?_⟩
    -- what goes was named or announced, and a display was neither
    obtain ⟨q, hq, hqp⟩ := List.mem_map.1 hgone
    rcases h.destroyed q hq with hmem | hmem
    · exact hnamed p hp hne (List.mem_map.2 ⟨q, hmem, hqp⟩)
    · exact hnever q.1 (hqp ▸ hmem)
  · rw [h.events_eq, createdIn_append] at hp
    rcases List.mem_append.1 hp with hold | hnew
    · exact .inl hold
    · rcases hone with hnone | hhides
      · have hcreates := h.created p hnew
        rw [hnone] at hcreates
        cases hcreates
      · exact .inr ⟨hhides, (h.fresh hlimit p hnew).1⟩

/-- Displays that are shown together with those so far. -/
theorem append (hs : s.Shows D) {D' : List (Handle × Handle)}
    (hnew : ∀ p ∈ D', s.world.wrapper.Presents p.1 p.2) : s.Shows (D ++ D') :=
  ⟨hs.consistent, hs.unannounced, fun p hp =>
    (List.mem_append.1 hp).elim (hs.presents p) (hnew p)⟩

variable [NextLayer σ]

theorem callDevice (hs : s.Shows D) (hsound : s.Sound) {k : Nat} {r : DeviceRequest}
    {out : Outputs} (hspares : Action.sparesDisplays (σ := σ) D (.callDevice k r out) = true)
    (hlimit : (s.act (.callDevice k r out)).world.wrapper.map.drawn < drawLimit) :
    (s.act (.callDevice k r out)).Shows D := by
  cases hdevice : s.devices[k]? with
  | none =>
    rw [act_of_no_device hdevice]
    exact hs
  | some device =>
    obtain ⟨es, hmirrors⟩ := (turn_callDevice hsound k r out).mirrors hsound.world
    have hevolves : s.world.wrapper.Evolves (¬ True)
        (s.act (.callDevice k r out)).world.wrapper := by
      rw [act_of_device hdevice] at hlimit ⊢
      exact Device.evolves_perform (s := ⟨device, s.world⟩) hs.consistent r out
        (Nat.le_of_lt hlimit)
    exact hs.of_mirrors hsound hmirrors hevolves (.inr fun h => h trivial)
      (fun p hp hzero => Action.notMem_doomed hspares hp hzero) hlimit

/-- The surrogates that displays are shown as are kept from then on. -/
theorem presents_sighted (hsound : s.Sound) (query : DisplayQuery) (physicalDevice : Handle)
    (out : Outputs) :
    let a : Action σ := .callInstance (.displays query physicalDevice) out
    ∀ p ∈ s.sighted a, (s.act a).world.wrapper.Presents p.1 p.2 := by
  intro a
  let r := InstanceRequest.displays query physicalDevice
  let call : Layer Settings σ := ⟨s.host, s.world⟩
  show ∀ p ∈ (reported (Instance.answered r out call)).zip
      (reported ((Instance.perform r out).run call).1),
    ((Instance.perform r out).run call).2.world.wrapper.Presents p.1 p.2
  cases hveto : s.host.registry.chain.vetoes s.world.behaviour r.command with
  | true =>
    have hnone : reported ((Instance.perform r out).run call).1 = [] := by
      rw [Instance.run_perform_of_vetoes hveto]
      rfl
    rw [hnone, List.zip_nil_right]
    exact fun p hp => absurd hp List.not_mem_nil
  | false =>
    have hshown : reported ((Instance.perform r out).run call).1 = (Instance.minted r out call).1 :=
      Instance.reported_perform_query rfl hveto out
    have hafter : ((Instance.perform r out).run call).2.world.wrapper
        = (Instance.minted r out call).2 := (Instance.run_perform_query rfl hveto out).2.1
    rw [hshown, hafter]
    have hpresents : List.Forall₂ (Instance.minted r out call).2.Presents
        (reported (Instance.answered r out call)) (Instance.minted r out call).1 :=
      Wrapper.presents_wrapDisplayMany hsound.world.wrapping _
    exact fun p hp => (List.forall₂_iff_zip.1 hpresents).2 hp

theorem callInstance (hs : s.Shows D) (hsound : s.Sound) {r : InstanceRequest} {out : Outputs}
    (hspares : Action.sparesDisplays (σ := σ) D (.callInstance r out) = true)
    (hlimit : (s.act (.callInstance r out)).world.wrapper.map.drawn < drawLimit) :
    (s.act (.callInstance r out)).Shows D := by
  have hevolves : s.world.wrapper.Evolves (¬ False)
      (s.act (.callInstance r out)).world.wrapper :=
    Instance.evolves_perform (s := ⟨s.host, s.world⟩) hs.consistent r out (Nat.le_of_lt hlimit)
  by_cases hr : ∃ surface, r = .destroySurface surface
  · obtain ⟨surface, rfl⟩ := hr
    have hturn : Turn none [(.surface, surface)] s.world
        (s.act (.callInstance (.destroySurface surface) out)).world :=
      Instance.deaths_perform (s := ⟨s.host, s.world⟩) hsound.world.wrapping surface out
    obtain ⟨es, hmirrors⟩ := hturn.mirrors hsound.world
    exact hs.of_mirrors hsound hmirrors hevolves (.inl rfl)
      (fun p hp hzero => Action.notMem_doomed hspares hp hzero) hlimit
  · obtain ⟨hfares, es, hevents, hsilent⟩ : Reports s.world
        (s.act (.callInstance r out)).world :=
      Instance.reports_perform (s := ⟨s.host, s.world⟩) hsound.world.wrapping
        (fun surface heq => hr ⟨surface, heq⟩) out
    refine hs.keep hsound hevolves (fun p hp hzero => ?_) (fun p hp => ?_) (Nat.le_of_lt hlimit)
    · refine hfares.kept p.2 ?_ List.not_mem_nil
      rw [(hs.live hp hzero).1]
      rfl
    · rw [hevents, createdIn_append, hsilent.1, List.append_nil] at hp
      exact .inl hp

/-- **Whatever happens keeps the invariant**, if displays are spared. -/
theorem act (hs : s.Shows D) (hsound : s.Sound) {a : Action σ}
    (hspares : a.sparesDisplays D = true)
    (hlimit : (s.act a).world.wrapper.map.drawn < drawLimit) :
    (s.act a).Shows (D ++ s.sighted a) := by
  have hsilent : ∀ {t : System σ}, t.Shows D → t.Shows (D ++ []) := fun ht => by
    rwa [List.append_nil]
  cases a with
  | callInstance r out =>
    have hcall := hs.callInstance hsound hspares hlimit
    cases r with
    | displays query physicalDevice =>
      exact hcall.append (presents_sighted hsound query physicalDevice out)
    | _ => exact hsilent hcall
  | callDevice k r out => exact hsilent (hs.callDevice hsound hspares hlimit)
  | createDevice physicalDevice handle table objects =>
    exact hsilent (hs.of_quiet (Instance.run_startDevice physicalDevice handle table objects
      ⟨s.host, s.world⟩).2)
  | release device kind | releaseAll device =>
    cases device with
    | none => exact hsilent (hs.of_quiet (.refl _))
    | some k => exact hsilent (hs.of_quiet (.refl _))
  | instruct behaviour => exact hsilent (hs.of_quiet (.refl _))
  | moveBelow f => exact hsilent (hs.of_quiet (.refl _))

/-- **The invariant holds after every run** that spares displays. -/
theorem run (hs : s.Shows D) (hsound : s.Sound) {actions : List (Action σ)}
    (hspares : s.sparesDisplays D actions = true)
    (hlimit : (s.run actions).world.wrapper.map.drawn < drawLimit) :
    (s.run actions).Shows (D ++ s.sightings actions) := by
  induction actions generalizing s D with
  | nil =>
    rw [sightings, List.append_nil]
    exact hs
  | cons a actions ih =>
    rw [sparesDisplays, Bool.and_eq_true] at hspares
    have hnext := hsound.act a
    have hone := hs.act hsound hspares.1 (Nat.lt_of_le_of_lt (drawn_le_run hnext actions) hlimit)
    rw [sightings, ← List.append_assoc]
    exact ih hone hnext hspares.2 hlimit

end Shows

/-- In the beginning no displays are kept. -/
theorem shows_start [NextLayer σ] (instanceHandle : Handle) (requested : ApiVersion)
    (settings : Settings) (table : EntryTable) (behaviour : Behaviour)
    (objects : List ValidationObject) (below : σ) :
    (start instanceHandle requested settings table behaviour objects below).Shows [] := by
  have hreverse : ∀ real, SurrogateMap.empty.reverse.get? real = none :=
    fun real => Table.get?_empty real
  refine ⟨⟨fun real s hs => ?_, fun s hs => ?_⟩, fun real h hkept => ?_,
    fun p hp => absurd hp List.not_mem_nil⟩
  · have hnone := (hreverse real).symm.trans hs
    cases hnone
  · have hnone : (SurrogateMap.empty.unwrap s).isSome = true := hs
    rw [SurrogateMap.unwrap_empty] at hnone
    cases hnone
  · have hnone := (hreverse real).symm.trans hkept
    cases hnone

end System

/-! ### Displays and modes -/

namespace Instance

variable [NextLayer σ]

/-- A query after which nothing is reported, or without room for handles, comes to what the next
layer has left. -/
theorem perform_query_of_silent {r : InstanceRequest} (hr : r.isQuery = true)
    {s : Layer Settings σ}
    (hveto : s.object.registry.chain.vetoes s.world.behaviour r.command = false) {out : Outputs}
    (hsilent : (answered r out s).1.reports = false ∨ out.slots = none) :
    ((perform r out).run s).1 = answered r out s ∧
      ((perform r out).run s).2.world.wrapper = s.world.wrapper := by
  obtain ⟨houtcome, hwrapper, -⟩ := run_perform_query hr hveto out
  have hslots : out.slots = none → (answered r out s).2.slots = none := fun hnone => by
    cases r with
    | displays | modes =>
      show out.slots.map _ = none
      rw [hnone, Option.map_none]
    | _ => cases hr
  have hnone : reported (answered r out s) = [] := reported_eq_nil (hsilent.imp_right hslots)
  have hminted : minted r out s = ([], s.world.wrapper) := by
    unfold minted
    rw [hnone, r.wrapped_nil]
  rw [hminted] at houtcome hwrapper
  exact ⟨houtcome.trans (Outcome.present_nil _), hwrapper⟩

/-- Modes get new surrogates, unless they are null. -/
theorem mints_minted {query : ModeQuery} {physicalDevice display : Handle}
    {s : Layer Settings σ} (hs : s.world.wrapper.enabled = true) (out : Outputs) :
    let r := InstanceRequest.modes query physicalDevice display
    (minted r out s).2.map.drawn ≤ drawLimit →
    s.world.wrapper.Mints ((reported (answered r out s)).filter (· ≠ 0))
      ((minted r out s).1.filter (· ≠ 0)) (minted r out s).2 := by
  intro r hlimit
  let reals := reported (answered r out s)
  have hnonzero : 0 ∉ reals.filter (· ≠ 0) := by simp
  have hmints := Wrapper.mints_wrapNewMany hs hnonzero
  rw [Wrapper.wrapNewMany_filter hs reals] at hmints
  exact hmints hlimit

end Instance

/-- **A display has one identity.**  Take a system that wraps handles and anything that may
happen to it, as long as no surrogate of a display is named as a handle to go and fewer ids are
drawn than there are.

Whichever queries have reported them, displays are shown as the same handle if and only if they
are the same, and as null if and only if they are null; what another display is shown as stands for
it in the end.  From then on a query that is not skipped comes to what the next layer has left, with
handles shown in the place of those reported and nowhere else, and if it fails or has no room for
handles, it changes no surrogates.  A query for modes hands down the display that its surrogate
stands for, and every mode reported that is not null gets a surrogate of its own, which was
never drawn before. -/
theorem displays_keep_one_surrogate [NextLayer σ] (instanceHandle : Handle)
    (requested : ApiVersion) (settings : Settings) (hwrapping : settings.handleWrapping = true)
    (table : EntryTable) (behaviour : Behaviour) (objects : List ValidationObject) (below : σ)
    (actions : List (Action σ)) :
    let start := System.start instanceHandle requested settings table behaviour objects below
    let s := start.run actions
    start.sparesDisplays [] actions = true →
    s.world.wrapper.map.drawn < drawLimit →
    (∀ p ∈ start.sightings actions, ∀ q ∈ start.sightings actions, p.1 = q.1 ↔ p.2 = q.2) ∧
    (∀ p ∈ start.sightings actions, (p.1 = 0 ↔ p.2 = 0) ∧ s.world.wrapper.map.RealOf p.2 p.1) ∧
    ∀ (r : InstanceRequest) (out : Outputs), r.isQuery = true →
      let call : Layer Settings σ := ⟨s.host, s.world⟩
      let answer := Instance.answered r out call
      let done := (Instance.perform r out).run call
      if s.host.registry.chain.vetoes s.world.behaviour r.command = true then
        done.1 = (.validationFailed, out) ∧ done.2.world.wrapper = s.world.wrapper
      else
        done.1 = (answer.1, { answer.2 with
          slots := answer.2.slots.map (overwrite · (reported done.1)) }) ∧
        (reported done.1).length = (reported answer).length ∧
        (answer.1.reports = false ∨ out.slots = none →
          done.1 = answer ∧ done.2.world.wrapper = s.world.wrapper) ∧
        ∀ query physicalDevice display, r = .modes query physicalDevice display →
          (∃ real, s.world.wrapper.map.RealOf display real ∧
            done.2.world.calls = s.world.calls ++ (if s.host.table.provides r.command then
              [⟨s.host.handle, .ofInstance (.modes query physicalDevice real),
                out.slots.map List.length⟩] else [])) ∧
          List.Forall₂ (fun h real => h = 0 ↔ real = 0) (reported done.1) (reported answer) ∧
          (done.2.world.wrapper.map.drawn ≤ drawLimit →
            s.world.wrapper.Mints ((reported answer).filter (· ≠ 0))
              ((reported done.1).filter (· ≠ 0)) done.2.world.wrapper) := by
  intro start s hspares hlimit
  have hstart : start.Sound :=
    System.sound_start instanceHandle requested hwrapping table behaviour objects below
  have hshows : s.Shows ([] ++ start.sightings actions) :=
    (System.shows_start instanceHandle requested settings table behaviour objects below).run
      hstart hspares hlimit
  rw [List.nil_append] at hshows
  have henabled : s.world.wrapper.enabled = true := (hstart.run actions).world.wrapping
  refine ⟨fun p hp q hq => hshows.shown_eq_iff henabled hp hq,
    fun p hp => ⟨hshows.zero_iff hp, hshows.realOf hp⟩, ?_⟩
  intro r out hr call answer done
  split
  · next hveto =>
    have hrun : done = _ := Instance.run_perform_of_vetoes hveto
    rw [hrun]
    exact ⟨rfl, rfl⟩
  · next hveto =>
    have hveto := Bool.eq_false_iff.2 hveto
    obtain ⟨houtcome, hwrapper, hcalls⟩ := Instance.run_perform_query (s := call) hr hveto out
    have hshown := Instance.reported_perform_query (s := call) hr hveto out
    refine ⟨?_, ?_, Instance.perform_query_of_silent (s := call) hr hveto, ?_⟩
    · rw [hshown]
      exact houtcome
    · rw [hshown]
      exact r.length_wrapped s.world.wrapper _
    · intro query physicalDevice display hmodes
      obtain rfl := hmodes
      refine ⟨⟨_, realOf_unwrap henabled display, hcalls⟩, ?_, fun hbound => ?_⟩
      · rw [hshown]
        exact Wrapper.forall₂_wrapNewMany henabled _
      · rw [hshown, hwrapper]
        rw [hwrapper] at hbound
        exact Instance.mints_minted (s := call) henabled out hbound

/-- A display stays the same from one query to the next, the second time after null and before
another one, whatever becomes of a fence with the same real handle; of its three modes one is
null. -/
theorem displays_of_two_queries :
    let table : EntryTable := ⟨[.getPhysicalDeviceDisplayPropertiesKhr,
      .getPhysicalDeviceDisplayPlaneProperties2Khr, .getDisplayModePropertiesKhr]⟩
    let actions : List (Action Scripted) :=
      [.createDevice 0xd000 0xe000 ⟨[.createFence, .destroyFence]⟩ [],
        .moveBelow fun s => { s with script := { handles := some [some 7] } },
        .callDevice 0 (.create .fence) { slots := some [0] },
        .moveBelow fun s => { s with script := { handles := some [some 7, none, some 9] } },
        .callInstance (.displays .displays 0xd000) { slots := some [0], count := 1 },
        .callInstance (.displays .planes2 0xd000) { slots := some [0, 0, 0], count := 3 },
        .callDevice 0 (.destroy .fence (idAt 0)) {}]
    let start := System.start 0xa000 0 .default table default [] ({} : Scripted)
    let s := start.run actions
    let r := InstanceRequest.modes .modes 0xd000 (idAt 1)
    let out : Outputs := { slots := some [0, 0, 0], count := 3 }
    let done := (Instance.perform r out).run ⟨s.host, s.world⟩
    (Settings.default.handleWrapping = true ∧ start.sparesDisplays [] actions = true ∧
        s.world.wrapper.map.drawn < drawLimit) ∧
      start.sightings actions = [(7, idAt 1), (7, idAt 1), (0, 0), (9, idAt 2)] ∧
      (idAt 1 ≠ idAt 2 ∧ s.world.wrapper.map.unwrap (idAt 1) = some 7) ∧
      done.2.world.calls
        = s.world.calls ++ [⟨0xa000, .ofInstance (.modes .modes 0xd000 7), some 3⟩] ∧
      s.world.wrapper.Mints [7, 9] [idAt 3, idAt 4] done.2.world.wrapper := by
  intro table actions start s r out done
  have hwrapping : Settings.default.handleWrapping = true := by decide +kernel
  have hspares : start.sparesDisplays [] actions = true := by decide +kernel
  have hlimit : s.world.wrapper.map.drawn < drawLimit := by decide +kernel
  have hsightings : start.sightings actions
      = [(7, idAt 1), (7, idAt 1), (0, 0), (9, idAt 2)] := by decide +kernel
  have hveto : ¬ s.host.registry.chain.vetoes s.world.behaviour r.command = true := by
    decide +kernel
  have hprovides : s.host.table.provides r.command = true ∧ s.host.handle = 0xa000 := by
    decide +kernel
  have hanswer : (reported (Instance.answered r out ⟨s.host, s.world⟩)).filter (· ≠ 0)
      = [7, 9] := by decide +kernel
  have hshown : (reported done.1).filter (· ≠ 0) = [idAt 3, idAt 4] := by decide +kernel
  have hbound : done.2.world.wrapper.map.drawn ≤ drawLimit := by decide +kernel
  clear_value actions
  obtain ⟨hsame, hresolve, hqueries⟩ := displays_keep_one_surrogate 0xa000 0 .default hwrapping
    table default [] ({} : Scripted) actions hspares hlimit
  rw [hsightings] at hsame hresolve
  obtain ⟨hzero, hreal⟩ := hresolve (7, idAt 1) (by simp)
  have hnonzero : idAt 1 ≠ 0 := fun h => absurd (hzero.2 h) (by decide)
  have hdisplay : s.world.wrapper.map.unwrap (idAt 1) = some 7 := hreal.unwrap_eq (by decide)
  have hquery := hqueries r out rfl
  dsimp only at hquery
  rw [if_neg hveto] at hquery
  obtain ⟨⟨real, hdown, hcalls⟩, -, hmints⟩ := hquery.2.2.2 .modes 0xd000 (idAt 1) rfl
  have hdown : real = 7 := hdown.eq_of_unwrap hnonzero hdisplay
  refine ⟨⟨hwrapping, hspares, hlimit⟩, hsightings, ⟨fun heq => ?_, hdisplay⟩, ?_, ?_⟩
  · have hreal := (hsame (7, idAt 1) (by simp) (9, idAt 2) (by simp)).2 heq
    cases hreal
  · rw [if_pos hprovides.1, hprovides.2] at hcalls
    exact hdown ▸ hcalls
  · have hminted := hmints hbound
    rw [hanswer, hshown] at hminted
    exact hminted

end HandleLayer
