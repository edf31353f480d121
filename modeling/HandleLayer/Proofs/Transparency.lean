import HandleLayer.Proofs.LifetimeRuns
import HandleLayer.Proofs.Unwrapped
import HandleLayer.Proofs.Upkeep

/-!
# Wrapping is transparent

A program is run twice on the same next layer, once with handles wrapped and once
without.  The next layer cannot tell the two runs apart.

## Main definitions

* `Twin` — two runs so far that the next layer cannot tell apart.
* `Alike` — a call that comes to the same in both of them.

## Main results

* `Twin.alike` — a call that names only what it may name comes to the same in both runs.
* `Twin.perform` — one more call of the program.
* `Twin.run` — the calls that follow.
* `wrapping_is_transparent` — **the next layer gets the same calls and is left in the same
  state, and the application gets the same results.**
-/

namespace HandleLayer

variable {σ : Type}

/-! ### Names in both runs -/

section Agreement

variable {fixed : Obj → List Handle} {ids : Nat} {L : Ledger} {front back : Obj → Handle}
  {w : Wrapper} {t : Tracked} {source : Handle → Source} {a b : Handle → Handle}

/-- What the application says in the two runs: `a` where handles are wrapped, and `b` where
they are not. -/
structure Readings (L : Ledger) (front back : Obj → Handle) (source : Handle → Source)
    (a b : Handle → Handle) : Prop where
  objects : ∀ n, source n = .null ∨ L.object (source n) ∈ L.objects →
    a n = front (L.object (source n)) ∧ b n = back (L.object (source n))
  outside : ∀ n h, source n = .outside h → a n = h ∧ b n = h

/-- **A name that may be used means the same in both runs.** -/
theorem agrees_of_permits (h : L.Fits fixed ids front back w t)
    (hreadings : Readings L front back source a b) {p : HandleUse × Handle}
    (hp : L.permits source p = true)
    (hapart : ∀ k, source p.2 = .outside k → isApart ids k = true) :
    HandleUse.Agrees w t.toShadows a b p := by
  obtain ⟨use, n⟩ := p
  -- no object is null in either run
  have hnull : ∀ {n}, source n = .null → a n = 0 ∧ b n = 0 := by
    intro n hn
    obtain ⟨ha, hb⟩ := hreadings.objects n (.inl hn)
    rw [hn] at ha hb
    exact ⟨ha.trans h.names.null_front, hb.trans h.names.null_back⟩
  -- an object that is not gone has a surrogate, which stands for its other handle
  have hwrapped : ∀ {n}, L.object (source n) ∈ L.objects → L.object (source n) ∉ L.gone →
      (L.object (source n)).isBuffer = false →
        w.unwrap (a n) = b n ∧ w.unwrapOrKeep (a n) = b n := by
    intro n hmem hnot hfalse
    obtain ⟨ha, hb⟩ := hreadings.objects n (.inr hmem)
    rw [ha, hb]
    exact h.holds.unwrap_front h.names hmem hnot hfalse
  -- a command buffer is not wrapped, and its handle is no surrogate of another object
  have hbuffer : ∀ {n}, L.object (source n) ∈ L.objects →
      (L.object (source n)).isBuffer = true → a n = b n ∧ isApart ids (a n) = true := by
    intro n hmem htrue
    obtain ⟨ha, hb⟩ := hreadings.objects n (.inr hmem)
    rw [ha, hb]
    exact ⟨(h.names.same _ hmem htrue).symm, h.names.apart _ hmem htrue⟩
  have houtside : ∀ {n}, (source n).isOutside = true → ∃ k, source n = .outside k := by
    intro n hn
    cases hs : source n with
    | outside k => exact ⟨k, rfl⟩
    | null | slot =>
      rw [hs] at hn
      exact absurd hn Bool.false_ne_true
  cases use with
  | wrapped =>
    show w.unwrap (a n) = b n
    rcases Ledger.permits_wrapped.1 hp with hn | ⟨⟨hmem, hnot⟩, hfalse⟩
    · rw [(hnull hn).1, (hnull hn).2, Wrapper.unwrap_zero]
    · exact (hwrapped hmem hnot hfalse).1
  | owner =>
    obtain ⟨⟨hmem, hnot⟩, hfalse⟩ := Ledger.permits_owner.1 hp
    exact (hwrapped hmem hnot hfalse).1
  | commandBuffer =>
    show a n = b n
    rcases Ledger.permits_commandBuffer.1 hp with hn | ⟨⟨hmem, -⟩, htrue⟩
    · rw [(hnull hn).1, (hnull hn).2]
    · exact (hbuffer hmem htrue).1
  | dispatchable =>
    obtain ⟨k, hk⟩ := houtside hp
    obtain ⟨ha, hb⟩ := hreadings.outside n k hk
    exact ha.trans hb.symm
  | inherited buffer =>
    show (if t.secondaries.contains (a buffer) then w.unwrap (a n) else a n) = b n
    rcases Ledger.permits_inherited.1 hp with
      hn | ⟨⟨⟨hmem, hnot⟩, hsecondary⟩, ⟨hmem', hnot'⟩, hfalse⟩
    · rw [(hnull hn).1, (hnull hn).2, Wrapper.unwrap_zero]
      exact ite_self _
    · -- the layer knows that the command buffer is a secondary one
      have hcontains : t.secondaries.contains (a buffer) = true := by
        rw [(hreadings.objects buffer (.inr hmem)).1]
        obtain ⟨pool, call, index, heq⟩ := Obj.exists_of_isSecondary hsecondary
        rw [heq] at hmem hnot ⊢
        rw [Table.contains_eq_isSome_get?, h.keeps.secondary pool call index hmem hnot]
        rfl
      rw [if_pos hcontains]
      exact (hwrapped hmem' hnot' hfalse).1
  | labelled =>
    show w.unwrapOrKeep (a n) = b n
    rcases Ledger.permits_labelled.1 hp with hn | hn | ⟨hmem, hnot⟩
    · rw [(hnull hn).1, (hnull hn).2, Wrapper.unwrapOrKeep_zero]
    · obtain ⟨k, hk⟩ := houtside hn
      obtain ⟨ha, hb⟩ := hreadings.outside n k hk
      rw [ha, hb, h.holds.unwrapOrKeep_of_isApart (hapart k hk)]
    · cases hkind : (L.object (source n)).isBuffer with
      | false => exact (hwrapped hmem hnot hkind).2
      | true =>
        obtain ⟨hsame, happart⟩ := hbuffer hmem hkind
        rw [h.holds.unwrapOrKeep_of_isApart happart, hsame]
  | ignored =>
    have hn : source n = .null := eq_of_beq hp
    exact hnull hn

end Agreement

/-! ### Two runs -/

/-- An outcome without the handles in its output slots. -/
def Outcome.bare (o : Outcome) : Result × Outputs × Option Nat :=
  (o.1, { o.2 with slots := none }, o.2.slots.map List.length)

theorem Outcome.bare_present (hs : List Handle) (o : Outcome) : (o.present hs).bare = o.bare := by
  have hlength : (o.2.slots.map (overwrite · hs)).map List.length = o.2.slots.map List.length := by
    cases o.2.slots with
    | none => rfl
    | some slots => exact congrArg some (length_overlay slots _)
  show (o.1, _, (o.2.slots.map (overwrite · hs)).map List.length) = _
  rw [hlength]
  rfl

/-- Two runs of a program so far: `p` with handles wrapped, and `q` without. -/
structure Twin (fixed : Obj → List Handle) (ids : Nat) (L : Ledger)
    (p q : List Outcome × Layer Tracked σ) (front back : Obj → Handle) : Prop where
  resembles : q.2.Resembles p.2
  plain : q.2.Plain
  fits : L.Fits fixed ids front back p.2.world.wrapper p.2.object.own
  size : p.1.length = L.size
  outcomes : p.1.map Outcome.bare = q.1.map Outcome.bare
  reads : ∀ call index u, L.at? call index = some u →
    slotOf p.1 call index = front u ∧ slotOf q.1 call index = back u
  places : ∀ call index u, L.at? call index = some u → u.isBuffer = true →
    ∃ owner kind, u = .child owner kind call index

/-- A program that is run anew. -/
theorem twin_fresh (fixed : Obj → List Handle) (ids : Nat) (s : Layer Tracked σ) :
    Twin fixed ids .empty ([], s.fresh true) ([], s.fresh false) (fun _ => 0) fun _ => 0 :=
  ⟨⟨rfl, rfl, rfl, rfl⟩, ⟨rfl, rfl⟩, Ledger.fits_empty fixed ids, rfl, rfl,
    fun _ _ _ hu => (nomatch hu), fun _ _ _ hu => nomatch hu⟩

/-- A call comes to the same in both runs, as far as the next layer and the ledger are
concerned. -/
structure Alike [NextLayer σ] (fixed : Obj → List Handle) (ids : Nat) (L : Ledger)
    (front back : Obj → Handle) (c : ProgramCall) (p q : List Outcome × Layer Tracked σ) :
    Prop where
  resembles : (c.run q).2.Resembles (c.run p).2
  plain : (c.run q).2.Plain
  bare : (c.run p).1.bare = (c.run q).1.bare
  follows : Ledger.Follows fixed ids L front back c (c.run q).1
    ((c.run p).1, (c.run p).2.world.wrapper, (c.run p).2.object.own)

namespace Twin

variable {fixed : Obj → List Handle} {ids : Nat} {L : Ledger}
  {p q : List Outcome × Layer Tracked σ} {front back : Obj → Handle} {c : ProgramCall}

/-- Each name means the same object in both runs. -/
theorem readings (h : Twin fixed ids L p q front back) (source : Handle → Source) :
    Readings L front back source (fun n => (source n).value p.1) fun n => (source n).value q.1 := by
  constructor
  · intro n hn
    show (source n).value p.1 = _ ∧ (source n).value q.1 = _
    cases hsource : source n with
    | null => exact ⟨h.fits.names.null_front.symm, h.fits.names.null_back.symm⟩
    | outside k =>
      rw [hsource] at hn
      exact hn.elim Source.noConfusion fun hmem => absurd hmem h.fits.names.null_notMem
    | slot call index =>
      rw [hsource] at hn
      have hmem : L.object (.slot call index) ∈ L.objects := hn.elim Source.noConfusion id
      have hobject : L.object (.slot call index) = (L.at? call index).getD .null := rfl
      rw [hobject] at hmem ⊢
      cases hat : L.at? call index with
      | none =>
        rw [hat] at hmem
        exact absurd hmem h.fits.names.null_notMem
      | some u => exact h.reads call index u hat
  · intro n k hn
    show (source n).value p.1 = _ ∧ (source n).value q.1 = _
    rw [hn]
    exact ⟨rfl, rfl⟩

theorem agrees (h : Twin fixed ids L p q front back)
    (hpermits : ∀ n ∈ c.template.names, L.permits c.source n = true)
    (hapart : c.isApart ids = true) :
    ∀ n ∈ c.template.names, HandleUse.Agrees p.2.world.wrapper p.2.object.own.toShadows
      (fun n => (c.source n).value p.1) (fun n => (c.source n).value q.1) n := by
  intro n hn
  refine agrees_of_permits h.fits (h.readings c.source) (hpermits n hn)
    fun k hk => ?_
  have hout := List.all_eq_true.1 hapart n hn
  rw [hk] at hout
  exact hout

theorem passes (h : Twin fixed ids L p q front back)
    (hpermits : ∀ n ∈ c.template.names, L.permits c.source n = true) :
    L.Passes front c.source (fun n => (c.source n).value p.1) c.template.names :=
  ⟨hpermits, fun n hn => ((h.readings c.source).objects n hn).1⟩

/-- The same request goes down, whether handles are wrapped or not. -/
theorem flat_resolve (h : Twin fixed ids L p q front back)
    (hcovered : c.template.isCovered = true)
    (hpermits : ∀ n ∈ c.template.names, L.permits c.source n = true)
    (hapart : c.isApart ids = true) :
    ((c.request p.1).resolve p.2.world.wrapper p.2.object.own.toShadows).value.flat
      = (c.request q.1).flat := by
  rw [DeviceRequest.resolve_of_enabled h.fits.holds.enabled]
  exact DeviceRequest.flat_resolveWrapped hcovered (h.agrees hpermits hapart)

/-- The handle of a command buffer is the same in both runs. -/
theorem buffer_eq (h : Twin fixed ids L p q front back) {u : Obj} (hu : u ∈ L.objects)
    (hbuffer : u.isBuffer = true) : u.buffer q.1 = front u := by
  obtain ⟨call, index, hat⟩ := Ledger.mem_objects_iff.1 hu
  obtain ⟨owner, kind, rfl⟩ := h.places call index u hat hbuffer
  exact (h.reads call index _ hat).2.trans (h.fits.names.same _ hu hbuffer)

variable [NextLayer σ]

/-- A call that is skipped. -/
theorem alike_of_vetoes (h : Twin fixed ids L p q front back)
    (hc : c.IsAdmissible fixed ids L q)
    (hveto : q.2.object.registry.chain.vetoes q.2.world.behaviour c.template.command = true) :
    Alike fixed ids L front back c p q := by
  have hvetoq : q.2.object.registry.chain.vetoes q.2.world.behaviour (c.request q.1).command
      = true := by rw [c.command_request, hveto]
  have hvetop : p.2.object.registry.chain.vetoes p.2.world.behaviour (c.request p.1).command
      = true := by rw [c.command_request, h.resembles.vetoes, hveto]
  obtain ⟨v, hv, hplain⟩ :=
    Device.plain_perform h.plain ((c.isCovered_request q.1).trans hc.covered) c.out
  rw [if_pos hvetoq] at hplain
  obtain ⟨u, hrun, hmatches⟩ := Device.exists_run_perform_of_vetoes hvetop c.out
  have hq : c.run q = ((.validationFailed, c.out), v) := hplain.1
  have hp : c.run p = ((.validationFailed, c.out), u) := hrun
  have hbefore : p.2.Resembles u := (Layer.resembles_withOwn _ _).trans hmatches.resembles
  have hfits : (L.retire (L.lost c (.validationFailed, c.out))).Fits fixed ids front back
      u.world.wrapper u.object.own := by
    have hwrapper : u.world.wrapper = p.2.world.wrapper := hmatches.wrapper
    rw [hwrapper]
    exact (h.fits.prepare (h.passes hc.permitted) _).congr hmatches.own
  refine ⟨?resembles, ?plain, ?bare, ?follows⟩
  case resembles =>
    rw [hp, hq]
    exact hplain.2.symm.trans (h.resembles.trans hbefore)
  case plain =>
    rw [hq]
    exact hv
  case bare =>
    rw [hp, hq]
  case follows =>
    rw [hp, hq]
    exact Ledger.follows_of_fits (Ledger.made_of_skipped c) hfits

/-- A call that is not skipped. -/
theorem alike_of_passed (hlayer : NextLayer.ReadsValues σ) (h : Twin fixed ids L p q front back)
    (hc : c.IsAdmissible fixed ids L q) (hids : ids ≤ drawLimit)
    (hdrawn : (c.run p).2.world.wrapper.map.drawn ≤ ids)
    (hveto : q.2.object.registry.chain.vetoes q.2.world.behaviour c.template.command = false) :
    Alike fixed ids L front back c p q := by
  have hvetoq : ¬ q.2.object.registry.chain.vetoes q.2.world.behaviour (c.request q.1).command
      = true := by
    rw [c.command_request, hveto]
    exact Bool.false_ne_true
  have hvetop : p.2.object.registry.chain.vetoes p.2.world.behaviour (c.request p.1).command
      = false := by rw [c.command_request, h.resembles.vetoes, hveto]
  have hprepared := h.fits.prepare (h.passes hc.permitted) (c.run q).1
  -- without wrapping the request goes down as it is, and with it as it is meant
  obtain ⟨v, hv, hplain⟩ :=
    Device.plain_perform h.plain ((c.isCovered_request q.1).trans hc.covered) c.out
  rw [if_neg hvetoq] at hplain
  obtain ⟨begun, u, hbegun, hrun, hbelow, hu, hut⟩ :=
    Device.wrapped_perform hlayer ((c.isCovered_request p.1).trans hc.covered) c.out
      (fun pool => hprepared.keeps.notMem_setsOf hprepared.names pool) h.fits.holds.enabled hvetop
  have hroom : (c.request p.1).room c.out = (c.request q.1).room c.out :=
    (DeviceRequest.room_mapHandles _ _ _).trans (DeviceRequest.room_mapHandles _ _ _).symm
  have hflat : (Request.ofDevice ((c.request p.1).resolve p.2.world.wrapper
      p.2.object.own.toShadows).value).flat = (Request.ofDevice (c.request q.1)).flat :=
    congrArg Request.ofDevice (h.flat_resolve hc.covered hc.permitted hc.apart)
  obtain ⟨hreply, hask⟩ := h.resembles.ask hlayer hflat ((c.request q.1).room c.out)
  have hq : c.run q = _ := hplain.1
  have houtcome : (c.request p.1).outcome (q.2.reply (.ofDevice (c.request q.1))
      ((c.request q.1).room c.out)) c.out = (c.run q).1 := by
    rw [hq]
    exact (DeviceRequest.outcome_mapHandles _ _ _ _).trans
      (DeviceRequest.outcome_mapHandles _ _ _ _).symm
  rw [hroom, hreply, houtcome] at hrun hu hut
  rw [hroom] at hbelow
  have hp : c.run p = _ := hrun
  have hdrawn : (Device.aftermath (c.request p.1) p.2.world.wrapper begun
      (c.run q).1).2.1.map.drawn ≤ ids := by
    rw [hp] at hdrawn
    rw [← hu]
    exact hdrawn
  have hfollows := Ledger.follows hc.covered (h.passes hc.permitted) h.fits
    (hprepared.congr hbegun) (fun u hu => h.buffer_eq hu) hc.honoured hids hdrawn
  have hresembles : v.Resembles u := hplain.2.symm.trans (hask.trans hbelow)
  refine ⟨?resembles, ?plain, ?bare, ?follows⟩
  case resembles =>
    rw [hp, hq]
    exact hresembles
  case plain =>
    rw [hq]
    exact hv
  case bare =>
    rw [hp]
    exact Outcome.bare_present _ _
  case follows =>
    rw [hp]
    show Ledger.Follows fixed ids L front back c (c.run q).1 (_, u.world.wrapper, u.object.own)
    rw [hu]
    exact hfollows.congr hut

/-- What a call comes to in the two runs. -/
theorem alike (hlayer : NextLayer.ReadsValues σ) (h : Twin fixed ids L p q front back)
    (hc : c.IsAdmissible fixed ids L q) (hids : ids ≤ drawLimit)
    (hdrawn : (c.run p).2.world.wrapper.map.drawn ≤ ids) : Alike fixed ids L front back c p q := by
  cases hveto : q.2.object.registry.chain.vetoes q.2.world.behaviour c.template.command with
  | true => exact h.alike_of_vetoes hc hveto
  | false => exact h.alike_of_passed hlayer hc hids hdrawn hveto

/-- **One more call of the program.** -/
theorem perform (hlayer : NextLayer.ReadsValues σ) (h : Twin fixed ids L p q front back)
    (hc : c.IsAdmissible fixed ids L q) (hids : ids ≤ drawLimit)
    (hdrawn : (c.run p).2.world.wrapper.map.drawn ≤ ids) :
    ∃ front' back', Twin fixed ids (L.next c (c.run q).1) (c.perform p) (c.perform q) front'
      back' := by
  obtain ⟨hresembles, hplain, hbare, front', back', hold, hfits, hnew⟩ :=
    h.alike hlayer hc hids hdrawn
  have hlength : q.1.length = L.size := by
    have hlength := congrArg List.length h.outcomes
    rw [List.length_map, List.length_map, h.size] at hlength
    exact hlength.symm
  refine ⟨front', back', hresembles, hplain, hfits, ?size, ?outcomes, fun call index u hu => ?reads,
    fun call index u hu hbuffer => ?places⟩
  case size =>
    show (p.1 ++ [(c.run p).1]).length = (L.slots ++ [_]).length
    rw [List.length_append, List.length_append, h.size]
    rfl
  case outcomes =>
    show (p.1 ++ [(c.run p).1]).map Outcome.bare = (q.1 ++ [(c.run q).1]).map Outcome.bare
    rw [List.map_append, List.map_append, h.outcomes]
    exact congrArg (q.1.map Outcome.bare ++ [·]) hbare
  case reads =>
    show slotOf (p.1 ++ [(c.run p).1]) call index = _ ∧ slotOf (q.1 ++ [(c.run q).1]) call index = _
    -- an object is in the slots of an earlier call, or it was made by this one
    rcases Ledger.at?_next hu with ⟨hlt, hat⟩ | ⟨rfl, hmade⟩
    · obtain ⟨hfront, hback⟩ := hold u (Ledger.mem_objects_iff.2 ⟨call, index, hat⟩)
      rw [slotOf_append_of_lt (h.size ▸ hlt), slotOf_append_of_lt (hlength ▸ hlt), hfront, hback]
      exact h.reads call index u hat
    · obtain ⟨hfront, hback⟩ := hnew index u hmade
      rw [← hfront, ← hback]
      refine ⟨?_, ?_⟩
      · rw [← h.size, slotOf_append_self]
      · rw [← hlength, slotOf_append_self]
  case places =>
    rcases Ledger.at?_next hu with ⟨-, hat⟩ | ⟨rfl, hmade⟩
    · exact h.places call index u hat hbuffer
    · obtain rfl := Ledger.eq_name_of_getElem? hmade
      exact Ledger.eq_child_of_name hbuffer

end Twin

/-! ### Surrogates along a run -/

section Draws

variable {p : List Outcome × Layer Tracked σ}

theorem known_fresh (s : Layer Tracked σ) : (s.fresh true).Known :=
  ⟨rfl, fun _ _ hset => absurd hset Std.ExtTreeSet.not_mem_empty,
    fun _ _ himage => absurd himage List.not_mem_nil⟩

variable [NextLayer σ]

/-- A call draws further ids. -/
theorem ProgramCall.draws (c : ProgramCall) (hp : p.2.Known) :
    (c.perform p).2.Known ∧
      p.2.world.wrapper.map.drawn ≤ (c.perform p).2.world.wrapper.map.drawn := by
  obtain ⟨hknown, hturn⟩ := Device.keeps_perform (c.request p.1) c.out p.2 hp
  exact ⟨hknown, hturn.drawn_le⟩

theorem drawn_le_runProgram (program : List ProgramCall) (hp : p.2.Known) :
    p.2.world.wrapper.map.drawn ≤ (runProgram program p).2.world.wrapper.map.drawn := by
  induction program generalizing p with
  | nil => exact Nat.le_refl _
  | cons c program ih =>
    obtain ⟨hknown, hle⟩ := c.draws hp
    exact Nat.le_trans hle (ih hknown)

end Draws

/-! ### Whole programs -/

section Whole

variable [NextLayer σ] {fixed : Obj → List Handle} {ids : Nat} {program : List ProgramCall}

/-- The calls that follow. -/
theorem Twin.run (hlayer : NextLayer.ReadsValues σ) (hids : ids ≤ drawLimit) {L : Ledger}
    {p q : List Outcome × Layer Tracked σ} {front back : Obj → Handle}
    (h : Twin fixed ids L p q front back) (hp : p.2.Known)
    (hadmissible : isAdmissible fixed ids program L q = true)
    (hdrawn : (runProgram program p).2.world.wrapper.map.drawn ≤ ids) :
    ∃ L' front' back', Twin fixed ids L' (runProgram program p) (runProgram program q) front'
      back' := by
  induction program generalizing L p q front back with
  | nil => exact ⟨L, front, back, h⟩
  | cons c program ih =>
    obtain ⟨hc, hrest⟩ := isAdmissible_cons.1 hadmissible
    have hknown := (c.draws hp).1
    -- the ids drawn so far are among those of the whole run
    have hsofar := Nat.le_trans (drawn_le_runProgram program hknown) hdrawn
    obtain ⟨front', back', h'⟩ := h.perform hlayer hc hids hsofar
    exact ih h' hknown hrest hdrawn

/-- **Wrapping is transparent to the next layer.**  A program that names only what it may
name, run on a next layer that answers as it has to: whether handles are wrapped or not,
the next layer gets the same calls in the same order and is left in the same state, and
the application gets the same results. -/
theorem wrapping_is_transparent (hlayer : NextLayer.ReadsValues σ) (hids : ids ≤ drawLimit)
    (s : Layer Tracked σ)
    (hadmissible : isAdmissible fixed ids program .empty ([], s.fresh false) = true)
    (hdrawn : (runProgram program ([], s.fresh true)).2.world.wrapper.map.drawn ≤ ids) :
    let wrapped := runProgram program ([], s.fresh true)
    let plain := runProgram program ([], s.fresh false)
    wrapped.2.world.calls.map Call.flat = plain.2.world.calls.map Call.flat ∧
      wrapped.2.world.below = plain.2.world.below ∧
      wrapped.1.map Outcome.bare = plain.1.map Outcome.bare := by
  intro wrapped plain
  obtain ⟨L, front, back, h⟩ :=
    (twin_fresh fixed ids s).run hlayer hids (known_fresh s) hadmissible hdrawn
  exact ⟨h.resembles.calls, h.resembles.below, h.outcomes⟩

end Whole

/-- A scripted layer looks at nothing else in a request that is followed here than what
kind of request it is. -/
theorem Scripted.answerDevice_flat (device : Handle) (r : DeviceRequest) (room : Option Nat)
    (s : Scripted) : s.answerDevice device r.flat room = s.answerDevice device r room := by
  cases r <;> rfl

theorem Scripted.readsValues : NextLayer.ReadsValues Scripted := by
  rintro ⟨object, request, room⟩ ⟨object', request', room'⟩ s hflat
  obtain ⟨rfl, hrequest, rfl⟩ := Call.mk.inj hflat
  cases request with
  | ofInstance r =>
    cases request' with
    | ofInstance r' => rw [Request.ofInstance.inj hrequest]
    | ofDevice r' => exact Request.noConfusion hrequest
  | ofDevice r =>
    cases request' with
    | ofInstance r' => exact Request.noConfusion hrequest
    | ofDevice r' =>
      show s.answerDevice object r room = s.answerDevice object r' room
      rw [← s.answerDevice_flat object r, Request.ofDevice.inj hrequest, s.answerDevice_flat]

/-- A swapchain is presented, and one of its images is given a name. -/
theorem transparent_swapchain :
    let source : Handle → Source := fun n =>
      if n = 1 then .slot 0 0 else if n = 2 then .slot 1 1 else if n = 3 then .outside 0xe0e0
      else .null
    let program : List ProgramCall :=
      [⟨.create (.swapchain 0 0), source, { slots := some [0] }⟩,
        ⟨.getSwapchainImages 1, source, { slots := some [0, 0], count := 2 }⟩,
        ⟨.labelObject .utils 10 2 (.name none), source, {}⟩,
        ⟨.present 3 ⟨.null 0, .elems [1], .elems [0], none, .ofApp []⟩, source, {}⟩,
        ⟨.destroy .swapchain 1, source, {}⟩]
    let fixed : Obj → List Handle := fun _ => [7, 8]
    let s : Layer Tracked Scripted :=
      { object :=
          { handle := 0xc000
            apiVersion := 0
            table := ⟨[.createSwapchainKhr, .getSwapchainImagesKhr, .setDebugUtilsObjectNameExt,
              .queuePresentKhr, .destroySwapchainKhr]⟩
            registry := ⟨.new default [], []⟩
            own := .empty }
        world :=
          { wrapper := .new true
            memory := .empty
            behaviour := default
            below := { script := { handles := some [some 7, some 8] } }
            trace := #[] } }
    let wrapped := runProgram program ([], s.fresh true)
    let plain := runProgram program ([], s.fresh false)
    NextLayer.ReadsValues Scripted ∧ 3 ≤ drawLimit ∧
      isAdmissible fixed 3 program .empty ([], s.fresh false) = true ∧
      (runProgram program ([], s.fresh true)).2.world.wrapper.map.drawn ≤ 3 ∧
      wrapped.2.world.calls.map Call.flat = plain.2.world.calls.map Call.flat ∧
      wrapped.1.map (Outcome.slot 1) = [0, idAt 2, 0, 0, 0] ∧
      plain.1.map (Outcome.slot 1) = [0, 8, 0, 0, 0] := by
  intro source program fixed s wrapped plain
  have hids : 3 ≤ drawLimit := by decide +kernel
  have hadmissible : isAdmissible fixed 3 program .empty ([], s.fresh false) = true := by
    decide +kernel
  have hdrawn : (runProgram program ([], s.fresh true)).2.world.wrapper.map.drawn ≤ 3 := by
    decide +kernel
  obtain ⟨hcalls, -⟩ := wrapping_is_transparent Scripted.readsValues hids s hadmissible hdrawn
  exact ⟨Scripted.readsValues, hids, hadmissible, hdrawn, hcalls, by decide +kernel,
    by decide +kernel⟩

end HandleLayer
