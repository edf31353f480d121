import HandleLayer.Proofs.Aftermath
import HandleLayer.Proofs.Displays
import HandleLayer.Proofs.Newcomers
import HandleLayer.Proofs.Standing

/-!
# Images of swapchains along runs

A device lists the images of each of its swapchains in the order in which the next layer reports
them.  A query adds to the list what it reports beyond it, and shows as much of the list as it
reports.  So the list only grows while the swapchain is there, and every query shows a beginning
of what the list is in the end.

A swapchain is meant with the device that it is asked of.

## Main definitions

* `Device.imagesLeft`, `Device.imagesMinted` — what the next layer has left of a query, and the
  surrogates that come of it.
* `Showing`, `System.showings` — a query that was not skipped, and all such queries of a run.
* `Action.sparesImages` — the rule that no call names an image as one to go.
* `System.Exhibits` — the invariant: what is listed, and what was shown of it.

## Main results

* `Device.run_perform_images` — **what a query comes to.**
* `System.Homed.unwrap_act` — a child means what it meant, if neither it nor its parent goes.
* `System.Exhibits.query` — a query continues the list and shows a beginning of it.
* `System.Exhibits.act`, `System.Exhibits.run` — the invariant holds whatever happens.
* `images_keep_one_surrogate` — **an image has one surrogate.**
-/

namespace HandleLayer

variable {σ : Type}

/-! ### What a query comes to -/

namespace Device

variable [NextLayer σ]

/-- What comes of a query for the images of a swapchain as the next layer leaves it. -/
def imagesLeft (swapchain : Handle) (out : Outputs) (s : Layer Tracked σ) : Outcome :=
  let r : DeviceRequest := .getSwapchainImages swapchain
  r.outcome (answer r (r.room out) s) out

/-- The surrogates for what a query reports beyond the images that are listed already, and the
wrapper after it. -/
def imagesMinted (swapchain : Handle) (out : Outputs) (s : Layer Tracked σ) :
    List Handle × Wrapper :=
  s.world.wrapper.wrapNewMany
    ((reported (imagesLeft swapchain out s)).drop (s.object.own.imagesOf swapchain).length)

/-- The images that are listed after a query. -/
def imagesKnown (swapchain : Handle) (out : Outputs) (s : Layer Tracked σ) : List Handle :=
  s.object.own.imagesOf swapchain ++ (imagesMinted swapchain out s).1

variable {swapchain : Handle} {out : Outputs} {s : Layer Tracked σ}

theorem length_imagesMinted : (imagesMinted swapchain out s).1.length
    = (reported (imagesLeft swapchain out s)).length
      - (s.object.own.imagesOf swapchain).length := by
  rw [imagesMinted, Wrapper.length_wrapNewMany, List.length_drop]

theorem length_imagesKnown : (imagesKnown swapchain out s).length
    = max (s.object.own.imagesOf swapchain).length
      (reported (imagesLeft swapchain out s)).length := by
  rw [imagesKnown, List.length_append, length_imagesMinted]
  omega

/-- There are as many images listed after a query as it reports. -/
theorem length_take_imagesKnown :
    ((imagesKnown swapchain out s).take (reported (imagesLeft swapchain out s)).length).length
      = (reported (imagesLeft swapchain out s)).length := by
  rw [List.length_take, length_imagesKnown]
  omega

omit [NextLayer σ] in
/-- A query shows as many of the images as are reported, with or without an array for them. -/
theorem aftermath_images (swapchain : Handle) (w : Wrapper) (t : Tracked) (o : Outcome) :
    let minted := w.wrapNewMany ((reported o).drop (t.imagesOf swapchain).length)
    let images := t.imagesOf swapchain ++ minted.1
    let after := aftermath (.getSwapchainImages swapchain) w t o
    after.1 = o.present (images.take (reported o).length) ∧ after.2.1 = minted.2 ∧
      after.2.2.imagesOf swapchain = images := by
  intro minted images after
  by_cases hboth : o.2.slots.isSome = true ∧ o.1.reports = true
  · obtain ⟨slots, hslots⟩ := Option.isSome_iff_exists.1 hboth.1
    have hreported : reported o = slots.take o.2.count.toNat := by
      rw [reported, if_pos hboth.2, Outputs.first, hslots, Option.getD_some]
    have hafter : after = _ := aftermath_images_of_reports hboth.2 hslots
    rw [← hreported] at hafter
    rw [hafter]
    refine ⟨?_, rfl, Tracked.children_setImages t swapchain images⟩
    -- both say the same as far as there are slots
    have hsame : overwrite slots (images.take (reported o).length)
        = overwrite slots (images.take o.2.count.toNat) := by
      rw [hreported, overwrite_take_length_take]
    unfold Outcome.present Outputs.present
    rw [hslots, Option.map_some, hsame]
  · have hproduced : (DeviceRequest.getSwapchainImages swapchain).produced o = [] :=
      DeviceRequest.produced_images_eq_nil hboth
    have hnone : reported o = [] := hproduced
    have hminted : minted = ([], w) := by
      show w.wrapNewMany ((reported o).drop _) = _
      rw [hnone, List.drop_nil]
      rfl
    have himages : images = t.imagesOf swapchain := by
      show t.imagesOf swapchain ++ minted.1 = _
      rw [hminted, List.append_nil]
    have hafter : after = (o, w, t) := aftermath_images_of_not hboth
    rw [hafter, hminted, himages, hnone]
    exact ⟨(Outcome.present_nil o).symm, rfl, rfl⟩

/-- **What a query comes to** that is not skipped: what the next layer has left, with surrogates
in the place of the images reported.  Those that were not listed before are announced. -/
theorem run_perform_images (hs : s.world.wrapper.enabled = true) (swapchain : Handle)
    (out : Outputs)
    (hveto : s.object.registry.chain.vetoes s.world.behaviour .getSwapchainImagesKhr = false) :
    let left := imagesLeft swapchain out s
    let minted := imagesMinted swapchain out s
    let images := imagesKnown swapchain out s
    let u := (perform (.getSwapchainImages swapchain) out).run s
    u.1 = left.present (images.take (reported left).length) ∧
      reported u.1 = images.take (reported left).length ∧
      u.2.world.wrapper = minted.2 ∧ u.2.object.own.imagesOf swapchain = images ∧
      createdIn u.2.world.events = createdIn s.world.events ++ objectsOf .image minted.1 := by
  intro left minted images u
  let r : DeviceRequest := .getSwapchainImages swapchain
  have hkeeps : ¬ s.object.own.Loses r := fun h => h
  have hrun : u = _ := run_perform_of_not_loses (r := r) hkeeps hveto
  -- the call as a function of what is left: the outcome, the wrapper, the images kept
  have hresponds : Responds r out s.world.wrapper s.object.own (serve r out : DeviceM σ _)
      (aftermath r s.world.wrapper s.object.own) := responds_getSwapchainImages hs swapchain
  obtain ⟨t, hserve, -, hwrapper, hown⟩ := hresponds
    (s.see (toldBefore (s.object.registry.chain.intercepting r.command) r.command)) rfl rfl
  obtain ⟨houtcome, hminted, himages⟩ :=
    aftermath_images swapchain s.world.wrapper s.object.own left
  have hresult : u.1 = left.present (images.take (reported left).length) := by
    rw [hrun]
    dsimp only
    rw [hserve]
    exact houtcome
  have hshown : reported u.1 = images.take (reported left).length := by
    rw [hresult]
    exact reported_present length_take_imagesKnown
  refine ⟨hresult, hshown, ?_, ?_, ?_⟩
  · rw [hrun]
    dsimp only
    rw [hserve]
    exact hwrapper.trans hminted
  · rw [hrun]
    dsimp only
    rw [hserve]
    exact (congrArg (Tracked.imagesOf · swapchain) hown).trans himages
  · obtain ⟨es, hevents, hcreated, -⟩ := announces_perform (r := r) rfl hveto out
    have hdebuts : r.debuts s.object.own u.1
        = objectsOf .image ((reported u.1).drop (s.object.own.imagesOf swapchain).length) := by
      show (if u.1.1.reports then objectsOf .image ((u.1.2.first u.1.2.count.toNat).drop _)
        else []) = _
      unfold reported
      split
      · rfl
      · rw [List.drop_nil, objectsOf_nil]
    have hfresh : (images.take (reported left).length).drop (s.object.own.imagesOf swapchain).length
        = minted.1 := drop_take_append length_imagesMinted
    rw [DeviceRequest.welcomed, if_pos (.inl hs), hdebuts, hshown, hfresh] at hcreated
    rw [hevents, createdIn_append, hcreated]

/-- A query that fails, or that has no room for images, comes to what the next layer has left. -/
theorem perform_images_of_silent (hs : s.world.wrapper.enabled = true) (swapchain : Handle)
    (out : Outputs)
    (hveto : s.object.registry.chain.vetoes s.world.behaviour .getSwapchainImagesKhr = false)
    (hsilent : (imagesLeft swapchain out s).1.reports = false ∨ out.slots = none) :
    let u := (perform (.getSwapchainImages swapchain) out).run s
    u.1 = imagesLeft swapchain out s ∧ u.2.world.wrapper = s.world.wrapper ∧
      u.2.object.own.imagesOf swapchain = s.object.own.imagesOf swapchain ∧
      createdIn u.2.world.events = createdIn s.world.events := by
  intro u
  obtain ⟨houtcome, -, hwrapper, himages, hcreated⟩ :=
    run_perform_images hs swapchain out hveto
  have hslots : out.slots = none → (imagesLeft swapchain out s).2.slots = none := fun hcounts => by
    show out.slots.map _ = none
    rw [hcounts, Option.map_none]
  have hnone : reported (imagesLeft swapchain out s) = [] :=
    reported_eq_nil (hsilent.imp_right hslots)
  have hminted : imagesMinted swapchain out s = ([], s.world.wrapper) := by
    rw [imagesMinted, hnone, List.drop_nil]
    rfl
  rw [hnone, List.length_nil, List.take_zero, Outcome.present_nil] at houtcome
  rw [hminted] at hwrapper hcreated
  rw [imagesKnown, hminted, List.append_nil] at himages
  exact ⟨houtcome, hwrapper, himages, hcreated.trans (List.append_nil _)⟩

end Device

/-! ### Children that stay -/

/-- The images of a swapchain are the concern of queries for them and of its destruction. -/
theorem DeviceRequest.eq_of_rears_images {r : DeviceRequest} {swapchain : Handle}
    (h : r.rears? = some (.images, swapchain)) :
    r = .destroy .swapchain swapchain ∨ r = .getSwapchainImages swapchain := by
  cases r with
  | destroy kind h' =>
    cases kind with
    | swapchain =>
      obtain ⟨-, rfl⟩ := Prod.mk.inj (Option.some.inj h)
      exact .inl rfl
    | _ => cases h
  | getSwapchainImages swapchain' =>
    obtain ⟨-, rfl⟩ := Prod.mk.inj (Option.some.inj h)
    exact .inr rfl
  | _ => cases h

namespace System

variable [NextLayer σ] {H : List Happening} {s : System σ}

/-- A skipped call on a parent does not touch its children. -/
theorem children_of_skipped {k : Nat} {device : Dispatch Tracked}
    (hdevice : s.devices[k]? = some device) {r : DeviceRequest} {f : Family} {p : Handle}
    (hr : r.rears? = some (f, p)) (out : Outputs)
    (hveto : device.registry.chain.vetoes s.world.behaviour r.command = true) :
    ((s.act (.callDevice k r out)).kept k).children f p = (s.kept k).children f p ∧
      (s.act (.callDevice k r out)).world.wrapper = s.world.wrapper := by
  obtain ⟨t, hrun, hmatches⟩ :=
    Device.exists_run_perform_of_vetoes (s := ⟨device, s.world⟩) hveto out
  rw [kept_of_call hdevice, kept_of_device hdevice, act_of_device hdevice, hrun]
  exact ⟨Device.children_of_matches hr hmatches, hmatches.wrapper⟩

/-- A child means what it meant, if neither the child nor its parent is named in a call. -/
theorem Homed.unwrap_act (hs : s.Homed H) (hsound : s.Sound) {c : Home} {h : Handle}
    (hzero : h ≠ 0) (hl : s.Lists c h) (hlive : s.world.Live h) {a : Action σ}
    (hdoomed : h ∉ a.doomed)
    (hother : ∀ x, s.happening? a = some x → x.device = c.device →
      x.request.rears? ≠ some (c.family, c.parent))
    (hlimit : (s.act a).world.wrapper.map.drawn ≤ drawLimit) :
    (s.act a).world.wrapper.map.unwrap h = s.world.wrapper.map.unwrap h := by
  have hlater : (s.act a).world.Live h := by
    by_cases hrears : ∀ x, s.happening? a = some x → x.request.rears? = none
    · exact (fares_act hsound hrears).kept h hlive hdoomed
    · obtain ⟨k, device, r, out, f, p, rfl, hdevice, hr⟩ := exists_of_rears hrears
      obtain ⟨gone, fresh, htends, hgone, -⟩ := exists_tended_act hsound hdevice hr out
      refine (htends.live h hzero).2 (.inl ⟨hlive, fun hmem => ?_⟩)
      -- a call takes away the children of its own parent only
      rcases hgone h hmem with hl' | hnamed
      · have hhome : c = ⟨k, f, p⟩ :=
          hs.home c _ h (hs.listed c h hzero hl) (hs.listed _ h hzero hl')
        subst hhome
        exact hother _ (happening?_of_device hdevice r out) rfl hr
      · exact hdoomed hnamed
  obtain ⟨shows, hsteps⟩ := s.steps_act a
  rcases Wrapper.unwrap_steps hsteps (hsound.world.drawn h hlive) hlimit with hsame | hnone
  · exact hsame
  · unfold World.Live at hlater
    rw [hnone] at hlater
    cases hlater

end System

/-! ### What is shown in a run -/

/-- A query for the images of a swapchain that was not skipped: the images that the next layer has
reported, what the application was shown for them, and the objects announced as created. -/
structure Showing where
  device : Nat
  swapchain : Handle
  reals : List Handle
  shown : List Handle
  created : List (ObjectType × Handle)
  deriving DecidableEq

/-- Whether a query was for the images of this swapchain of this device. -/
def Showing.isOf (k : Nat) (swapchain : Handle) (v : Showing) : Bool :=
  v.device == k && v.swapchain == swapchain

theorem Showing.isOf_iff {k : Nat} {swapchain : Handle} {v : Showing} :
    v.isOf k swapchain = true ↔ v.device = k ∧ v.swapchain = swapchain := by
  rw [isOf, Bool.and_eq_true, beq_iff_eq, beq_iff_eq]

/-- The rule that images stay: no action names an image of a swapchain as a handle to go. -/
def Action.sparesImages (H : List Happening) (a : Action σ) : Bool :=
  (brought H).all fun b => b.1.family != .images || !a.doomed.contains b.2

theorem Action.notMem_doomed_of_images {H : List Happening} {a : Action σ}
    (ha : a.sparesImages H = true) {c : Home} {h : Handle} (hfamily : c.family = .images)
    (hb : (c, h) ∈ brought H) : h ∉ a.doomed := by
  have hrule := List.all_eq_true.1 ha (c, h) hb
  simpa [hfamily] using hrule

namespace System

section Showings

variable [NextLayer σ]

/-- The query for images that an action is, if it is one and is not skipped. -/
def showing? (s : System σ) : Action σ → Option Showing
  | .callDevice k (.getSwapchainImages swapchain) out =>
    s.devices[k]?.bind fun device =>
      if device.registry.chain.vetoes s.world.behaviour .getSwapchainImagesKhr then none
      else
        let call : Layer Tracked σ := ⟨device, s.world⟩
        let u := (Device.perform (.getSwapchainImages swapchain) out).run call
        some {
          device := k
          swapchain
          reals := reported (Device.imagesLeft swapchain out call)
          shown := reported u.1
          created := (createdIn u.2.world.events).drop (createdIn s.world.events).length }
  | _ => none

/-- The queries for images that are made when all of this happens in turn. -/
def showings (s : System σ) : List (Action σ) → List Showing
  | [] => []
  | a :: actions => (s.showing? a).toList ++ (s.act a).showings actions

variable {s : System σ}

theorem showing?_of_device {k : Nat} {device : Dispatch Tracked}
    (hdevice : s.devices[k]? = some device) {swapchain : Handle} {out : Outputs}
    (hveto : device.registry.chain.vetoes s.world.behaviour .getSwapchainImagesKhr = false) :
    let u := (Device.perform (.getSwapchainImages swapchain) out).run ⟨device, s.world⟩
    s.showing? (.callDevice k (.getSwapchainImages swapchain) out) = some {
      device := k
      swapchain
      reals := reported (Device.imagesLeft swapchain out ⟨device, s.world⟩)
      shown := reported u.1
      created := (createdIn u.2.world.events).drop (createdIn s.world.events).length } := by
  intro u
  show s.devices[k]?.bind _ = _
  rw [hdevice, Option.bind_some, hveto]
  rfl

/-- A query for images that is not skipped, as it is made on a device. -/
theorem exists_of_showing? {a : Action σ} {v : Showing} (h : s.showing? a = some v) :
    ∃ device out, a = .callDevice v.device (.getSwapchainImages v.swapchain) out ∧
      s.devices[v.device]? = some device ∧
      device.registry.chain.vetoes s.world.behaviour .getSwapchainImagesKhr = false ∧
      v.reals = reported (Device.imagesLeft v.swapchain out ⟨device, s.world⟩) ∧
      v.shown = reported ((Device.perform (.getSwapchainImages v.swapchain) out).run
        ⟨device, s.world⟩).1 := by
  unfold showing? at h
  split at h
  · next k swapchain out =>
    obtain ⟨device, hdevice, hv⟩ := Option.bind_eq_some_iff.1 h
    split at hv
    · cases hv
    · next hveto =>
      obtain rfl := Option.some.inj hv
      exact ⟨device, out, rfl, hdevice, Bool.eq_false_iff.2 hveto, rfl, rfl⟩
  · cases h

/-- What a query shows are children of the swapchain. -/
theorem brought_of_showing? {a : Action σ} {v : Showing} (h : s.showing? a = some v)
    {j : Handle} (hj : j ∈ v.shown) (hzero : j ≠ 0) :
    (⟨v.device, .images, v.swapchain⟩, j) ∈ brought (s.happening? a).toList := by
  obtain ⟨device, out, rfl, hdevice, -, -, hshown⟩ := exists_of_showing? h
  rw [hshown] at hj
  rw [happening?_of_device hdevice, Option.toList_some, brought, List.flatMap_singleton]
  exact Happening.mem_brought.2 ⟨rfl, rfl, hj, hzero⟩

theorem brought_of_showings {actions : List (Action σ)} {v : Showing}
    (h : v ∈ s.showings actions) {j : Handle} (hj : j ∈ v.shown) (hzero : j ≠ 0) :
    (⟨v.device, .images, v.swapchain⟩, j) ∈ brought (s.history actions) := by
  induction actions generalizing s with
  | nil => exact absurd h List.not_mem_nil
  | cons a actions ih =>
    rw [history, brought, List.flatMap_append, List.mem_append]
    rcases List.mem_append.1 h with hfirst | hrest
    · exact .inl (brought_of_showing? (Option.mem_toList.1 hfirst) hj hzero)
    · exact .inr (ih hrest)

end Showings

section Queries

variable [NextLayer σ] {s : System σ}

/-- What a query for images that are not null comes to: more of them may be listed, and the
application is shown a beginning of the list. -/
theorem exists_queried (hsound : s.Sound) {k : Nat} {device : Dispatch Tracked}
    (hdevice : s.devices[k]? = some device) {swapchain : Handle} {out : Outputs}
    (hveto : device.registry.chain.vetoes s.world.behaviour .getSwapchainImagesKhr = false)
    (hzero : 0 ∉ reported (Device.imagesLeft swapchain out ⟨device, s.world⟩))
    (hlimit : (s.act (.callDevice k (.getSwapchainImages swapchain) out)).world.wrapper.map.drawn
      ≤ drawLimit) :
    let a : Action σ := .callDevice k (.getSwapchainImages swapchain) out
    let known := (s.kept k).imagesOf swapchain
    let found := reported (Device.imagesLeft swapchain out ⟨device, s.world⟩)
    ∃ fresh, ((s.act a).kept k).imagesOf swapchain = known ++ fresh ∧
      s.world.wrapper.Mints (found.drop known.length) fresh (s.act a).world.wrapper ∧
      s.showing? a = some ⟨k, swapchain, found, (known ++ fresh).take found.length,
        fresh.map (.image, ·)⟩ := by
  intro a known found
  let minted := Device.imagesMinted swapchain out ⟨device, s.world⟩
  obtain ⟨-, hshown, hwrapper, himages, hcreated⟩ :=
    Device.run_perform_images (s := ⟨device, s.world⟩) hsound.world.wrapping swapchain out hveto
  have hknown : known = device.own.imagesOf swapchain := by
    show (s.kept k).imagesOf swapchain = _
    rw [kept_of_device hdevice]
  have hworld : (s.act a).world.wrapper = minted.2 := by
    rw [act_of_device hdevice]
    exact hwrapper
  have hmints : s.world.wrapper.Mints (found.drop known.length) minted.1 minted.2 := by
    rw [hknown]
    refine Wrapper.mints_wrapNewMany hsound.world.wrapping
      (fun hmem => hzero (List.mem_of_mem_drop hmem)) ?_
    rw [hworld] at hlimit
    exact hlimit
  refine ⟨minted.1, ?_, hworld ▸ hmints, ?_⟩
  · rw [kept_of_call hdevice, himages, hknown]
    rfl
  · have hannounced : objectsOf .image minted.1 = minted.1.map (.image, ·) := by
      unfold objectsOf
      rw [List.filter_eq_self.2 fun h hh => decide_eq_true (hmints.ne_zero h hh)]
    rw [showing?_of_device hdevice hveto, hshown, hcreated, List.drop_left, hannounced, hknown]
    rfl

end Queries

/-- The application has seen the images of a swapchain: for every image in turn a surrogate is
listed that stands for it, each was announced by the query that has brought it, and every query
has shown a beginning of the list, the longest one all of it. -/
structure Exhibits (k : Nat) (swapchain : Handle) (reals : List Handle) (V : List Showing)
    (s : System σ) : Prop where
  resolves : ((s.kept k).imagesOf swapchain).map s.world.wrapper.map.unwrap
    = (reals.take ((s.kept k).imagesOf swapchain).length).map some
  nodup : ((s.kept k).imagesOf swapchain).Nodup
  ne_zero : ∀ h ∈ (s.kept k).imagesOf swapchain, h ≠ 0
  shown : ∀ v ∈ V.filter (Showing.isOf k swapchain),
    v.reals.length ≤ ((s.kept k).imagesOf swapchain).length ∧
      v.shown = ((s.kept k).imagesOf swapchain).take v.reals.length
  length_eq : ((V.filter (Showing.isOf k swapchain)).map (·.reals.length)).foldl max 0
    = ((s.kept k).imagesOf swapchain).length
  created : (V.filter (Showing.isOf k swapchain)).flatMap (·.created)
    = ((s.kept k).imagesOf swapchain).map (.image, ·)

namespace Exhibits

variable {k : Nat} {swapchain : Handle} {reals : List Handle} {V V' : List Showing}
  {s s' : System σ}

theorem live (hs : s.Exhibits k swapchain reals V) {h : Handle}
    (hh : h ∈ (s.kept k).imagesOf swapchain) : s.world.Live h := by
  have hmem : s.world.wrapper.map.unwrap h
      ∈ ((s.kept k).imagesOf swapchain).map s.world.wrapper.map.unwrap :=
    List.mem_map_of_mem hh
  rw [hs.resolves] at hmem
  obtain ⟨real, -, hreal⟩ := List.mem_map.1 hmem
  unfold World.Live
  rw [← hreal]
  rfl

/-- The list has stayed, each image means what it meant, and none was shown. -/
theorem keep (hs : s.Exhibits k swapchain reals V)
    (himages : (s'.kept k).imagesOf swapchain = (s.kept k).imagesOf swapchain)
    (hunwrap : ∀ h ∈ (s.kept k).imagesOf swapchain,
      s'.world.wrapper.map.unwrap h = s.world.wrapper.map.unwrap h)
    (hV : V'.filter (Showing.isOf k swapchain) = V.filter (Showing.isOf k swapchain)) :
    s'.Exhibits k swapchain reals V' := by
  refine ⟨?resolves, ?nodup, ?ne_zero, ?shown, ?length_eq, ?created⟩
  case resolves =>
    rw [himages, ← hs.resolves]
    exact List.map_congr_left hunwrap
  case nodup =>
    rw [himages]
    exact hs.nodup
  case ne_zero =>
    rw [himages]
    exact hs.ne_zero
  case shown =>
    rw [himages, hV]
    exact hs.shown
  case length_eq =>
    rw [himages, hV]
    exact hs.length_eq
  case created =>
    rw [himages, hV]
    exact hs.created

variable [NextLayer σ]

/-- **A query continues the list and shows a beginning of it.** -/
theorem query (hs : s.Exhibits k swapchain reals V) (hsound : s.Sound)
    {device : Dispatch Tracked} (hdevice : s.devices[k]? = some device)
    (hveto : device.registry.chain.vetoes s.world.behaviour .getSwapchainImagesKhr = false)
    {out : Outputs} (hreals : 0 ∉ reals)
    (hbegins : reported (Device.imagesLeft swapchain out ⟨device, s.world⟩) <+: reals)
    (hlimit : (s.act (.callDevice k (.getSwapchainImages swapchain) out)).world.wrapper.map.drawn
      ≤ drawLimit) :
    let a : Action σ := .callDevice k (.getSwapchainImages swapchain) out
    (s.act a).Exhibits k swapchain reals (V ++ (s.showing? a).toList) := by
  intro a
  let known := (s.kept k).imagesOf swapchain
  let found := reported (Device.imagesLeft swapchain out ⟨device, s.world⟩)
  obtain ⟨fresh, himages, hmints, hshowing⟩ :=
    exists_queried hsound hdevice hveto (fun hmem => hreals (hbegins.subset hmem)) hlimit
  have hlength : fresh.length = found.length - known.length := by
    have hmapped := congrArg List.length hmints.unwrap
    rwa [List.length_map, List.length_map, List.length_drop] at hmapped
  -- the old surrogates were drawn before, and the new ones were not
  have hold : ∀ h ∈ known, h ∉ fresh := fun h hh hmem =>
    hmints.fresh h hmem (hsound.world.drawn h (hs.live hh))
  have hself : ∀ shown created,
      Showing.isOf k swapchain ⟨k, swapchain, found, shown, created⟩ = true :=
    fun _ _ => Showing.isOf_iff.2 ⟨rfl, rfl⟩
  have hfilter : (V ++ (s.showing? a).toList).filter (Showing.isOf k swapchain)
      = V.filter (Showing.isOf k swapchain)
        ++ [⟨k, swapchain, found, (known ++ fresh).take found.length, fresh.map (.image, ·)⟩] := by
    rw [hshowing, Option.toList_some, List.filter_append,
      List.filter_cons_of_pos (hself _ _), List.filter_nil]
  refine ⟨?resolves, ?nodup, ?ne_zero, ?shown, ?length_eq, ?created⟩
  case resolves =>
    rw [himages, List.map_append, hmints.unwrap, List.length_append, hlength]
    have hkept : known.map (s.act a).world.wrapper.map.unwrap
        = known.map s.world.wrapper.map.unwrap :=
      List.map_congr_left fun h hh => hmints.others h (hold h hh)
    have hfound : found = reals.take found.length := (List.prefix_iff_eq_take.1 hbegins)
    rw [hkept, hs.resolves, ← List.map_append, List.take_add, ← List.drop_take, ← hfound]
  case nodup =>
    rw [himages]
    refine List.nodup_append.2 ⟨hs.nodup, hmints.nodup, fun h hh h' hh' heq => ?_⟩
    exact hold h hh (heq ▸ hh')
  case ne_zero =>
    rw [himages]
    intro h hh
    exact (List.mem_append.1 hh).elim (hs.ne_zero h) (hmints.ne_zero h)
  case shown =>
    rw [himages, hfilter]
    intro v hv
    rcases List.mem_append.1 hv with hbefore | hnow
    · obtain ⟨hle, hshown⟩ := hs.shown v hbefore
      rw [List.length_append, List.take_append_of_le_length hle]
      exact ⟨by omega, hshown⟩
    · obtain rfl := List.mem_singleton.1 hnow
      refine ⟨?_, rfl⟩
      rw [List.length_append]
      show found.length ≤ known.length + fresh.length
      omega
  case length_eq =>
    rw [himages, hfilter, List.map_append, List.foldl_append, hs.length_eq, List.length_append]
    show max known.length found.length = known.length + fresh.length
    omega
  case created =>
    rw [himages, hfilter, List.flatMap_append, List.flatMap_singleton, List.map_append, hs.created]

/-- **Whatever happens keeps the invariant**, if images are spared and the swapchain stays. -/
theorem act (hs : s.Exhibits k swapchain reals V) {H : List Happening} (hhomed : s.Homed H)
    (hsound : s.Sound) {a : Action σ} (hspares : a.sparesImages H = true)
    (hstays : ∀ x ∈ (s.happening? a).toList, x.device = k →
      x.request = .destroy .swapchain swapchain → x.outcome.1 = .validationFailed)
    (hreals : 0 ∉ reals)
    (hbegins : ∀ v ∈ (s.showing? a).toList.filter (Showing.isOf k swapchain), v.reals <+: reals)
    (hlimit : (s.act a).world.wrapper.map.drawn ≤ drawLimit) :
    (s.act a).Exhibits k swapchain reals (V ++ (s.showing? a).toList) := by
  by_cases hquery : ∃ v, s.showing? a = some v ∧ v.isOf k swapchain = true
  · obtain ⟨v, hv, hof⟩ := hquery
    have hfound : v.reals <+: reals :=
      hbegins v (List.mem_filter.2 ⟨Option.mem_toList.2 hv, hof⟩)
    obtain ⟨rfl, rfl⟩ := Showing.isOf_iff.1 hof
    obtain ⟨device, out, rfl, hdevice, hveto, hv', -⟩ := exists_of_showing? hv
    rw [hv'] at hfound
    exact hs.query hsound hdevice hveto hreals hfound hlimit
  have hV : (V ++ (s.showing? a).toList).filter (Showing.isOf k swapchain)
      = V.filter (Showing.isOf k swapchain) := by
    have hnone : (s.showing? a).toList.filter (Showing.isOf k swapchain) = [] :=
      List.filter_eq_nil_iff.2 fun v hv hof => hquery ⟨v, Option.mem_toList.1 hv, hof⟩
    rw [List.filter_append, hnone, List.append_nil]
  by_cases hparent : ∃ x, s.happening? a = some x ∧ x.device = k ∧
      x.request.rears? = some (.images, swapchain)
  · obtain ⟨x, hx, rfl, hr⟩ := hparent
    have hx' : x.request = .destroy .swapchain swapchain → x.outcome.1 = .validationFailed :=
      hstays x (Option.mem_toList.2 hx) rfl
    obtain ⟨device, out, rfl, hdevice, houtcome⟩ := exists_of_happening? hx
    -- what is no query that comes about is skipped, as the swapchain stays
    have hveto : device.registry.chain.vetoes s.world.behaviour x.request.command = true := by
      refine Bool.of_not_eq_false fun hveto => ?_
      rcases DeviceRequest.eq_of_rears_images hr with hdestroy | hget
      · have hfailed := hx' hdestroy
        rw [houtcome, hdestroy, Device.run_perform (hdestroy ▸ hveto)] at hfailed
        cases hfailed
      · rw [hget] at hveto hquery
        exact hquery ⟨_, showing?_of_device hdevice hveto, Showing.isOf_iff.2 ⟨rfl, rfl⟩⟩
    obtain ⟨himages, hwrapper⟩ := children_of_skipped hdevice hr out hveto
    exact hs.keep himages (fun h _ => by rw [hwrapper]) hV
  · have hother : ∀ x, s.happening? a = some x → x.device = k →
        x.request.rears? ≠ some (.images, swapchain) :=
      fun x hx hat hr => hparent ⟨x, hx, hat, hr⟩
    let home : Home := ⟨k, .images, swapchain⟩
    refine hs.keep (children_act (c := home) hother) (fun h hh => ?_) hV
    have hl : s.Lists home h := hh
    have hb : (home, h) ∈ brought H := hhomed.listed home h (hs.ne_zero h hh) hl
    exact hhomed.unwrap_act hsound (hs.ne_zero h hh) hl (hs.live hh)
      (Action.notMem_doomed_of_images hspares rfl hb) hother hlimit

/-- **The invariant holds after every run** that spares images, as long as the swapchain stays. -/
theorem run (hs : s.Exhibits k swapchain reals V) {H : List Happening} (hhomed : s.Homed H)
    (hsound : s.Sound) {actions : List (Action σ)}
    (hspares : s.abides Action.sparesImages H actions = true)
    (hstays : ∀ x ∈ s.history actions, x.device = k →
      x.request = .destroy .swapchain swapchain → x.outcome.1 = .validationFailed)
    (hreals : 0 ∉ reals)
    (hbegins : ∀ v ∈ (s.showings actions).filter (Showing.isOf k swapchain), v.reals <+: reals)
    (hlimit : (s.run actions).world.wrapper.map.drawn ≤ drawLimit) :
    (s.run actions).Exhibits k swapchain reals (V ++ s.showings actions) := by
  induction actions generalizing s H V with
  | nil =>
    rw [showings, List.append_nil]
    exact hs
  | cons a actions ih =>
    obtain ⟨hfirst, hrest⟩ := abides_cons.1 hspares
    rw [history] at hstays
    rw [showings, List.filter_append] at hbegins
    have hnext := hsound.act a
    have hbound : (s.act a).world.wrapper.map.drawn ≤ drawLimit :=
      Nat.le_trans (drawn_le_run hnext actions) hlimit
    have hone := hs.act hhomed hsound hfirst
      (fun x hx => hstays x (List.mem_append_left _ hx)) hreals
      (fun v hv => hbegins v (List.mem_append_left _ hv)) hbound
    rw [showings, ← List.append_assoc]
    exact ih hone (hhomed.act hsound hbound) hnext hrest
      (fun x hx => hstays x (List.mem_append_right _ hx))
      (fun v hv => hbegins v (List.mem_append_right _ hv)) hlimit

end Exhibits

/-- In the beginning no images are listed. -/
theorem exhibits_start [NextLayer σ] (instanceHandle : Handle) (requested : ApiVersion)
    (settings : Settings) (table : EntryTable) (behaviour : Behaviour)
    (objects : List ValidationObject) (below : σ) (k : Nat) (swapchain : Handle)
    (reals : List Handle) :
    (start instanceHandle requested settings table behaviour objects below).Exhibits k swapchain
      reals [] := by
  have hnone : ((start instanceHandle requested settings table behaviour objects below).kept
      k).imagesOf swapchain = [] := rfl
  refine ⟨?resolves, ?nodup, ?ne_zero, ?shown, ?length_eq, ?created⟩
  case resolves =>
    rw [hnone, List.length_nil, List.take_zero]
    rfl
  case nodup =>
    rw [hnone]
    exact .nil
  case ne_zero =>
    rw [hnone]
    exact fun h hh => absurd hh List.not_mem_nil
  case shown =>
    exact fun v hv => absurd hv List.not_mem_nil
  case length_eq =>
    rw [hnone]
    rfl
  case created =>
    rw [hnone]
    rfl

/-- An image that is listed was announced once, and as nothing else. -/
theorem count_created_of_image {s : System σ} (hsound : s.Sound)
    (hlimit : s.world.wrapper.map.drawn < drawLimit) {k : Nat} {swapchain h : Handle}
    (hh : h ∈ (s.kept k).imagesOf swapchain) (hzero : h ≠ 0) :
    ((createdIn s.world.events).map Prod.snd).count h = 1 := by
  cases hdevice : s.devices[k]? with
  | none =>
    have hnone : s.kept k = .empty := by
      unfold kept
      rw [hdevice]
      rfl
    rw [hnone] at hh
    exact absurd hh List.not_mem_nil
  | some device =>
    rw [kept_of_device hdevice] at hh
    have hannounced : (.image, h) ∈ createdIn s.world.events :=
      (hsound.known device (List.mem_of_getElem? hdevice)).images swapchain h hh hzero
    exact List.count_eq_one_of_mem (hsound.world.nodup hlimit)
      (List.mem_map.2 ⟨_, hannounced, rfl⟩)

/-- What is listed stands for the images in turn. -/
theorem Exhibits.map_unwrap {k : Nat} {swapchain : Handle} {reals : List Handle}
    {V : List Showing} {s : System σ} (hs : s.Exhibits k swapchain reals V)
    (hw : s.world.wrapper.enabled = true) :
    ((s.kept k).imagesOf swapchain).map s.world.wrapper.unwrap
      = reals.take ((s.kept k).imagesOf swapchain).length := by
  have hpass : ∀ h ∈ (s.kept k).imagesOf swapchain,
      s.world.wrapper.unwrap h = (s.world.wrapper.map.unwrap h).getD 0 := fun h hh => by
    simp [Wrapper.unwrap, Wrapper.passes, hw, hs.ne_zero h hh]
  have hgetD := congrArg (List.map (Option.getD · 0)) hs.resolves
  rw [List.map_map, List.map_map] at hgetD
  rw [List.map_congr_left hpass]
  exact hgetD.trans (List.map_id _)

end System

/-! ### Images and their surrogates -/

/-- **An image has one surrogate.**  Take a system that wraps handles and anything that may happen
to it, as long as no image of a swapchain is named as a handle to go and fewer ids are drawn than
there are.  Take a swapchain of one of the devices that is not destroyed, unless this is skipped,
and of which the next layer reports beginnings of one list of images, none of which is null.

Then there is a list of surrogates that are all different and stand for these images in turn.
Every query for the images of the swapchain has shown as many of them as were reported, in this
order.  There are as many as have been reported at once at most.  They were announced one after
the other by these queries, and never again.  For images of any other swapchain none of them was
shown.

From then on a query that is not skipped comes to what the next layer has left, with surrogates in
the place of the images reported and nowhere else, and if it fails or has no room for images, it
changes no surrogates and announces nothing. -/
theorem images_keep_one_surrogate [NextLayer σ] (instanceHandle : Handle)
    (requested : ApiVersion) (settings : Settings) (hwrapping : settings.handleWrapping = true)
    (table : EntryTable) (behaviour : Behaviour) (objects : List ValidationObject) (below : σ)
    (actions : List (Action σ)) (k : Nat) (swapchain : Handle) (reals : List Handle) :
    let start := System.start instanceHandle requested settings table behaviour objects below
    let s := start.run actions
    let queries := (start.showings actions).filter (Showing.isOf k swapchain)
    start.abides Action.sparesImages [] actions = true →
    (∀ x ∈ start.history actions, x.device = k → x.request = .destroy .swapchain swapchain →
      x.outcome.1 = .validationFailed) →
    0 ∉ reals → (∀ v ∈ queries, v.reals <+: reals) →
    s.world.wrapper.map.drawn < drawLimit →
    (∃ images : List Handle, images.Nodup ∧ 0 ∉ images ∧
      images.map s.world.wrapper.unwrap = reals.take images.length ∧
      (∀ v ∈ queries, v.shown = images.take v.reals.length) ∧
      (queries.map (·.reals.length)).foldl max 0 = images.length ∧
      queries.flatMap (·.created) = images.map (.image, ·) ∧
      (∀ h ∈ images, ((createdIn s.world.events).map Prod.snd).count h = 1) ∧
      ∀ v ∈ start.showings actions, v.isOf k swapchain = false → ∀ h ∈ v.shown, h ∉ images) ∧
    ∀ (k' : Nat) (device : Dispatch Tracked) (swapchain' : Handle) (out : Outputs),
      s.devices[k']? = some device →
      device.registry.chain.vetoes s.world.behaviour .getSwapchainImagesKhr = false →
      let call : Layer Tracked σ := ⟨device, s.world⟩
      let left := Device.imagesLeft swapchain' out call
      let done := (Device.perform (.getSwapchainImages swapchain') out).run call
      done.1 = left.present (reported done.1) ∧
      (reported done.1).length = (reported left).length ∧
      (left.1.reports = false ∨ out.slots = none →
        done.1 = left ∧ done.2.world.wrapper = s.world.wrapper ∧
          createdIn done.2.world.events = createdIn s.world.events) := by
  intro start s queries hspares hstays hreals hbegins hlimit
  have hstart : start.Sound :=
    System.sound_start instanceHandle requested hwrapping table behaviour objects below
  have hbegun : start.Homed [] := (System.reared_start instanceHandle requested settings table
    behaviour objects below).homed
  have hsound : s.Sound := hstart.run actions
  have hhomed : s.Homed (start.history actions) := hbegun.run hstart (Nat.le_of_lt hlimit)
  have hexhibits : s.Exhibits k swapchain reals (start.showings actions) :=
    (System.exhibits_start instanceHandle requested settings table behaviour objects below k
      swapchain reals).run hbegun hstart hspares hstays hreals hbegins (Nat.le_of_lt hlimit)
  refine ⟨⟨(s.kept k).imagesOf swapchain, hexhibits.nodup, fun h => hexhibits.ne_zero 0 h rfl,
    hexhibits.map_unwrap hsound.world.wrapping, fun v hv => (hexhibits.shown v hv).2,
    hexhibits.length_eq, hexhibits.created, fun h hh => ?_, fun v hv hother h hshown hh => ?_⟩, ?_⟩
  · exact System.count_created_of_image hsound hlimit hh (hexhibits.ne_zero h hh)
  · -- a handle that is shown for two swapchains would have two homes
    have hzero := hexhibits.ne_zero h hh
    have hthere := System.brought_of_showings hv hshown hzero
    have hhere := hhomed.listed ⟨k, .images, swapchain⟩ h hzero hh
    obtain ⟨hdevice, -, hparent⟩ := Home.mk.inj (hhomed.home _ _ h hthere hhere)
    rw [Showing.isOf_iff.2 ⟨hdevice, hparent⟩] at hother
    cases hother
  · intro k' device swapchain' out hdevice hveto call left done
    have hw : call.world.wrapper.enabled = true := hsound.world.wrapping
    obtain ⟨houtcome, hshown, -⟩ := Device.run_perform_images hw swapchain' out hveto
    refine ⟨?_, ?_, fun hsilent => ?_⟩
    · rw [hshown]
      exact houtcome
    · rw [hshown]
      exact Device.length_take_imagesKnown
    · obtain ⟨hleft, hwrapper, -, hcreated⟩ :=
        Device.perform_images_of_silent hw swapchain' out hveto hsilent
      exact ⟨hleft, hwrapper, hcreated⟩

/-- Of three images one is reported at first, then all of them, and then two; in between there are
a query for their number, one that fails, and one for another swapchain. -/
theorem images_of_partial_reports :
    let actions : List (Action Scripted) :=
      [.createDevice 0xd000 0xe000 ⟨[.createSwapchainKhr, .getSwapchainImagesKhr]⟩ [],
        .callDevice 0 (.create (.swapchain 0 0)) { slots := some [0] },
        .callDevice 0 (.create (.swapchain 0 0)) { slots := some [0] },
        .moveBelow fun s => { s with script := { handles := some [some 7, some 8, some 9] } },
        .callDevice 0 (.getSwapchainImages (idAt 0)) { slots := some [0], count := 1 },
        .callDevice 0 (.getSwapchainImages (idAt 0)) {},
        .callDevice 0 (.getSwapchainImages (idAt 0)) { slots := some [0, 0, 0], count := 3 },
        .moveBelow fun s => { s with script := { handles := some [some 5] } },
        .callDevice 0 (.getSwapchainImages (idAt 1)) { slots := some [0], count := 1 },
        .moveBelow fun s => { s with script :=
          { result := some .extensionNotPresent, handles := some [some 7, some 8, some 9] } },
        .callDevice 0 (.getSwapchainImages (idAt 0)) { slots := some [0, 0], count := 2 },
        .moveBelow fun s => { s with script := { handles := some [some 7, some 8, some 9] } },
        .callDevice 0 (.getSwapchainImages (idAt 0)) { slots := some [0, 0], count := 2 }]
    let start := System.start 0xa000 0 .default .empty default [] ({} : Scripted)
    let s := start.run actions
    let queries := (start.showings actions).filter (Showing.isOf 0 (idAt 0))
    (Settings.default.handleWrapping = true ∧
        start.abides Action.sparesImages [] actions = true ∧
        (∀ x ∈ start.history actions, x.device = 0 → x.request = .destroy .swapchain (idAt 0) →
          x.outcome.1 = .validationFailed) ∧
        (∀ v ∈ queries, v.reals <+: [7, 8, 9]) ∧ s.world.wrapper.map.drawn < drawLimit) ∧
      queries.map (·.reals) = [[7], [], [7, 8, 9], [], [7, 8]] ∧
      ∃ a b c, [a, b, c].Nodup ∧ [a, b, c].map s.world.wrapper.unwrap = [7, 8, 9] ∧
        queries.map (·.shown) = [[a], [], [a, b, c], [], [a, b]] := by
  intro actions start s queries
  have hwrapping : Settings.default.handleWrapping = true := by decide +kernel
  have hspares : start.abides Action.sparesImages [] actions = true := by decide +kernel
  have hstays : ∀ x ∈ start.history actions, x.device = 0 →
      x.request = .destroy .swapchain (idAt 0) → x.outcome.1 = .validationFailed := by
    decide +kernel
  have hbegins : ∀ v ∈ queries, v.reals <+: [7, 8, 9] := by decide +kernel
  have hlimit : s.world.wrapper.map.drawn < drawLimit := by decide +kernel
  have hfound : queries.map (·.reals) = [[7], [], [7, 8, 9], [], [7, 8]] := by decide +kernel
  clear_value actions
  obtain ⟨⟨images, hnodup, -, hunwrap, hshown, hlength, -⟩, -⟩ :=
    images_keep_one_surrogate 0xa000 0 .default hwrapping .empty default [] ({} : Scripted) actions
      0 (idAt 0) [7, 8, 9] hspares hstays (by decide) hbegins hlimit
  have hthree : images.length = 3 := by
    have hlengths : (queries.map (·.reals)).map List.length = [1, 0, 3, 0, 2] := by
      rw [hfound]
      rfl
    rw [List.map_map] at hlengths
    exact hlength.symm.trans (congrArg (List.foldl max 0) hlengths)
  obtain ⟨a, b, c, rfl⟩ := List.length_eq_three.1 hthree
  refine ⟨⟨hwrapping, hspares, hstays, hbegins, hlimit⟩, hfound, a, b, c, hnodup, hunwrap, ?_⟩
  have hall : queries.map (·.shown)
      = (queries.map (·.reals)).map fun r => [a, b, c].take r.length := by
    rw [List.map_map]
    exact List.map_congr_left hshown
  rw [hall, hfound]
  rfl

/-- Each device lists images of its own: the same image of the same swapchain is shown as one
surrogate by the device that has created the swapchain, and as another one by a second device. -/
theorem image_on_two_devices :
    let table : EntryTable := ⟨[.createSwapchainKhr, .getSwapchainImagesKhr]⟩
    let actions : List (Action Scripted) :=
      [.createDevice 0xd000 0xe000 table [],
        .createDevice 0xd000 0xe100 table [],
        .callDevice 0 (.create (.swapchain 0 0)) { slots := some [0] },
        .moveBelow fun s => { s with script := { handles := some [some 7] } },
        .callDevice 0 (.getSwapchainImages (idAt 0)) { slots := some [0], count := 1 },
        .callDevice 1 (.getSwapchainImages (idAt 0)) { slots := some [0], count := 1 }]
    let start := System.start 0xa000 0 .default .empty default [] ({} : Scripted)
    let s := start.run actions
    Settings.default.handleWrapping = true ∧
      start.abides Action.sparesImages [] actions = true ∧
      s.world.wrapper.map.drawn < drawLimit ∧ s.world.wrapper.unwrap (idAt 0) = 0x100000 ∧
      start.showings actions
        = [⟨0, idAt 0, [7], [idAt 1], [(.image, idAt 1)]⟩,
            ⟨1, idAt 0, [7], [idAt 2], [(.image, idAt 2)]⟩] ∧
      idAt 1 ≠ idAt 2 := by
  intro table actions start s
  refine ⟨?_, ?_, ?_, ?_, ?_, ?_⟩ <;> decide +kernel

end HandleLayer
