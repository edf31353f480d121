import HandleLayer.Proofs.Ids
import HandleLayer.Proofs.Programs

/-!
# Announcements and the surrogate map

A call makes surrogates come or go, and it announces the handles that come and go.  Each
of the small programs that do both keeps the two in step, so that whole calls do.

An announcement is seen as such even where there is no validation object, and after it each
object is told.  That they all are, whatever a call announces, is `Dispatch.Shows.lifetimes`.

## Main definitions

* `createdIn`, `destroyedIn` — the announcements among events.
* `World.Live` — the surrogates that stand for something.
* `announcements`, `births`, `deaths` — what is seen while handles are announced.
* `Quiet`, `Births`, `Deaths` — what a program may do to what is shared: leave the map and
  the announcements alone, mint and announce, or remove and announce.

## Main results

* `Births.trans`, `Deaths.trans` — one program after another.
* `births_wrapNewMany` — minting with announcements.
* `deaths_eraseMany` — removing with announcements.
* `run_forM_announceCreated`, `run_forM_eraseHandle` and their like — loops over handles.
-/

namespace HandleLayer

variable {σ : Type}

/-! ### Announcements -/

/-- The handle whose beginning an event announces, with its type. -/
def Event.created? : Event → Option (ObjectType × Handle)
  | .announced (.created type h) => some (type, h)
  | _ => none

/-- The handle whose end an event announces, with its type. -/
def Event.destroyed? : Event → Option (ObjectType × Handle)
  | .announced (.destroyed type h) => some (type, h)
  | _ => none

/-- The handles announced as created, in order. -/
def createdIn (events : List Event) : List (ObjectType × Handle) :=
  events.filterMap Event.created?

/-- The handles announced as destroyed, in order. -/
def destroyedIn (events : List Event) : List (ObjectType × Handle) :=
  events.filterMap Event.destroyed?

@[simp] theorem createdIn_nil : createdIn [] = [] := rfl

@[simp] theorem destroyedIn_nil : destroyedIn [] = [] := rfl

@[simp] theorem createdIn_append (es es' : List Event) :
    createdIn (es ++ es') = createdIn es ++ createdIn es' := List.filterMap_append

@[simp] theorem destroyedIn_append (es es' : List Event) :
    destroyedIn (es ++ es') = destroyedIn es ++ destroyedIn es' := List.filterMap_append

/-- Whether nothing is announced by events. -/
def Silent (es : List Event) : Prop := createdIn es = [] ∧ destroyedIn es = []

theorem Silent.append {es es' : List Event} (h : Silent es) (h' : Silent es') :
    Silent (es ++ es') := by
  refine ⟨?_, ?_⟩
  · rw [createdIn_append, h.1, h'.1]
    rfl
  · rw [destroyedIn_append, h.2, h'.2]
    rfl

theorem silent_nil : Silent [] := ⟨rfl, rfl⟩

theorem silent_of_forall {es : List Event}
    (h : ∀ e ∈ es, e.created? = none ∧ e.destroyed? = none) : Silent es :=
  ⟨List.filterMap_eq_nil_iff.2 fun e he => (h e he).1,
    List.filterMap_eq_nil_iff.2 fun e he => (h e he).2⟩

theorem silent_map {α : Type} {f : α → Event} (hcreated : ∀ a, (f a).created? = none)
    (hdestroyed : ∀ a, (f a).destroyed? = none) (as : List α) : Silent (as.map f) := by
  constructor
  · rw [createdIn, List.filterMap_map]
    exact List.filterMap_eq_nil_iff.2 fun a _ => hcreated a
  · rw [destroyedIn, List.filterMap_map]
    exact List.filterMap_eq_nil_iff.2 fun a _ => hdestroyed a

/-- Telling objects something is no announcement of its own. -/
theorem silent_toldEach (objects : List ValidationObject) (hook : Hook) :
    Silent (toldEach objects hook) :=
  ⟨filterMap_toldEach (fun _ => rfl) objects, filterMap_toldEach (fun _ => rfl) objects⟩

theorem silent_toldBefore (objects : List ValidationObject) (command : Command) :
    Silent (toldBefore objects command) :=
  (silent_toldEach objects _).append (silent_toldEach objects _)

/-- Announcements, each of which is told to all the objects in turn. -/
def announcements (objects : List ValidationObject) (hooks : List Hook) : List Event :=
  hooks.flatMap fun hook => .announced hook :: toldEach objects hook

theorem announcements_append (objects : List ValidationObject) (hooks hooks' : List Hook) :
    announcements objects (hooks ++ hooks')
      = announcements objects hooks ++ announcements objects hooks' := List.flatMap_append

/-- What is found of announcements does not depend on the objects that are told. -/
theorem filterMap_announcements {β : Type} {f : Event → Option β}
    (htold : ∀ o hook, f (.told o hook) = none) (objects : List ValidationObject)
    (hooks : List Hook) :
    (announcements objects hooks).filterMap f
      = hooks.filterMap fun hook => f (.announced hook) := by
  have hone : ∀ hook, (.announced hook :: toldEach objects hook).filterMap f
      = (f (.announced hook)).toList := by
    intro hook
    rw [List.filterMap_cons, filterMap_toldEach fun o => htold o hook]
    split <;> simp [*]
  rw [announcements, List.filterMap_flatMap, List.filterMap_eq_flatMap_toList]
  exact congrArg (List.flatMap · hooks) (funext hone)

theorem createdIn_announcements (objects : List ValidationObject) (hooks : List Hook) :
    createdIn (announcements objects hooks)
      = hooks.filterMap fun hook => (Event.announced hook).created? :=
  filterMap_announcements (fun _ _ => rfl) objects hooks

theorem destroyedIn_announcements (objects : List ValidationObject) (hooks : List Hook) :
    destroyedIn (announcements objects hooks)
      = hooks.filterMap fun hook => (Event.announced hook).destroyed? :=
  filterMap_announcements (fun _ _ => rfl) objects hooks

/-- The announcement that handles exist from now on, as far as they are not null. -/
def births (objects : List ValidationObject) (type : ObjectType) (hs : List Handle) :
    List Event :=
  announcements objects ((hs.filter (· ≠ 0)).map (.created type))

/-- The announcement that handles are gone, as far as they are not null. -/
def deaths (objects : List ValidationObject) (type : ObjectType) (hs : List Handle) :
    List Event :=
  announcements objects ((hs.filter (· ≠ 0)).map (.destroyed type))

theorem createdIn_births (objects : List ValidationObject) (type : ObjectType)
    (hs : List Handle) :
    createdIn (births objects type hs) = (hs.filter (· ≠ 0)).map (type, ·) := by
  rw [births, createdIn_announcements, List.filterMap_map, ← List.filterMap_eq_map]
  rfl

theorem destroyedIn_births (objects : List ValidationObject) (type : ObjectType)
    (hs : List Handle) : destroyedIn (births objects type hs) = [] := by
  rw [births, destroyedIn_announcements, List.filterMap_map]
  exact List.filterMap_eq_nil_iff.2 fun _ _ => rfl

theorem destroyedIn_deaths (objects : List ValidationObject) (type : ObjectType)
    (hs : List Handle) :
    destroyedIn (deaths objects type hs) = (hs.filter (· ≠ 0)).map (type, ·) := by
  rw [deaths, destroyedIn_announcements, List.filterMap_map, ← List.filterMap_eq_map]
  rfl

theorem createdIn_deaths (objects : List ValidationObject) (type : ObjectType)
    (hs : List Handle) : createdIn (deaths objects type hs) = [] := by
  rw [deaths, createdIn_announcements, List.filterMap_map]
  exact List.filterMap_eq_nil_iff.2 fun _ _ => rfl

/-! ### What programs may do to what is shared -/

/-- What was seen so far, oldest first. -/
def World.events (w : World σ) : List Event := w.trace.toList

@[simp] theorem World.events_see (events : List Event) (w : World σ) :
    (w.see events).events = w.events ++ events := by
  simp [World.events, World.see]

/-- Whether a handle is a surrogate that stands for something. -/
def World.Live (w : World σ) (h : Handle) : Prop := (w.wrapper.map.unwrap h).isSome = true

/-- The surrogates stay as they are, and nothing is announced. -/
def Quiet (w w' : World σ) : Prop :=
  w'.wrapper = w.wrapper ∧ ∃ es, w'.events = w.events ++ es ∧ Silent es

/-- Surrogates are minted by the draws `ns`, and exactly they are announced, as objects of
one type. -/
structure BirthsBy (type : ObjectType) (es : List Event) (ns : List Nat) (w w' : World σ) :
    Prop where
  events_eq : w'.events = w.events ++ es
  enabled_eq : w'.wrapper.enabled = w.wrapper.enabled
  created : createdIn es = ns.map fun n => (type, idAt n)
  destroyed : destroyedIn es = []
  sorted : ns.Pairwise (· < ·)
  drawn : ∀ n ∈ ns, w.wrapper.map.drawn ≤ n ∧ n < w'.wrapper.map.drawn
  drawn_le : w.wrapper.map.drawn ≤ w'.wrapper.map.drawn
  ne_zero : ∀ n ∈ ns, idAt n ≠ 0
  live : ∀ h, w'.Live h ↔ w.Live h ∨ ∃ n ∈ ns, h = idAt n

/-- Surrogates are minted and announced as objects of one type. -/
def Births (type : ObjectType) (w w' : World σ) : Prop := ∃ es ns, BirthsBy type es ns w w'

/-- Surrogates are removed, and exactly they are announced; each of them is among those
`named`, or has the type under which it was announced as created. -/
structure DeathsBy (named : List (ObjectType × Handle)) (es : List Event)
    (w w' : World σ) : Prop where
  events_eq : w'.events = w.events ++ es
  enabled_eq : w'.wrapper.enabled = w.wrapper.enabled
  created : createdIn es = []
  ne_zero : ∀ p ∈ destroyedIn es, p.2 ≠ 0
  typed : ∀ p ∈ destroyedIn es, p ∈ named ∨ p ∈ createdIn w.events
  drawn_eq : w'.wrapper.map.drawn = w.wrapper.map.drawn
  live : ∀ h, w'.Live h ↔ w.Live h ∧ h ∉ (destroyedIn es).map Prod.snd

/-- Surrogates are removed and announced. -/
def Deaths (named : List (ObjectType × Handle)) (w w' : World σ) : Prop :=
  ∃ es, DeathsBy named es w w'

variable {type : ObjectType} {named : List (ObjectType × Handle)} {w w' w'' : World σ}

theorem append_events {l l' l'' es es' : List Event} (h : l' = l ++ es)
    (h' : l'' = l' ++ es') : l'' = l ++ (es ++ es') := by
  rw [h', h, List.append_assoc]

theorem Quiet.refl (w : World σ) : Quiet w w := ⟨rfl, [], by simp, silent_nil⟩

/-- It is quiet where events are seen that announce nothing. -/
theorem Quiet.see {es : List Event} (hes : Silent es) (w : World σ) : Quiet w (w.see es) :=
  ⟨rfl, es, World.events_see es w, hes⟩

theorem Quiet.trans (h : Quiet w w') (h' : Quiet w' w'') : Quiet w w'' := by
  obtain ⟨hwrapper, es, hevents, hes⟩ := h
  obtain ⟨hwrapper', es', hevents', hes'⟩ := h'
  exact ⟨hwrapper'.trans hwrapper, es ++ es', append_events hevents hevents', hes.append hes'⟩

/-- Nothing announced is a special case of births. -/
theorem Quiet.births (h : Quiet w w') : Births type w w' := by
  obtain ⟨hwrapper, es, hevents, hes⟩ := h
  refine ⟨es, [], hevents, ?_, hes.1, hes.2, .nil, by simp, ?_, by simp, fun h => ?_⟩
  · rw [hwrapper]
  · exact Nat.le_of_eq (by rw [hwrapper])
  · simp [World.Live, hwrapper]

/-- Nothing announced is a special case of deaths. -/
theorem Quiet.deaths (h : Quiet w w') : Deaths named w w' := by
  obtain ⟨hwrapper, es, hevents, hes⟩ := h
  refine ⟨es, hevents, ?_, hes.1, ?_, ?_, ?_, fun h => ?_⟩
  · rw [hwrapper]
  · simp [hes.2]
  · simp [hes.2]
  · rw [hwrapper]
  · simp [World.Live, hwrapper, hes.2]

/-- **Births after births are births.** -/
theorem Births.trans (h : Births type w w') (h' : Births type w' w'') : Births type w w'' := by
  obtain ⟨es, ns, h⟩ := h
  obtain ⟨es', ns', h'⟩ := h'
  refine ⟨es ++ es', ns ++ ns', append_events h.events_eq h'.events_eq, h'.enabled_eq.trans
    h.enabled_eq, ?created, ?destroyed, ?sorted, fun n hn => ?drawn, Nat.le_trans h.drawn_le
    h'.drawn_le, fun n hn => ?ne_zero, fun k => ?live⟩
  case created =>
    rw [createdIn_append, h.created, h'.created, List.map_append]
  case destroyed =>
    rw [destroyedIn_append, h.destroyed, h'.destroyed]
    rfl
  case sorted =>
    -- the later draws have the higher numbers
    refine List.pairwise_append.2 ⟨h.sorted, h'.sorted, fun n hn n' hn' => ?_⟩
    have hlow := (h.drawn n hn).2
    have hhigh := (h'.drawn n' hn').1
    omega
  case drawn =>
    have hle := h.drawn_le
    have hle' := h'.drawn_le
    rcases List.mem_append.1 hn with hn | hn
    · have hbound := h.drawn n hn
      omega
    · have hbound := h'.drawn n hn
      omega
  case ne_zero =>
    rcases List.mem_append.1 hn with hn | hn
    · exact h.ne_zero n hn
    · exact h'.ne_zero n hn
  case live =>
    rw [h'.live, h.live]
    simp only [List.mem_append, or_and_right, exists_or, or_assoc]

/-- **Deaths after deaths are deaths.** -/
theorem Deaths.trans (h : Deaths named w w') (h' : Deaths named w' w'') :
    Deaths named w w'' := by
  obtain ⟨es, h⟩ := h
  obtain ⟨es', h'⟩ := h'
  refine ⟨es ++ es', append_events h.events_eq h'.events_eq, h'.enabled_eq.trans h.enabled_eq,
    ?created, fun p hp => ?ne_zero, fun p hp => ?typed, h'.drawn_eq.trans h.drawn_eq,
    fun k => ?live⟩
  case created =>
    rw [createdIn_append, h.created, h'.created]
    rfl
  case ne_zero =>
    rw [destroyedIn_append] at hp
    rcases List.mem_append.1 hp with hp | hp
    · exact h.ne_zero p hp
    · exact h'.ne_zero p hp
  case typed =>
    rw [destroyedIn_append] at hp
    rcases List.mem_append.1 hp with hp | hp
    · exact h.typed p hp
    · -- nothing was announced as created in between
      have hsame : createdIn w'.events = createdIn w.events := by
        rw [h.events_eq, createdIn_append, h.created, List.append_nil]
      rw [← hsame]
      exact h'.typed p hp
  case live =>
    rw [h'.live, h.live, destroyedIn_append, List.map_append, List.mem_append, not_or, and_assoc]

/-! ### Minting and removing with announcements -/

/-- What is shared, with another wrapper. -/
def World.withWrapper (wrapper : Wrapper) (w : World σ) : World σ := { w with wrapper }

/-- **Minting with announcements are births.** -/
theorem births_wrapNewMany (type : ObjectType) (hw : w.wrapper.enabled = true)
    (objects : List ValidationObject) (reals : List Handle) :
    Births type w ((w.withWrapper (w.wrapper.wrapNewMany reals).2).see
      (births objects type (w.wrapper.wrapNewMany reals).1)) := by
  obtain ⟨ns, hids, hsorted, hbound, hdrawn, henabled, hlive⟩ :=
    Wrapper.exists_wrapNewMany hw reals
  refine ⟨_, ns, World.events_see _ _, henabled.trans hw.symm, ?_, destroyedIn_births _ _ _,
    hsorted, fun n hn => (hbound n hn).1, hdrawn, fun n hn => (hbound n hn).2, hlive⟩
  rw [createdIn_births, hids, List.map_map]
  rfl

/-- **Removing with announcements are deaths**, when exactly the handles that are removed
are announced. -/
theorem deaths_eraseMany (hw : w.wrapper.enabled = true) (hs : List Handle) {es : List Event}
    (hcreated : createdIn es = [])
    (hdestroyed : ∀ h, h ∈ (destroyedIn es).map Prod.snd ↔ h ∈ hs ∧ h ≠ 0)
    (htyped : ∀ p ∈ destroyedIn es, p ∈ named ∨ p ∈ createdIn w.events) :
    Deaths named w ((w.withWrapper (w.wrapper.eraseMany hs)).see es) := by
  refine ⟨es, World.events_see _ _, w.wrapper.enabled_eraseMany hs, hcreated, fun p hp => ?_,
    htyped, w.wrapper.drawn_eraseMany hs, fun h => ?_⟩
  · exact ((hdestroyed p.2).1 (List.mem_map.2 ⟨p, hp, rfl⟩)).2
  · have hunwrap : ((w.withWrapper (w.wrapper.eraseMany hs)).see es).Live h ↔
        ((w.wrapper.eraseMany hs).map.unwrap h).isSome = true := Iff.rfl
    rw [hunwrap, Wrapper.unwrap_eraseMany hw, hdestroyed]
    unfold World.Live
    split
    · next hgone => simp [hgone]
    · next hstays => simp [hstays]

/-- The handles in the announcement that handles are gone. -/
theorem mem_destroyedIn_deaths {objects : List ValidationObject} {hs : List Handle}
    {p : ObjectType × Handle} :
    p ∈ destroyedIn (deaths objects type hs) ↔ p.1 = type ∧ p.2 ∈ hs ∧ p.2 ≠ 0 := by
  rw [destroyedIn_deaths, List.mem_map]
  constructor
  · rintro ⟨h, hh, rfl⟩
    have hmem := List.mem_filter.1 hh
    exact ⟨rfl, hmem.1, by simpa using hmem.2⟩
  · rintro ⟨rfl, hmem, hzero⟩
    exact ⟨p.2, List.mem_filter.2 ⟨hmem, by simpa using hzero⟩, rfl⟩

theorem mem_map_destroyedIn_deaths {objects : List ValidationObject} {hs : List Handle}
    {h : Handle} :
    h ∈ (destroyedIn (deaths objects type hs)).map Prod.snd ↔ h ∈ hs ∧ h ≠ 0 := by
  rw [List.mem_map]
  constructor
  · rintro ⟨p, hp, rfl⟩
    exact (mem_destroyedIn_deaths.1 hp).2
  · rintro hmem
    exact ⟨(type, h), mem_destroyedIn_deaths.2 ⟨rfl, hmem⟩, rfl⟩

/-! ### The programs -/

variable {δ : Type}

/-- The state with another wrapper. -/
def Layer.withWrapper (wrapper : Wrapper) (s : Layer δ σ) : Layer δ σ :=
  { s with world := s.world.withWrapper wrapper }

theorem run_wrapNewMany (reals : List Handle) (s : Layer δ σ) :
    (wrapNewMany reals : CallM δ σ (List Handle)).run s
      = ((s.world.wrapper.wrapNewMany reals).1,
          s.withWrapper (s.world.wrapper.wrapNewMany reals).2) := rfl

theorem births_cons (objects : List ValidationObject) (type : ObjectType) (h : Handle)
    (hs : List Handle) :
    births objects type (h :: hs) = births objects type [h] ++ births objects type hs := by
  rw [births, births, births, ← announcements_append, ← List.map_append, ← List.filter_append]
  rfl

theorem deaths_cons (objects : List ValidationObject) (type : ObjectType) (h : Handle)
    (hs : List Handle) :
    deaths objects type (h :: hs) = deaths objects type [h] ++ deaths objects type hs := by
  rw [deaths, deaths, deaths, ← announcements_append, ← List.map_append, ← List.filter_append]
  rfl

theorem run_announceCreated (type : ObjectType) (h : Handle) (s : Layer δ σ) :
    (announceCreated type h : CallM δ σ Unit).run s
      = ((), s.see (births s.object.registry.chain.objects type [h])) := by
  unfold announceCreated
  split
  · next hzero =>
    have hone : births s.object.registry.chain.objects type [h]
        = .announced (.created type h)
          :: toldEach s.object.registry.chain.objects (.created type h) := by
      simp [births, announcements, hzero]
    rw [hone, run_announce]
  · next hzero =>
    have hnone : births s.object.registry.chain.objects type [h] = [] := by
      simp [births, announcements, hzero]
    rw [hnone, Layer.see_nil, run_pure]

theorem run_announceDestroyed (type : ObjectType) (h : Handle) (s : Layer δ σ) :
    (announceDestroyed type h : CallM δ σ Unit).run s
      = ((), s.see (deaths s.object.registry.chain.objects type [h])) := by
  unfold announceDestroyed
  split
  · next hzero =>
    have hone : deaths s.object.registry.chain.objects type [h]
        = .announced (.destroyed type h)
          :: toldEach s.object.registry.chain.objects (.destroyed type h) := by
      simp [deaths, announcements, hzero]
    rw [hone, run_announce]
  · next hzero =>
    have hnone : deaths s.object.registry.chain.objects type [h] = [] := by
      simp [deaths, announcements, hzero]
    rw [hnone, Layer.see_nil, run_pure]

theorem run_forM_announceCreated (type : ObjectType) (hs : List Handle) (s : Layer δ σ) :
    (hs.forM (announceCreated type) : CallM δ σ Unit).run s
      = ((), s.see (births s.object.registry.chain.objects type hs)) := by
  induction hs generalizing s with
  | nil => exact congrArg (Prod.mk ()) (Layer.see_nil s).symm
  | cons h hs ih =>
    rw [run_forM_cons, run_announceCreated, ih, Layer.see_see,
      births_cons _ type h hs]
    rfl

theorem run_forM_announceDestroyed (type : ObjectType) (hs : List Handle) (s : Layer δ σ) :
    (hs.forM (announceDestroyed type) : CallM δ σ Unit).run s
      = ((), s.see (deaths s.object.registry.chain.objects type hs)) := by
  induction hs generalizing s with
  | nil => exact congrArg (Prod.mk ()) (Layer.see_nil s).symm
  | cons h hs ih =>
    rw [run_forM_cons, run_announceDestroyed, ih, Layer.see_see,
      deaths_cons _ type h hs]
    rfl

theorem run_forM_eraseHandle (hs : List Handle) (s : Layer δ σ) :
    (hs.forM eraseHandle : CallM δ σ Unit).run s
      = ((), s.withWrapper (s.world.wrapper.eraseMany hs)) := by
  induction hs generalizing s with
  | nil => rfl
  | cons h hs ih =>
    rw [run_forM_cons, run_eraseHandle, ih]
    rfl

/-- Dropping sets removes them all and announces them in order. -/
theorem Device.run_dropSets (sets : List Handle) (s : Layer Tracked σ) :
    (dropSets sets).run s
      = ((), (s.withWrapper (s.world.wrapper.eraseMany sets)).see
          (deaths s.object.registry.chain.objects .descriptorSet sets)) := by
  unfold dropSets
  induction sets generalizing s with
  | nil => exact congrArg (Prod.mk ()) (Layer.see_nil s).symm
  | cons h hs ih =>
    rw [run_forM_cons, run_bind_of (run_eraseHandle h s), run_announceDestroyed, ih,
      deaths_cons _ _ h hs, Wrapper.eraseMany_cons, ← Layer.see_see]
    rfl

/-- Calling the next layer is quiet. -/
theorem quiet_ask [NextLayer σ] (s : Layer δ σ) (request : Request) (room : Option Nat) :
    Quiet s.world (s.ask request room).world := by
  refine ⟨Layer.wrapper_ask s request room, ?_⟩
  unfold Layer.ask
  split
  · exact ⟨_, World.events_see _ s.world, rfl, rfl⟩
  · exact ⟨[], (List.append_nil _).symm, silent_nil⟩

/-- Handing a request down is quiet. -/
theorem Device.quiet_sent [NextLayer σ] (r : DeviceRequest) (room : Option Nat)
    (s : Layer Tracked σ) : Quiet s.world (sent r room s).world := by
  have hnoted : ∀ notices : List Notice, Quiet s.world (s.see (notices.map .notice)).world :=
    fun notices => .see (silent_map (fun _ => rfl) (fun _ => rfl) notices) s.world
  exact (hnoted _).trans (quiet_ask _ _ room)

end HandleLayer
