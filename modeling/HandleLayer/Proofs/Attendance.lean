import HandleLayer.Proofs.Handouts

/-!
# Validation objects in attendance

An instance or a device is given validation objects once, and kinds of them are released later.
Who is told of a call follows from that alone: the objects whose kind is admitted by the
settings and has not been released, in the order in which they were given.  Those that intercept
the command are asked, all of them, and told before and after the call unless one has asked to
skip it; handles that come and go are announced to every object that is left.

## Main definitions

* `Roster` — the objects that were given, and the kinds released since.
* `Roster.current`, `Roster.watchers` — the objects that are left, and those of them that
  intercept a command.
* `Roster.Fills` — a registry that holds the objects on a roster.
* `lifetimes`, `Device.arrivals` — what is announced of a call, and the handles that come in it.
* `Attended` — how a call is brought before validation objects.
* `Rosters`, `System.Enlists` — the rosters of a run, and the invariant.

## Main results

* `Roster.Fills.dismiss` — releases lose no object and repeat none.
* `Device.attended_perform`, `Instance.attended_perform` — one call.
* `System.Enlists.act`, `System.Enlists.run` — the invariant holds whatever happens.
* `validation_objects_attend_calls` — **the right objects are told, in the right order.**
-/

namespace HandleLayer

variable {δ σ : Type}

/-! ### Rosters -/

/-- The validation objects that an instance or a device was given, and the kinds released from
it since. -/
structure Roster where
  given : List ValidationObject
  gone : ObjectKind → Bool

namespace Roster

/-- The roster on which nothing has been released yet. -/
def new (objects : List ValidationObject) : Roster := ⟨objects, fun _ => false⟩

/-- The roster after the release of further kinds. -/
def dismiss (q : ObjectKind → Bool) (r : Roster) : Roster :=
  { r with gone := fun kind => q kind || r.gone kind }

/-- The objects that are left: their kind is admitted and has not been released. -/
def current (settings : Settings) (r : Roster) : List ValidationObject :=
  r.given.filter fun o => Registry.admits settings o.kind && !r.gone o.kind

/-- The objects that are left and intercept a command. -/
def watchers (settings : Settings) (intercepts : Nat → Command → Bool) (c : Command)
    (r : Roster) : List ValidationObject :=
  (r.current settings).filter fun o => intercepts o.id c

/-- A registry that holds the objects on a roster: those left in order, with what they
intercept, and no object is lost or repeated by releases. -/
structure Fills (settings : Settings) (intercepts : Nat → Command → Bool) (r : Roster)
    (reg : Registry) : Prop where
  objects : reg.chain.objects = r.current settings
  intercepting : ∀ c, reg.chain.intercepting c = r.watchers settings intercepts c
  perm : (reg.chain.objects ++ reg.released).Perm
    (r.given.filter fun o => Registry.admits settings o.kind)

variable {settings : Settings} {intercepts : Nat → Command → Bool} {b : Behaviour}

theorem fills_new (hb : b.intercepts = intercepts) (objects : List ValidationObject) :
    (new objects).Fills settings intercepts (Registry.new b settings objects).value := by
  have hcurrent : (new objects).current settings
      = objects.filter fun o => Registry.admits settings o.kind := by
    simp [current, new]
  refine ⟨hcurrent.symm, fun c => ?_, ?_⟩
  · subst hb
    rw [watchers, hcurrent]
    exact ValidationChain.intercepting_new b _ c
  · show ((objects.filter _) ++ []).Perm _
    rw [List.append_nil]
    exact .refl _

/-- **Releases lose no object and repeat none**, and they keep the order of those that stay. -/
theorem Fills.dismiss {r : Roster} {reg : Registry} (h : r.Fills settings intercepts reg)
    (hb : b.intercepts = intercepts) (q : ObjectKind → Bool) :
    (r.dismiss q).Fills settings intercepts (reg.releaseIf (fun o => q o.kind) b) := by
  have hcurrent : (reg.releaseIf (fun o => q o.kind) b).chain.objects
      = (r.dismiss q).current settings := by
    rw [Registry.objects_releaseIf, h.objects, current, current, List.filter_filter]
    refine List.filter_congr fun o _ => ?_
    show (!q o.kind && (_ && !r.gone o.kind)) = (_ && !(q o.kind || r.gone o.kind))
    rw [Bool.not_or, Bool.and_left_comm]
  refine ⟨hcurrent, fun c => ?_, ?_⟩
  · subst hb
    rw [watchers, ← hcurrent]
    exact ValidationChain.intercepting_new b _ c
  · -- the objects that leave the chain are put behind those released before
    have hsplit := List.filter_append_perm (fun o => !q o.kind) reg.chain.objects
    simp only [Bool.not_not] at hsplit
    rw [Registry.objects_releaseIf, Registry.released_releaseIf]
    refine List.Perm.trans ?_ h.perm
    refine List.Perm.trans ?_ (hsplit.append_right reg.released)
    rw [List.append_assoc]
    exact List.perm_append_comm.append_left _

end Roster

/-! ### One call -/

/-- What there is to be told of objects that are new, and of others that are gone. -/
def lifetimes (born gone : List (ObjectType × Handle)) : List Hook :=
  (born.map fun p => .created p.1 p.2) ++ gone.map fun p => .destroyed p.1 p.2

/-- How a call with command `c` to the object `d` is brought before those objects `watchers` of
all the objects `current` that intercept it, when it brings the handles `born` and does away with
those in `gone`.  Each of the watchers is asked.  If one asks to skip the call, that is all that
happens.  If not, they are told before the call; then the call is made, which asks the next layer
once, if it `asks` for anything and there is the entry point; and in the end they are told of the
result that the call has.  While it is made, every one of the current objects is told of each
handle that comes or goes. -/
structure Attended (current watchers : List ValidationObject) (b : Behaviour) (d : Dispatch δ)
    (c : Command) (asks : Bool) (born gone : List (ObjectType × Handle)) (out : Outputs)
    (w : World σ) (o : Result × Outputs) (w' : World σ) : Prop where
  skipped : (watchers.any fun v => b.vetoes v.id c) = true →
    o = (.validationFailed, out) ∧ w'.below = w.below ∧ w'.wrapper = w.wrapper ∧
      ∃ aside, aside.all Event.isAside = true ∧
        w'.events = w.events ++ aside ++ toldEach watchers (.validate c)
  made : (watchers.any fun v => b.vetoes v.id c) = false →
    ∃ aside inner, aside.all Event.isAside = true ∧
      w'.events = w.events ++ aside ++
        (toldEach watchers (.validate c) ++ toldEach watchers (.before c)) ++ inner ++
        toldEach watchers (.after c o.1) ∧
      (∀ e ∈ inner, e.IsWithin current) ∧
      inner.filterMap Event.lifetime?
        = (lifetimes born gone).flatMap (fun hook => current.map fun v => (v, hook)) ∧
      if asks && d.table.provides c then
        ∃ call, inner.filterMap Event.call? = [call] ∧ call.object = d.handle ∧
          call.request.command = c
      else inner.filterMap Event.call? = []

/-- Where handles only come, or only go, the announcements are known from their handles. -/
theorem announced_of_createdIn {current : List ValidationObject} {es : List Event}
    (hwithin : ∀ e ∈ es, e.IsWithin current) (hone : createdIn es = [] ∨ destroyedIn es = []) :
    es.filterMap Event.announced? = lifetimes (createdIn es) (destroyedIn es) := by
  have hparts : ∀ e ∈ es, e.announced? = (e.created?.map fun p => Hook.created p.1 p.2).or
      (e.destroyed?.map fun p => Hook.destroyed p.1 p.2) := by
    intro e he
    cases e with
    | announced hook =>
      have hlifetime := hwithin _ he
      cases hook with
      | created | destroyed => rfl
      | _ => cases hlifetime
    | _ => rfl
  rw [lifetimes, createdIn, destroyedIn, List.map_filterMap, List.map_filterMap]
  rcases hone with hnone | hnone
  · -- no event announces a new handle
    have hcreated : ∀ e ∈ es, e.created? = none := List.filterMap_eq_nil_iff.1 hnone
    rw [List.filterMap_congr hparts]
    have hleft : es.filterMap (fun e => e.created?.map fun p => Hook.created p.1 p.2) = [] :=
      List.filterMap_eq_nil_iff.2 fun e he => by rw [hcreated e he, Option.map_none]
    rw [hleft, List.nil_append]
    exact List.filterMap_congr fun e he => by rw [hcreated e he, Option.map_none, Option.none_or]
  · have hdestroyed : ∀ e ∈ es, e.destroyed? = none := List.filterMap_eq_nil_iff.1 hnone
    rw [List.filterMap_congr hparts]
    have hright : es.filterMap (fun e => e.destroyed?.map fun p => Hook.destroyed p.1 p.2) = [] :=
      List.filterMap_eq_nil_iff.2 fun e he => by rw [hdestroyed e he, Option.map_none]
    rw [hright, List.append_nil]
    exact List.filterMap_congr fun e he => by rw [hdestroyed e he, Option.map_none, Option.or_none]

/-- What a call that is made announces, its objects are told in the part of it that can be
skipped. -/
theorem lifetimes_inner {d : Dispatch δ} {cs : List Command} {w w' : World σ}
    {aside inner opening closing : List Event} {born gone : List (ObjectType × Handle)}
    (hevents : w'.events = w.events ++ aside ++ opening ++ inner ++ closing)
    (haside : aside.all Event.isAside = true) (hopening : Silent opening)
    (hclosing : Silent closing) (hshows : d.Shows cs inner)
    (hannounces : Announces born gone w w') (hone : born = [] ∨ gone = []) :
    inner.filterMap Event.lifetime? = (lifetimes born gone).flatMap fun hook =>
      d.registry.chain.objects.map fun v => (v, hook) := by
  obtain ⟨es, hes, rfl, rfl⟩ := hannounces
  have hsplit : es = aside ++ opening ++ inner ++ closing := by
    refine List.append_cancel_left (hes.symm.trans (hevents.trans ?_))
    simp only [List.append_assoc]
  obtain ⟨hcreated, hdestroyed⟩ := silent_of_isAside haside
  have hborn : createdIn es = createdIn inner := by
    rw [hsplit]
    simp only [createdIn_append, hcreated, hopening.1, hclosing.1, List.nil_append,
      List.append_nil]
  have hgone : destroyedIn es = destroyedIn inner := by
    rw [hsplit]
    simp only [destroyedIn_append, hdestroyed, hopening.2, hclosing.2, List.nil_append,
      List.append_nil]
  rw [hborn, hgone] at hone ⊢
  rw [hshows.lifetimes, announced_of_createdIn hshows.within hone]

/-- The calls that are seen while at most one request goes down. -/
theorem Dispatch.Shows.calls {d : Dispatch δ} {c : Command} {asks : Bool} {es : List Event}
    (h : d.Shows (if asks then [c] else []) es) :
    if asks && d.table.provides c then
      ∃ call, es.filterMap Event.call? = [call] ∧ call.object = d.handle ∧
        call.request.command = c
    else es.filterMap Event.call? = [] := by
  have hcommands := h.commands
  split
  · next hboth =>
    obtain ⟨hasks, hprovides⟩ := Bool.and_eq_true_iff.1 hboth
    rw [if_pos hasks, List.filter_cons_of_pos hprovides] at hcommands
    obtain ⟨call, hcall, hcommand⟩ := List.map_eq_singleton_iff.1 hcommands
    refine ⟨call, hcall, h.objects call ?_, hcommand⟩
    rw [hcall]
    exact List.mem_singleton_self call
  · next hnot =>
    have hnone : (if asks then [c] else []).filter d.table.provides = [] := by
      cases asks with
      | false => rfl
      | true => exact List.filter_cons_of_neg (by simpa using hnot)
    rw [hnone] at hcommands
    exact List.map_eq_nil_iff.1 hcommands

namespace Device

/-- The handles that a call to a device announces as new when it has this outcome: its newcomers,
and pipelines that have waited for it. -/
def arrivals [NextLayer σ] (r : DeviceRequest) (s : Layer Tracked σ) (o : Outcome) :
    List (ObjectType × Handle) :=
  r.welcomed s.world.wrapper.enabled s.object.own o ++ objectsOf .pipeline (unveiled r s o.1)

variable [NextLayer σ]

/-- **What any call announces** that is not skipped. -/
theorem announces_arrivals {r : DeviceRequest} {s : Layer Tracked σ}
    (hs : s.world.wrapper.enabled = true ∨ s.Plain)
    (hveto : s.object.registry.chain.vetoes s.world.behaviour r.command = false) (out : Outputs) :
    let u := (perform r out).run s
    Announces (arrivals r s u.1) (r.departures s.object.own s.world.wrapper.enabled u.1.1) s.world
      u.2.world := by
  intro u
  cases hr : r.awaits? with
  | none =>
    have hnone : unveiled r s u.1.1 = [] := by
      unfold unveiled
      rw [hr]
      rfl
    rw [arrivals, hnone, objectsOf_nil, List.append_nil]
    exact announces_perform hr hveto out
  | some operation =>
    have hparts : r.welcomed s.world.wrapper.enabled s.object.own u.1 = [] ∧
        r.departures s.object.own s.world.wrapper.enabled u.1.1 = [] := by
      cases r with
      | joinOperation other | queryOperation other => exact ⟨ite_self _, rfl⟩
      | _ => cases hr
    rw [arrivals, hparts.1, hparts.2, List.nil_append]
    rcases hs with henabled | hplain
    · exact (announces_perform_of_awaits hr henabled out).1
    · -- nothing waits where handles are not wrapped
      rw [unveiled_of_none hr (hplain.own.get?_deferred operation), objectsOf_nil]
      exact .of_quiet (quiet_perform_of_awaits hr hplain out)

/-- A call brings handles or does away with some, but not both. -/
theorem arrivals_eq_nil_or (r : DeviceRequest) (s : Layer Tracked σ) (o : Outcome) :
    arrivals r s o = [] ∨ r.departures s.object.own s.world.wrapper.enabled o.1 = [] := by
  cases r with
  | destroy | releaseConfiguration | resetDescriptorPool | freeSets =>
    refine .inl ?_
    show (if _ then [] else []) ++ [] = _
    rw [ite_self]
    rfl
  | _ => exact .inr rfl

/-- **One call to a device.** -/
theorem attended_perform (r : DeviceRequest) (out : Outputs) {s : Layer Tracked σ}
    (hs : s.world.wrapper.enabled = true ∨ s.Plain) :
    Attended s.object.registry.chain.objects (s.object.registry.chain.intercepting r.command)
      s.world.behaviour s.object r.command true (arrivals r s ((perform r out).run s).1)
      (r.departures s.object.own s.world.wrapper.enabled ((perform r out).run s).1.1) out s.world
      ((perform r out).run s).1 ((perform r out).run s).2.world := by
  refine ⟨fun hveto => ?_, fun hveto => ?_⟩
  · rw [run_perform_of_vetoes hveto]
    refine ⟨rfl, rfl, rfl, _, all_isAside_lost s.object.own r, ?_⟩
    rw [List.append_assoc]
    exact World.events_see _ s.world
  · obtain ⟨t, own, memory, hcourse, hrun⟩ := exists_course_perform hveto out
    obtain ⟨inner, hinner, hshows⟩ := hcourse.events
    have hbegun : ∀ es : List Event,
        ((s.withOwn (s.object.own.prepared r)).see es).world.events = s.world.events ++ es :=
      fun es => World.events_see es s.world
    have hended : ((perform r out).run s).2.world.events = t.world.events ++ _ :=
      (congrArg (fun u : Layer Tracked σ => u.world.events) hrun).trans
        (World.events_see _ t.world)
    rw [hinner, hbegun, ← List.append_assoc s.world.events] at hended
    exact ⟨s.object.own.lost r, inner, all_isAside_lost s.object.own r, hended, hshows.within,
      lifetimes_inner hended (all_isAside_lost s.object.own r) (silent_toldBefore _ _)
        (silent_toldEach _ _) hshows.of_withOwn (announces_arrivals hs hveto out)
        (arrivals_eq_nil_or r s _),
      hshows.of_withOwn.calls⟩

end Device

/-- **One call to an instance.** -/
theorem Instance.attended_perform [NextLayer σ] (r : InstanceRequest) (out : Outputs)
    (s : Layer Settings σ) :
    Attended s.object.registry.chain.objects (s.object.registry.chain.intercepting r.command)
      s.world.behaviour s.object r.command (r.asks out) [] r.departures out s.world
      ((perform r out).run s).1 ((perform r out).run s).2.world := by
  refine ⟨fun hveto => ?_, fun hveto => ?_⟩
  · rw [run_perform_of_vetoes hveto]
    refine ⟨rfl, rfl, rfl, [], rfl, ?_⟩
    rw [List.append_nil]
    exact World.events_see _ s.world
  · obtain ⟨t, hcourse, hrun⟩ := exists_course_perform hveto out
    obtain ⟨inner, hinner, hshows⟩ := hcourse.events
    have hbegun : ∀ es : List Event, (s.see es).world.events = s.world.events ++ es :=
      fun es => World.events_see es s.world
    have hended : ((perform r out).run s).2.world.events = t.world.events ++ _ :=
      (congrArg (fun u : Layer Settings σ => u.world.events) hrun).trans
        (World.events_see _ t.world)
    rw [hinner, hbegun, ← List.append_nil s.world.events] at hended
    have hannounces := announces_perform r out s
    have hveto' : ¬ s.object.registry.chain.vetoes s.world.behaviour r.command = true :=
      Bool.eq_false_iff.1 hveto
    rw [if_neg hveto'] at hannounces
    exact ⟨[], inner, rfl, hended, hshows.within,
      lifetimes_inner hended rfl (silent_toldBefore _ _) (silent_toldEach _ _) hshows hannounces
        (.inl rfl),
      Dispatch.Shows.calls hshows⟩

/-! ### Runs -/

/-- The rosters of an instance and of its devices. -/
structure Rosters where
  host : Roster
  devices : List Roster

namespace Rosters

/-- The rosters after kinds were released from the instance or from a device. -/
def dismiss (device : Option Nat) (q : ObjectKind → Bool) (ρ : Rosters) : Rosters :=
  match device with
  | none => { ρ with host := ρ.host.dismiss q }
  | some k => { ρ with devices := ρ.devices.modify k (Roster.dismiss q) }

/-- The rosters after something has happened: a device brings its objects, and objects are
released. -/
def act (ρ : Rosters) : Action σ → Rosters
  | .createDevice _ _ _ objects => { ρ with devices := ρ.devices ++ [.new objects] }
  | .release device kind => ρ.dismiss device (fun k => k = kind)
  | .releaseAll device => ρ.dismiss device fun _ => true
  | _ => ρ

/-- The rosters of a system whose instance was given these objects, after all of this has
happened in turn. -/
def after (objects : List ValidationObject) (actions : List (Action σ)) : Rosters :=
  actions.foldl act ⟨.new objects, []⟩

end Rosters

/-- Whether what objects intercept stays as it is. -/
def Action.keepsIntercepts (intercepts : Nat → Command → Bool) (a : Action σ) : Prop :=
  ∀ b, a = .instruct b → b.intercepts = intercepts

namespace System

/-- Every registry holds the objects on its roster. -/
structure Enlists (settings : Settings) (intercepts : Nat → Command → Bool) (ρ : Rosters)
    (s : System σ) : Prop where
  own_eq : s.host.own = settings
  intercepts_eq : s.world.behaviour.intercepts = intercepts
  host : ρ.host.Fills settings intercepts s.host.registry
  length : ρ.devices.length = s.devices.length
  devices : ∀ (k : Nat) (roster : Roster) (device : Dispatch Tracked), ρ.devices[k]? = some roster →
    s.devices[k]? = some device → roster.Fills settings intercepts device.registry

namespace Enlists

variable {settings : Settings} {intercepts : Nat → Command → Bool} {ρ : Rosters} {s : System σ}

theorem dismiss (hs : s.Enlists settings intercepts ρ) (device : Option Nat)
    (q : ObjectKind → Bool) :
    (s.modifyRegistry device fun b reg => reg.releaseIf (fun o => q o.kind) b).Enlists settings
      intercepts (ρ.dismiss device q) := by
  cases device with
  | none =>
    exact ⟨hs.own_eq, hs.intercepts_eq, hs.host.dismiss hs.intercepts_eq q, hs.length, hs.devices⟩
  | some k =>
    refine ⟨hs.own_eq, hs.intercepts_eq, hs.host, ?_, fun j roster device hroster hdevice => ?_⟩
    · show (ρ.devices.modify k _).length = (s.devices.modify k _).length
      rw [List.length_modify, List.length_modify, hs.length]
    · have hroster' : (ρ.devices.modify k (Roster.dismiss q))[j]? = some roster := hroster
      have hdevice' : (s.devices.modify k fun d =>
          { d with registry := d.registry.releaseIf (fun o => q o.kind) s.world.behaviour })[j]?
            = some device := hdevice
      rw [List.getElem?_modify] at hroster' hdevice'
      obtain ⟨roster', hr, rfl⟩ := Option.map_eq_some_iff.1 hroster'
      obtain ⟨device', hd, rfl⟩ := Option.map_eq_some_iff.1 hdevice'
      have hfills := hs.devices j roster' device' hr hd
      by_cases hjk : k = j
      · rw [if_pos hjk, if_pos hjk]
        exact hfills.dismiss hs.intercepts_eq q
      · rw [if_neg hjk, if_neg hjk]
        exact hfills

variable [NextLayer σ]

theorem callInstance (hs : s.Enlists settings intercepts ρ) (r : InstanceRequest)
    (out : Outputs) : (s.act (.callInstance r out)).Enlists settings intercepts ρ := by
  obtain ⟨hobject, hbehaviour⟩ := Instance.object_perform r out ⟨s.host, s.world⟩
  have hhost : (s.act (.callInstance r out)).host = s.host := hobject
  refine ⟨?_, ?_, ?_, hs.length, hs.devices⟩
  · rw [hhost, hs.own_eq]
  · exact (congrArg Behaviour.intercepts hbehaviour).trans hs.intercepts_eq
  · rw [hhost]
    exact hs.host

theorem callDevice (hs : s.Enlists settings intercepts ρ) (k : Nat) (r : DeviceRequest)
    (out : Outputs) : (s.act (.callDevice k r out)).Enlists settings intercepts ρ := by
  cases hdevice : s.devices[k]? with
  | none =>
    rw [act_of_no_device hdevice]
    exact hs
  | some device =>
    obtain ⟨hregistry, hbehaviour⟩ := Device.registry_perform r out ⟨device, s.world⟩
    rw [act_of_device hdevice]
    refine ⟨hs.own_eq, (congrArg Behaviour.intercepts hbehaviour).trans hs.intercepts_eq, hs.host,
      ?_, fun j roster device' hroster hdevice' => ?_⟩
    · rw [List.length_set]
      exact hs.length
    · by_cases hjk : k = j
      · subst hjk
        have hk : k < s.devices.length := (List.getElem?_eq_some_iff.1 hdevice).1
        rw [List.getElem?_set_self hk] at hdevice'
        rw [← Option.some.inj hdevice', hregistry]
        exact hs.devices k roster device hroster hdevice
      · rw [List.getElem?_set_ne hjk] at hdevice'
        exact hs.devices j roster device' hroster hdevice'

theorem createDevice (hs : s.Enlists settings intercepts ρ) (physicalDevice device : Handle)
    (table : EntryTable) (objects : List ValidationObject) :
    (s.act (.createDevice physicalDevice device table objects)).Enlists settings intercepts
      { ρ with devices := ρ.devices ++ [.new objects] } := by
  obtain ⟨hregistry, hobject, hbehaviour⟩ :=
    Instance.registry_startDevice physicalDevice device table objects ⟨s.host, s.world⟩
  have hhost : (s.act (.createDevice physicalDevice device table objects)).host = s.host := hobject
  refine ⟨by rw [hhost, hs.own_eq],
    (congrArg Behaviour.intercepts hbehaviour).trans hs.intercepts_eq, by rw [hhost]; exact hs.host,
    ?_, fun j roster device' hroster hdevice' => ?_⟩
  · show (ρ.devices ++ _).length = (s.devices ++ [_]).length
    rw [List.length_append, List.length_append, hs.length]
    rfl
  · -- the new device and its roster come last in their lists
    let fresh := ((Instance.startDevice physicalDevice device table objects).run
      ⟨s.host, s.world⟩).1
    have hdevices : (s.devices ++ [fresh])[j]? = some device' := hdevice'
    rcases Nat.lt_or_ge j s.devices.length with hlt | hge
    · rw [List.getElem?_append_left hlt] at hdevices
      rw [List.getElem?_append_left (hs.length ▸ hlt)] at hroster
      exact hs.devices j roster device' hroster hdevices
    · rw [List.getElem?_append_right hge] at hdevices
      rw [List.getElem?_append_right (hs.length ▸ hge), hs.length] at hroster
      have hnew : device' = fresh := List.mem_singleton.1 (List.mem_of_getElem? hdevices)
      have hempty : roster = .new objects := List.mem_singleton.1 (List.mem_of_getElem? hroster)
      rw [hnew, hempty, hregistry, hs.own_eq]
      exact Roster.fills_new hs.intercepts_eq objects

/-- **Whatever happens, every registry holds the objects on its roster**, as long as what
objects intercept stays as it is. -/
theorem act (hs : s.Enlists settings intercepts ρ) {a : Action σ}
    (ha : a.keepsIntercepts intercepts) : (s.act a).Enlists settings intercepts (ρ.act a) := by
  cases a with
  | callInstance r out => exact hs.callInstance r out
  | callDevice k r out => exact hs.callDevice k r out
  | createDevice physicalDevice device table objects =>
    exact hs.createDevice physicalDevice device table objects
  | release device kind => exact hs.dismiss device _
  | releaseAll device => exact hs.dismiss device _
  | instruct b => exact ⟨hs.own_eq, ha b rfl, hs.host, hs.length, hs.devices⟩
  | moveBelow f => exact ⟨hs.own_eq, hs.intercepts_eq, hs.host, hs.length, hs.devices⟩

theorem run (hs : s.Enlists settings intercepts ρ) {actions : List (Action σ)}
    (hactions : ∀ a ∈ actions, a.keepsIntercepts intercepts) :
    (s.run actions).Enlists settings intercepts (actions.foldl Rosters.act ρ) := by
  induction actions generalizing s ρ with
  | nil => exact hs
  | cons a actions ih =>
    exact ih (hs.act (hactions a List.mem_cons_self)) fun b hb =>
      hactions b (List.mem_cons_of_mem _ hb)

end Enlists

theorem enlists_start [NextLayer σ] (instanceHandle : Handle) (requested : ApiVersion)
    (settings : Settings) (table : EntryTable) (behaviour : Behaviour)
    (objects : List ValidationObject) (below : σ) :
    (start instanceHandle requested settings table behaviour objects below).Enlists settings
      behaviour.intercepts ⟨.new objects, []⟩ :=
  ⟨rfl, rfl, Roster.fills_new rfl objects, rfl, fun k _ _ hroster => by cases hroster⟩

end System

/-- **The right validation objects are told of every call, in the right order.**  Take a system
whose objects do not change their minds about what they intercept, and anything that may happen
to it: calls, releases of kinds of objects and of all of them.

The chain of the instance and that of every device then consist of the objects that were given
to it at the beginning, in that order, as far as their kind is admitted by the settings and was
not released since; with the released objects they are those given and admitted, none of them
lost or repeated.  A call is brought before those that intercept its command: all are asked, even
if one of them wants to skip the call; if none does, all are told before the call, the call is
made, which asks the next layer once, and all are told of the result that it has.  In between every
object of the chain, whatever it intercepts, is told of each handle that the call brings or does
away with, one handle after the other. -/
theorem validation_objects_attend_calls [NextLayer σ] (instanceHandle : Handle)
    (requested : ApiVersion) (settings : Settings) (table : EntryTable) (behaviour : Behaviour)
    (objects : List ValidationObject) (below : σ) (actions : List (Action σ))
    (hfixed : ∀ a ∈ actions, a.keepsIntercepts behaviour.intercepts) :
    let s := (System.start instanceHandle requested settings table behaviour objects below).run
      actions
    let ρ := Rosters.after objects actions
    (ρ.host.Fills settings behaviour.intercepts s.host.registry ∧
      ∀ (r : InstanceRequest) (out : Outputs),
        Attended (ρ.host.current settings)
          (ρ.host.watchers settings behaviour.intercepts r.command) s.world.behaviour s.host
          r.command (r.asks out) [] r.departures out s.world
          (s.onInstance (Instance.perform r out)).1
          (s.onInstance (Instance.perform r out)).2.world) ∧
    ρ.devices.length = s.devices.length ∧
    ∀ (k : Nat) (roster : Roster) (device : Dispatch Tracked), ρ.devices[k]? = some roster →
      s.devices[k]? = some device →
      roster.Fills settings behaviour.intercepts device.registry ∧
      ∀ (r : DeviceRequest) (out : Outputs), ∃ o s',
        s.onDevice k (Device.perform r out) = some (o, s') ∧
        Attended (roster.current settings)
          (roster.watchers settings behaviour.intercepts r.command) s.world.behaviour device
          r.command true (Device.arrivals r ⟨device, s.world⟩ o)
          (r.departures device.own s.world.wrapper.enabled o.1) out s.world o s'.world := by
  intro s ρ
  have hs : s.Enlists settings behaviour.intercepts ρ :=
    (System.enlists_start instanceHandle requested settings table behaviour objects below).run
      hfixed
  -- handles are wrapped, or nothing is kept
  have hkinds : s.Sound ∨ s.Plain := by
    cases hwraps : settings.handleWrapping with
    | true => exact .inl ((System.sound_start instanceHandle requested hwraps table behaviour
        objects below).run actions)
    | false => exact .inr ((System.plain_start instanceHandle requested hwraps table behaviour
        objects below).run actions)
  refine ⟨⟨hs.host, fun r out => ?_⟩, hs.length, fun k roster device hroster hdevice => ?_⟩
  · have hcall := Instance.attended_perform r out ⟨s.host, s.world⟩
    rw [hs.host.objects, hs.host.intercepting] at hcall
    exact hcall
  · have hfills := hs.devices k roster device hroster hdevice
    refine ⟨hfills, fun r out => ?_⟩
    have hkept : s.world.wrapper.enabled = true ∨ Layer.Plain ⟨device, s.world⟩ :=
      hkinds.imp (fun hsound => hsound.world.wrapping)
        fun hplain => hplain.layer (List.mem_of_getElem? hdevice)
    have hcall := Device.attended_perform (s := ⟨device, s.world⟩) r out hkept
    rw [hfills.objects, hfills.intercepting] at hcall
    let u := (Device.perform r out).run ⟨device, s.world⟩
    refine ⟨u.1, { s with devices := s.devices.set k u.2.object, world := u.2.world }, ?_, hcall⟩
    unfold System.onDevice
    rw [hdevice]
    rfl

/-- Of four objects one is not admitted and one was released.  The creation of a fence is brought
before the other two, and both are told of the fence; the creation of a buffer is brought before
the one that intercepts it, which asks to skip it. -/
theorem attended_fence_and_buffer :
    let core : ValidationObject := ⟨0, .coreValidation⟩
    let tracker : ValidationObject := ⟨1, .objectTracker⟩
    let behaviour : Behaviour :=
      ⟨fun id c => id != 1 || c == .createFence, fun id c => id == 0 && c == .createBuffer⟩
    let actions : List (Action Scripted) :=
      [.createDevice 0xd000 0xe000 ⟨[.createFence]⟩
          [core, ⟨2, .bestPractices⟩, ⟨3, .threading⟩, tracker],
        .release (some 0) .threading,
        .moveBelow fun s => { s with script := { handles := some [some 7] } }]
    let s := (System.start 0xa000 0 .default .empty behaviour [] ({} : Scripted)).run actions
    (∀ a ∈ actions, a.keepsIntercepts behaviour.intercepts) ∧
      (∃ o s' aside inner, s.onDevice 0 (Device.perform (.create .fence) { slots := some [0] })
          = some (o, s') ∧
        s'.world.events = s.world.events ++ aside
          ++ ([.told core (.validate .createFence), .told tracker (.validate .createFence)]
            ++ [.told core (.before .createFence), .told tracker (.before .createFence)]) ++ inner
          ++ [.told core (.after .createFence .success),
            .told tracker (.after .createFence .success)] ∧
        inner.filterMap Event.lifetime?
          = [(core, .created .fence (idAt 0)), (tracker, .created .fence (idAt 0))]) ∧
      ∃ s' aside, s.onDevice 0 (Device.perform (.create (.buffer 8)) {})
          = some ((.validationFailed, {}), s') ∧
        s'.world.events = s.world.events ++ aside
          ++ [.told core (.validate .createBuffer)] := by
  intro core tracker behaviour actions s
  let ρ := Rosters.after [] actions
  let fence : Outcome := (.success, { slots := some [idAt 0] })
  have hfixed : ∀ a ∈ actions, a.keepsIntercepts behaviour.intercepts := by
    simp [actions, Action.keepsIntercepts]
  have hroster : ∃ roster device, ρ.devices[0]? = some roster ∧ s.devices[0]? = some device ∧
      roster.current .default = [core, tracker] ∧
      roster.watchers .default behaviour.intercepts .createFence = [core, tracker] ∧
      roster.watchers .default behaviour.intercepts .createBuffer = [core] ∧
      Device.arrivals (.create .fence) ⟨device, s.world⟩ fence = [(.fence, idAt 0)] :=
    ⟨_, _, rfl, rfl, by decide +kernel, by decide +kernel, by decide +kernel, by decide +kernel⟩
  have houtcome : (s.onDevice 0 (Device.perform (.create .fence) { slots := some [0] })).map
      Prod.fst = some fence := by decide +kernel
  have hfence : ([core, tracker].any fun v => s.world.behaviour.vetoes v.id .createFence)
      = false := by decide +kernel
  have hbuffer : ([core].any fun v => s.world.behaviour.vetoes v.id .createBuffer) = true := by
    decide +kernel
  obtain ⟨roster, device, hρ, hdevice, hcurrent, hwatch, hwatch', hborn⟩ := hroster
  obtain ⟨-, -, hcalls⟩ := validation_objects_attend_calls 0xa000 0 .default .empty behaviour []
    ({} : Scripted) actions hfixed
  obtain ⟨-, hcall⟩ := hcalls 0 roster device hρ hdevice
  rw [hcurrent] at hcall
  refine ⟨hfixed, ?_, ?_⟩
  · obtain ⟨o, s', hrun, hattended⟩ := hcall (.create .fence) { slots := some [0] }
    have hwatchers : roster.watchers .default behaviour.intercepts
        (DeviceRequest.create .fence).command = [core, tracker] := hwatch
    have ho : o = fence := by
      rw [hrun] at houtcome
      exact Option.some.inj houtcome
    rw [hwatchers, ho, hborn] at hattended
    obtain ⟨aside, inner, -, hevents, -, htold, -⟩ := hattended.made hfence
    exact ⟨o, s', aside, inner, hrun, hevents, htold⟩
  · obtain ⟨o, s', hrun, hattended⟩ := hcall (.create (.buffer 8)) {}
    have hwatchers : roster.watchers .default behaviour.intercepts
        (DeviceRequest.create (.buffer 8)).command = [core] := hwatch'
    rw [hwatchers] at hattended
    obtain ⟨ho, -, -, aside, -, hevents⟩ := hattended.skipped hbuffer
    rw [ho] at hrun
    exact ⟨s', aside, hrun, hevents⟩

end HandleLayer
