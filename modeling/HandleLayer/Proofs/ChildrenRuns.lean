import HandleLayer.Proofs.Children
import HandleLayer.Proofs.History

/-!
# Children along runs

The application gets each child from a call on its parent.  From then on the surrogate of
the child lives as long as the device lists the child under that parent, and under no other
one, unless the application has a child destroyed behind the back of its parent.

## Main definitions

* `Home`, `brought` — where a child belongs, and the children that an application has got.
* `Action.sparesChildren` — the rule that children go by calls on their parents only.
* `System.Homed` — each child is listed where it belongs, whatever the application does.
* `System.Reared` — the invariant.

## Main results

* `System.Homed.act`, `System.Homed.run` — children have one home each.
* `System.Reared.act`, `System.Reared.run` — the invariant holds whatever happens.
* `children_live_as_listed` — **children live exactly as long as they are listed.**
-/

namespace HandleLayer

variable {σ : Type}

/-! ### What an application has got -/

/-- Where a child belongs: to a parent of a device. -/
structure Home where
  device : Nat
  family : Family
  parent : Handle
  deriving DecidableEq

/-- The children that a call has handed to the application, with where they belong. -/
def Happening.brought (x : Happening) : List (Home × Handle) :=
  match x.request.rears? with
  | none => []
  | some (f, p) =>
    ((x.request.produced x.outcome).filter (· ≠ 0)).map fun h => (⟨x.device, f, p⟩, h)

/-- The children that calls have handed to the application. -/
def brought (H : List Happening) : List (Home × Handle) := H.flatMap Happening.brought

theorem Happening.mem_brought {x : Happening} {c : Home} {h : Handle} :
    (c, h) ∈ x.brought ↔ x.device = c.device ∧ x.request.rears? = some (c.family, c.parent) ∧
      h ∈ x.request.produced x.outcome ∧ h ≠ 0 := by
  unfold brought
  cases hrears : x.request.rears? with
  | none => simp
  | some q =>
    obtain ⟨f, p⟩ := q
    simp only [List.mem_map, List.mem_filter, Prod.mk.injEq, Option.some.injEq]
    constructor
    · rintro ⟨k, ⟨hk, hzero⟩, rfl, rfl⟩
      exact ⟨rfl, ⟨rfl, rfl⟩, hk, by simpa using hzero⟩
    · rintro ⟨hdevice, ⟨hfamily, hparent⟩, hh, hzero⟩
      exact ⟨h, ⟨hh, by simpa using hzero⟩, by rw [hdevice, hfamily, hparent], rfl⟩

theorem mem_brought_concat {H : List Happening} {x : Happening} {b : Home × Handle} :
    b ∈ brought (H ++ [x]) ↔ b ∈ brought H ∨ b ∈ x.brought := by
  simp [brought]

theorem ne_zero_of_brought {H : List Happening} {c : Home} {h : Handle}
    (hb : (c, h) ∈ brought H) : h ≠ 0 := by
  obtain ⟨x, -, hx⟩ := List.mem_flatMap.1 hb
  exact (Happening.mem_brought.1 hx).2.2.2

/-! ### The rule for applications -/

/-- The handles that an action names as the ones to go. -/
def Action.doomed : Action σ → List Handle
  | .callDevice _ r _ => r.named.map Prod.snd
  | .callInstance (.destroySurface surface) _ => [surface]
  | _ => []

/-- Whether an action frees sets that belong there. -/
def Action.frees (c : Home) : Action σ → Bool
  | .callDevice k (.freeSets pool _) _ => c == ⟨k, .sets, pool⟩
  | _ => false

/-- The rule that children do not go but by calls on their parents: no action names a child
as one to go, except that sets are freed from the pool to which they belong. -/
def Action.sparesChildren (H : List Happening) (a : Action σ) : Bool :=
  (brought H).all fun b => a.frees b.1 || !a.doomed.contains b.2

theorem Action.frees_of_doomed {H : List Happening} {a : Action σ}
    (ha : a.sparesChildren H = true) {c : Home} {h : Handle} (hb : (c, h) ∈ brought H)
    (hdoomed : h ∈ a.doomed) : a.frees c = true := by
  have hrule := List.all_eq_true.1 ha (c, h) hb
  simpa [hdoomed] using hrule

/-! ### The invariant -/

namespace System

/-- Whether a device lists a child where it belongs. -/
def Lists (s : System σ) (c : Home) (h : Handle) : Prop :=
  h ∈ (s.kept c.device).children c.family c.parent

instance (s : System σ) (c : Home) (h : Handle) : Decidable (s.Lists c h) :=
  inferInstanceAs (Decidable (h ∈ (s.kept c.device).children c.family c.parent))

/-- The children that an application has got were drawn, each belongs to one parent, and nothing
else is listed. -/
structure Homed (H : List Happening) (s : System σ) : Prop where
  drawn : ∀ c h, (c, h) ∈ brought H → s.world.wrapper.map.Drawn h
  home : ∀ c c' h, (c, h) ∈ brought H → (c', h) ∈ brought H → c = c'
  listed : ∀ c h, h ≠ 0 → s.Lists c h → (c, h) ∈ brought H

/-- Of the children that an application has got, exactly those live that are listed; each is
listed where it belongs, and all were drawn. -/
structure Reared (H : List Happening) (s : System σ) : Prop where
  drawn : ∀ c h, (c, h) ∈ brought H → s.world.wrapper.map.Drawn h
  home : ∀ c c' h, (c, h) ∈ brought H → (c', h) ∈ brought H → c = c'
  listed : ∀ c h, h ≠ 0 → s.Lists c h → (c, h) ∈ brought H ∧ s.world.Live h
  live : ∀ c h, (c, h) ∈ brought H → s.world.Live h → s.Lists c h

theorem Reared.homed {H : List Happening} {s : System σ} (hs : s.Reared H) : s.Homed H :=
  ⟨hs.drawn, hs.home, fun c h hzero hl => (hs.listed c h hzero hl).1⟩

theorem lists_congr {s s' : System σ} {c : Home}
    (hkept : (s'.kept c.device).children c.family c.parent
      = (s.kept c.device).children c.family c.parent) (h : Handle) :
    s'.Lists c h ↔ s.Lists c h := by
  unfold Lists
  rw [hkept]

/-- Nothing has been handed to the application, and nothing is listed that was not. -/
theorem Homed.keep {H H' : List Happening} {s s' : System σ} (hs : s.Homed H)
    (hbrought : brought H' = brought H)
    (hkept : ∀ c : Home, (s'.kept c.device).children c.family c.parent
      = (s.kept c.device).children c.family c.parent)
    (hdrawn : s.world.wrapper.map.drawn ≤ s'.world.wrapper.map.drawn) : s'.Homed H' := by
  refine ⟨fun c h hb => ?_, fun c c' h hb hb' => ?_, fun c h hzero hl => ?_⟩
  · rw [hbrought] at hb
    exact (hs.drawn c h hb).mono hdrawn
  · rw [hbrought] at hb hb'
    exact hs.home c c' h hb hb'
  · rw [hbrought]
    exact hs.listed c h hzero ((lists_congr (hkept c) h).1 hl)

namespace Reared

variable {H H' : List Happening} {s s' : System σ}

/-- Nothing has been handed to the application, and no child is touched. -/
theorem keep (hs : s.Reared H) (hbrought : brought H' = brought H)
    (hkept : ∀ c : Home, (s'.kept c.device).children c.family c.parent
      = (s.kept c.device).children c.family c.parent)
    {lost : List Handle} (hfares : s.world.Fares lost s'.world)
    (hspares : ∀ c h, (c, h) ∈ brought H → h ∉ lost)
    (hlimit : s'.world.wrapper.map.drawn ≤ drawLimit) : s'.Reared H' := by
  have hhomed : s'.Homed H' := hs.homed.keep hbrought hkept hfares.drawn_le
  refine ⟨hhomed.drawn, hhomed.home, fun c h hzero hl => ?_, fun c h hb hlive => ?_⟩
  · obtain ⟨hb, hlive⟩ := hs.listed c h hzero ((lists_congr (hkept c) h).1 hl)
    exact ⟨hhomed.listed c h hzero hl, hfares.kept h hlive (hspares c h hb)⟩
  · rw [hbrought] at hb
    -- a child that lives now has lived before, as it is no later draw
    rcases hfares.new h hlive with hold | ⟨n, hlow, hhigh, heq⟩
    · exact (lists_congr (hkept c) h).2 (hs.live c h hb hold)
    · exact absurd heq ((hs.drawn c h hb).ne_later hlow (by omega))

end Reared

/-! ### Calls on a parent -/

/-- From one state to the next, of the children that belong to `c₀` those `gone` go and those
`fresh` come, and so do their surrogates. -/
structure Tends (c₀ : Home) (gone fresh : List Handle) (s s' : System σ) : Prop where
  drawn_le : s.world.wrapper.map.drawn ≤ s'.world.wrapper.map.drawn
  live : ∀ h, h ≠ 0 → (s'.world.Live h ↔ (s.world.Live h ∧ h ∉ gone) ∨ h ∈ fresh)
  minted : ∀ h ∈ fresh, h ≠ 0 → ∃ n, s.world.wrapper.map.drawn ≤ n ∧
    n < s'.world.wrapper.map.drawn ∧ h = idAt n
  lists : ∀ h, s'.Lists c₀ h ↔ (s.Lists c₀ h ∧ h ∉ gone) ∨ h ∈ fresh
  others : ∀ c h, c ≠ c₀ → (s'.Lists c h ↔ s.Lists c h)

variable {H : List Happening} {s s' : System σ} {c₀ : Home} {gone fresh : List Handle}

namespace Homed

/-- What was handed out before is not minted again. -/
theorem notMem_fresh (hs : s.Homed H) (h : Tends c₀ gone fresh s s')
    (hlimit : s'.world.wrapper.map.drawn ≤ drawLimit) {c : Home} {k : Handle}
    (hb : (c, k) ∈ brought H) : k ∉ fresh := by
  intro hk
  obtain ⟨n, hlow, hhigh, heq⟩ := h.minted k hk (ne_zero_of_brought hb)
  exact (hs.drawn c k hb).ne_later hlow (by omega) heq

/-- What is handed out now was handed out by a call on the same parent before, or is new. -/
theorem brought_or_fresh (hs : s.Homed H) (h : Tends c₀ gone fresh s s') {x : Happening}
    (hnew : ∀ c k, (c, k) ∈ x.brought → c = c₀ ∧ s'.Lists c₀ k) {c : Home} {k : Handle}
    (hb : (c, k) ∈ x.brought) : (c, k) ∈ brought H ∨ k ∈ fresh := by
  obtain ⟨rfl, hl⟩ := hnew c k hb
  rcases (h.lists k).1 hl with ⟨hold, -⟩ | hk
  · exact .inl (hs.listed c k (Happening.mem_brought.1 hb).2.2.2 hold)
  · exact .inr hk

/-- Of the children of one parent some go and others are handed to the application. -/
theorem tend (hs : s.Homed H) (h : Tends c₀ gone fresh s s') {x : Happening}
    (hnew : ∀ c k, (c, k) ∈ x.brought → c = c₀ ∧ s'.Lists c₀ k)
    (hfresh : ∀ k ∈ fresh, k ≠ 0 → (c₀, k) ∈ x.brought)
    (hlimit : s'.world.wrapper.map.drawn ≤ drawLimit) : s'.Homed (H ++ [x]) := by
  refine ⟨fun c k hb => ?_, fun c c' k hb hb' => ?_, fun c k hzero hl => ?_⟩
  · have hcases : (c, k) ∈ brought H ∨ k ∈ fresh :=
      (mem_brought_concat.1 hb).elim .inl (hs.brought_or_fresh h hnew)
    rcases hcases with hold | hk
    · exact (hs.drawn c k hold).mono h.drawn_le
    · obtain ⟨n, -, hhigh, heq⟩ := h.minted k hk (ne_zero_of_brought hb)
      exact ⟨n, hhigh, heq⟩
  · rcases mem_brought_concat.1 hb with hb | hb
    · rcases mem_brought_concat.1 hb' with hb' | hb'
      · exact hs.home c c' k hb hb'
      · rcases hs.brought_or_fresh h hnew hb' with hold | hk
        · exact hs.home c c' k hb hold
        · exact absurd hk (hs.notMem_fresh h hlimit hb)
    · rcases mem_brought_concat.1 hb' with hb' | hb'
      · rcases hs.brought_or_fresh h hnew hb with hold | hk
        · exact hs.home c c' k hold hb'
        · exact absurd hk (hs.notMem_fresh h hlimit hb')
      · rw [(hnew c k hb).1, (hnew c' k hb').1]
  · by_cases hc : c = c₀
    · obtain rfl := hc
      rcases (h.lists k).1 hl with ⟨hold, -⟩ | hk
      · exact mem_brought_concat.2 (.inl (hs.listed c k hzero hold))
      · exact mem_brought_concat.2 (.inr (hfresh k hk hzero))
    · exact mem_brought_concat.2 (.inl (hs.listed c k hzero ((h.others c k hc).1 hl)))

end Homed

/-- Of the children of one parent some go and others are handed to the application, and so it is
with those that live. -/
theorem Reared.tend (hs : s.Reared H) (h : Tends c₀ gone fresh s s') {x : Happening}
    (hgone : ∀ c k, (c, k) ∈ brought H → k ∈ gone → c = c₀)
    (hnew : ∀ c k, (c, k) ∈ x.brought → c = c₀ ∧ s'.Lists c₀ k)
    (hfresh : ∀ k ∈ fresh, k ≠ 0 → (c₀, k) ∈ x.brought)
    (hlimit : s'.world.wrapper.map.drawn ≤ drawLimit) : s'.Reared (H ++ [x]) := by
  have hhomed : s'.Homed (H ++ [x]) := hs.homed.tend h hnew hfresh hlimit
  refine ⟨hhomed.drawn, hhomed.home, fun c k hzero hl => ⟨hhomed.listed c k hzero hl, ?_⟩,
    fun c k hb hk => ?_⟩
  · by_cases hc : c = c₀
    · obtain rfl := hc
      rcases (h.lists k).1 hl with ⟨hold, hstays⟩ | hk
      · exact (h.live k hzero).2 (.inl ⟨(hs.listed c k hzero hold).2, hstays⟩)
      · exact (h.live k hzero).2 (.inr hk)
    · obtain ⟨hb, hlive⟩ := hs.listed c k hzero ((h.others c k hc).1 hl)
      exact (h.live k hzero).2 (.inl ⟨hlive, fun hk => hc (hgone c k hb hk)⟩)
  · rcases mem_brought_concat.1 hb with hb | hb
    · have hzero := ne_zero_of_brought hb
      rcases (h.live k hzero).1 hk with ⟨hlive, hstays⟩ | hnow
      · have hl := hs.live c k hb hlive
        by_cases hc : c = c₀
        · obtain rfl := hc
          exact (h.lists k).2 (.inl ⟨hl, hstays⟩)
        · exact (h.others c k hc).2 hl
      · exact absurd hnow (hs.homed.notMem_fresh h hlimit hb)
    · obtain ⟨rfl, hl⟩ := hnew c k hb
      exact hl

end System

/-! ### What is no call on a parent -/

variable [NextLayer σ]

/-- A call to the instance removes no surrogates but that of a surface that it destroys. -/
theorem Instance.fares_perform (r : InstanceRequest) (out : Outputs) {s : Layer Settings σ}
    (hs : s.world.wrapper.enabled = true) :
    s.world.Fares (Action.doomed (σ := σ) (.callInstance r out))
      ((perform r out).run s).2.world := by
  by_cases hr : ∃ surface, r = .destroySurface surface
  · obtain ⟨surface, rfl⟩ := hr
    refine rel_intercept fun s' hs' => ?_
    rw [run_destroySurface]
    have hasked := quiet_ask s' (.ofInstance
      ((InstanceRequest.destroySurface surface).resolve s'.world.wrapper)) none
    refine Composable.trans (Composable.of_quiet hasked) (World.fares_erase ?_ ?_ _)
    · exact List.mem_cons_self
    · rw [hasked.1, hs', hs]
  · have hreports := reports_perform hs (fun surface heq => hr ⟨surface, heq⟩) out
    exact hreports.1.mono fun h hh => absurd hh List.not_mem_nil

namespace System

/-- Without a call on a parent no surrogates are removed but those of handles named as the
ones to go. -/
theorem fares_act {s : System σ} (hs : s.Sound) {a : Action σ}
    (ha : ∀ x, s.happening? a = some x → x.request.rears? = none) :
    s.world.Fares a.doomed (s.act a).world := by
  cases a with
  | callInstance r out =>
    exact Instance.fares_perform (s := ⟨s.host, s.world⟩) r out hs.world.wrapping
  | callDevice k r out =>
    cases hdevice : s.devices[k]? with
    | none =>
      rw [act_of_no_device hdevice]
      exact .refl _
    | some device =>
      rw [act_of_device hdevice]
      exact Device.fares_perform (ha _ (happening?_of_device hdevice r out)) out
        (hs.known device (List.mem_of_getElem? hdevice))
  | createDevice physicalDevice handle table objects =>
    exact Composable.of_quiet (Instance.run_startDevice physicalDevice handle table objects
      ⟨s.host, s.world⟩).2
  | release device kind | releaseAll device =>
    cases device with
    | none => exact .refl _
    | some k => exact .refl _
  | instruct behaviour => exact .refl _
  | moveBelow f => exact .refl _

/-- What rears children is a call on a parent. -/
theorem exists_of_rears {s : System σ} {a : Action σ}
    (ha : ¬ ∀ x, s.happening? a = some x → x.request.rears? = none) :
    ∃ k device r out f p, a = .callDevice k r out ∧ s.devices[k]? = some device ∧
      r.rears? = some (f, p) := by
  obtain ⟨x, hx⟩ := Classical.not_forall.1 ha
  obtain ⟨hx, hrears⟩ := Classical.not_imp.1 hx
  obtain ⟨⟨f, p⟩, hr⟩ := Option.ne_none_iff_exists'.1 hrears
  obtain ⟨device, out, rfl, hdevice, -⟩ := exists_of_happening? hx
  exact ⟨x.device, device, x.request, out, f, p, rfl, hdevice, hr⟩

/-- The children that belong there are touched by calls on their parent only. -/
theorem children_act {s : System σ} {a : Action σ} {c : Home}
    (ha : ∀ x, s.happening? a = some x → x.device = c.device →
      x.request.rears? ≠ some (c.family, c.parent)) :
    ((s.act a).kept c.device).children c.family c.parent
      = (s.kept c.device).children c.family c.parent := by
  by_cases hcall : ∃ r out, a = .callDevice c.device r out
  · obtain ⟨r, out, rfl⟩ := hcall
    cases hdevice : s.devices[c.device]? with
    | none => rw [act_of_no_device hdevice]
    | some device =>
      rw [kept_of_call hdevice, kept_of_device hdevice]
      exact Device.children_perform (ha _ (happening?_of_device hdevice r out) rfl) out
        ⟨device, s.world⟩
  · rw [kept_act fun r out heq => hcall ⟨r, out, heq⟩]

variable {H : List Happening} {s : System σ}

omit [NextLayer σ] in
/-- A call that frees sets is a call on the pool to which they belong. -/
theorem rears_of_frees {a : Action σ} {c : Home} (h : a.frees c = true) :
    ∃ r out, a = .callDevice c.device r out ∧ r.rears? = some (c.family, c.parent) := by
  cases a with
  | callDevice k r out =>
    cases r with
    | freeSets pool sets =>
      obtain rfl : c = ⟨k, .sets, pool⟩ := beq_iff_eq.1 h
      exact ⟨_, out, rfl, rfl⟩
    | _ => cases h
  | _ => cases h

/-- Without a call on a parent, no child is handed to the application. -/
theorem brought_of_rears_none {a : Action σ}
    (ha : ∀ x, s.happening? a = some x → x.request.rears? = none) :
    brought (H ++ (s.happening? a).toList) = brought H := by
  cases hx : s.happening? a with
  | none => simp
  | some x =>
    have hnone : x.brought = [] := by
      unfold Happening.brought
      rw [ha x hx]
    simp [brought, hnone]

/-- Without a call on a parent, every parent lists what it listed. -/
theorem children_of_rears_none {a : Action σ}
    (ha : ∀ x, s.happening? a = some x → x.request.rears? = none) (c : Home) :
    ((s.act a).kept c.device).children c.family c.parent
      = (s.kept c.device).children c.family c.parent :=
  children_act fun x hx _ hcalls => by rw [ha x hx] at hcalls; cases hcalls

/-- Everything but a call on a parent. -/
theorem Reared.act_of_rears_none (hs : s.Reared H) (hsound : s.Sound) {a : Action σ}
    (ha : ∀ x, s.happening? a = some x → x.request.rears? = none)
    (hspares : a.sparesChildren H = true)
    (hlimit : (s.act a).world.wrapper.map.drawn ≤ drawLimit) :
    (s.act a).Reared (H ++ (s.happening? a).toList) := by
  by_cases hidle : s.act a = s ∧ s.happening? a = none
  · rw [hidle.1, hidle.2, Option.toList_none, List.append_nil]
    exact hs
  refine hs.keep ?_ (fun c => ?_) (fares_act hsound ha) (fun c h hb hdoomed => ?_) hlimit
  · exact brought_of_rears_none ha
  · exact children_of_rears_none ha c
  · -- only a call on a parent may name a child
    obtain ⟨r, out, rfl, hr⟩ := rears_of_frees (Action.frees_of_doomed hspares hb hdoomed)
    cases hdevice : s.devices[c.device]? with
    | none =>
      exact hidle ⟨act_of_no_device hdevice r out, happening?_of_no_device hdevice r out⟩
    | some device =>
      have hnone : r.rears? = none := ha _ (happening?_of_device hdevice r out)
      rw [hnone] at hr
      cases hr

omit [NextLayer σ] in
/-- A call on a parent is about one home only. -/
theorem home_eq {r : DeviceRequest} {k : Nat} {f : Family} {p : Handle} {c : Home}
    (hr : r.rears? = some (f, p)) (hat : k = c.device)
    (hcalls : r.rears? = some (c.family, c.parent)) : c = ⟨k, f, p⟩ := by
  obtain ⟨k', f', p'⟩ := c
  obtain ⟨rfl, rfl⟩ := Prod.mk.inj (Option.some.inj (hcalls.symm.trans hr))
  obtain rfl := hat
  rfl

/-- What a call does to the children of a parent is what happens to them in the system. -/
theorem tends_act {k : Nat} {device : Dispatch Tracked} (hdevice : s.devices[k]? = some device)
    {r : DeviceRequest} {f : Family} {p : Handle} (hr : r.rears? = some (f, p)) {out : Outputs}
    {gone fresh : List Handle}
    (h : HandleLayer.Tends f p gone fresh ⟨device, s.world⟩
      ((Device.perform r out).run ⟨device, s.world⟩).2) :
    Tends ⟨k, f, p⟩ gone fresh s (s.act (.callDevice k r out)) := by
  have hworld : (s.act (.callDevice k r out)).world
      = ((Device.perform r out).run ⟨device, s.world⟩).2.world := by
    rw [act_of_device hdevice]
  refine ⟨?drawn_le, fun c hzero => ?live, ?minted, fun c => ?lists, fun c c' hc => ?others⟩
  case drawn_le =>
    rw [hworld]
    exact h.drawn_le
  case live =>
    rw [hworld]
    exact h.live c hzero
  case minted =>
    rw [hworld]
    exact h.minted
  case lists =>
    unfold Lists
    rw [kept_of_call hdevice, kept_of_device hdevice]
    exact h.children c
  case others =>
    unfold Lists
    rw [children_act fun x hx hat hcalls => hc ?_]
    rw [happening?_of_device hdevice] at hx
    obtain rfl := Option.some.inj hx
    exact home_eq hr hat hcalls

/-- A call on a parent, with what the application gets from it. -/
theorem exists_tended_act (hsound : s.Sound) {k : Nat} {device : Dispatch Tracked}
    (hdevice : s.devices[k]? = some device) {r : DeviceRequest} {f : Family} {p : Handle}
    (hr : r.rears? = some (f, p)) (out : Outputs) :
    let x : Happening := ⟨k, r, ((Device.perform r out).run ⟨device, s.world⟩).1⟩
    ∃ gone fresh, Tends ⟨k, f, p⟩ gone fresh s (s.act (.callDevice k r out)) ∧
      (∀ j ∈ gone, s.Lists ⟨k, f, p⟩ j ∨ j ∈ r.named.map Prod.snd) ∧
      (∀ c j, (c, j) ∈ x.brought →
        c = ⟨k, f, p⟩ ∧ (s.act (.callDevice k r out)).Lists ⟨k, f, p⟩ j) ∧
      ∀ j ∈ fresh, j ≠ 0 → (⟨k, f, p⟩, j) ∈ x.brought := by
  obtain ⟨gone, fresh, h⟩ := Device.exists_tended_perform (s := ⟨device, s.world⟩) hr out
    hsound.world.wrapping
  refine ⟨gone, fresh, tends_act hdevice hr h.toTends, fun j hj => ?_, fun c j hb => ?_,
    fun j hj hzero => ?_⟩
  · unfold Lists
    rw [kept_of_device hdevice]
    exact h.gone_mem j hj
  · obtain ⟨hat, hcalls, hproduced, hzero⟩ := Happening.mem_brought.1 hb
    refine ⟨home_eq hr hat hcalls, ?_⟩
    unfold Lists
    rw [kept_of_call hdevice]
    exact h.handed j hproduced hzero
  · exact Happening.mem_brought.2 ⟨rfl, hr, h.fresh_mem j hj hzero, hzero⟩

/-- A call on a parent. -/
theorem Reared.act_of_rears (hs : s.Reared H) (hsound : s.Sound) {k : Nat}
    {device : Dispatch Tracked} (hdevice : s.devices[k]? = some device) {r : DeviceRequest}
    {f : Family} {p : Handle} (hr : r.rears? = some (f, p)) (out : Outputs)
    (hspares : Action.sparesChildren (σ := σ) H (.callDevice k r out) = true)
    (hlimit : (s.act (.callDevice k r out)).world.wrapper.map.drawn ≤ drawLimit) :
    (s.act (.callDevice k r out)).Reared
      (H ++ (s.happening? (.callDevice k r out)).toList) := by
  obtain ⟨gone, fresh, htends, hgone, hnew, hfresh⟩ := exists_tended_act hsound hdevice hr out
  rw [happening?_of_device hdevice]
  refine hs.tend htends (fun c j hb hj => ?_) hnew hfresh hlimit
  rcases hgone j hj with hl | hnamed
  · exact hs.home c _ j hb (hs.listed _ j (ne_zero_of_brought hb) hl).1
  · obtain ⟨r', out', hcall, hcalls⟩ :=
      rears_of_frees (Action.frees_of_doomed hspares hb hnamed)
    cases hcall
    exact home_eq hr rfl hcalls

/-- **Whatever happens keeps the invariant**, if children are spared. -/
theorem Reared.act (hs : s.Reared H) (hsound : s.Sound) {a : Action σ}
    (hspares : a.sparesChildren H = true)
    (hlimit : (s.act a).world.wrapper.map.drawn ≤ drawLimit) :
    (s.act a).Reared (H ++ (s.happening? a).toList) := by
  by_cases ha : ∀ x, s.happening? a = some x → x.request.rears? = none
  · exact hs.act_of_rears_none hsound ha hspares hlimit
  · obtain ⟨k, device, r, out, f, p, rfl, hdevice, hr⟩ := exists_of_rears ha
    exact hs.act_of_rears hsound hdevice hr out hspares hlimit

/-- The counter never goes back. -/
theorem drawn_le_act {s : System σ} (hs : s.Sound) (a : Action σ) :
    s.world.wrapper.map.drawn ≤ (s.act a).world.wrapper.map.drawn := by
  by_cases ha : ∃ k r out, a = .callDevice k r out
  · obtain ⟨k, r, out, rfl⟩ := ha
    exact (turn_callDevice hs k r out).drawn_le
  · refine (fares_act hs fun x hx => ?_).drawn_le
    obtain ⟨device, out, rfl, -⟩ := exists_of_happening? hx
    exact absurd ⟨_, _, _, rfl⟩ ha

theorem drawn_le_run {s : System σ} (hs : s.Sound) (actions : List (Action σ)) :
    s.world.wrapper.map.drawn ≤ (s.run actions).world.wrapper.map.drawn := by
  induction actions generalizing s with
  | nil => exact Nat.le_refl _
  | cons a actions ih => exact Nat.le_trans (drawn_le_act hs a) (ih (hs.act a))

/-- **Children have one home each**, whatever happens. -/
theorem Homed.act (hs : s.Homed H) (hsound : s.Sound) {a : Action σ}
    (hlimit : (s.act a).world.wrapper.map.drawn ≤ drawLimit) :
    (s.act a).Homed (H ++ (s.happening? a).toList) := by
  by_cases ha : ∀ x, s.happening? a = some x → x.request.rears? = none
  · exact hs.keep (brought_of_rears_none ha) (children_of_rears_none ha) (drawn_le_act hsound a)
  · obtain ⟨k, device, r, out, f, p, rfl, hdevice, hr⟩ := exists_of_rears ha
    obtain ⟨gone, fresh, htends, -, hnew, hfresh⟩ := exists_tended_act hsound hdevice hr out
    rw [happening?_of_device hdevice]
    exact hs.tend htends hnew hfresh hlimit

theorem Homed.run (hs : s.Homed H) (hsound : s.Sound) {actions : List (Action σ)}
    (hlimit : (s.run actions).world.wrapper.map.drawn ≤ drawLimit) :
    (s.run actions).Homed (H ++ s.history actions) := by
  induction actions generalizing s H with
  | nil =>
    rw [history, List.append_nil]
    exact hs
  | cons a actions ih =>
    have hnext := hsound.act a
    have hone := hs.act hsound (Nat.le_trans (drawn_le_run hnext actions) hlimit)
    rw [history, ← List.append_assoc]
    exact ih hone hnext hlimit

theorem Reared.run (hs : s.Reared H) (hsound : s.Sound) {actions : List (Action σ)}
    (hspares : s.abides Action.sparesChildren H actions = true)
    (hlimit : (s.run actions).world.wrapper.map.drawn ≤ drawLimit) :
    (s.run actions).Reared (H ++ s.history actions) := by
  induction actions generalizing s H with
  | nil =>
    rw [history, List.append_nil]
    exact hs
  | cons a actions ih =>
    obtain ⟨hfirst, hrest⟩ := abides_cons.1 hspares
    have hnext := hsound.act a
    have hone := hs.act hsound hfirst (Nat.le_trans (drawn_le_run hnext actions) hlimit)
    rw [history, ← List.append_assoc]
    exact ih hone hnext hrest hlimit

omit [NextLayer σ] in
/-- In the beginning there are no children. -/
theorem reared_start (instanceHandle : Handle) (requested : ApiVersion) (settings : Settings)
    (table : EntryTable) (behaviour : Behaviour) (objects : List ValidationObject) (below : σ) :
    (start instanceHandle requested settings table behaviour objects below).Reared [] := by
  have hnone : ∀ b : Home × Handle, b ∉ brought [] := fun b => List.not_mem_nil
  have hempty : ∀ c h, ¬ (start instanceHandle requested settings table behaviour objects
      below).Lists c h := by
    rintro ⟨k, f, p⟩ h hl
    cases f with
    | sets => exact Std.ExtTreeSet.not_mem_empty (Tracked.mem_children_sets.1 hl)
    | images => exact List.not_mem_nil hl
  exact ⟨fun c h hb => absurd hb (hnone _), fun c c' h hb => absurd hb (hnone _),
    fun c h _ hl => absurd hl (hempty c h), fun c h hb => absurd hb (hnone _)⟩

end System

/-! ### Children and their parents -/

/-- **Children live exactly as long as they are listed.**  Take a system that wraps handles
and anything that may happen to it, as long as no child is named as one to go except for sets
that are freed from their pool, and fewer ids are drawn than there are.

A child that the application has got lives if and only if exactly one parent lists it, which
can only be the one it came from; and nothing else is listed.  A call that does away with
the children of a parent, be it a pool that is destroyed or reset or a swapchain that is
destroyed, removes exactly the surrogates listed there and the one that it names, unless it is
skipped. -/
theorem children_live_as_listed (instanceHandle : Handle) (requested : ApiVersion)
    (settings : Settings) (hwrapping : settings.handleWrapping = true) (table : EntryTable)
    (behaviour : Behaviour) (objects : List ValidationObject) (below : σ)
    (actions : List (Action σ)) :
    let start := System.start instanceHandle requested settings table behaviour objects below
    let s := start.run actions
    start.abides Action.sparesChildren [] actions = true →
    s.world.wrapper.map.drawn < drawLimit →
    (∀ c h, (c, h) ∈ brought (start.history actions) →
      (s.world.Live h ↔ ∃ c', s.Lists c' h ∧ ∀ c'', s.Lists c'' h → c'' = c') ∧
        ∀ c', s.Lists c' h → c' = c) ∧
    (∀ c h, h ≠ 0 → s.Lists c h → (c, h) ∈ brought (start.history actions)) ∧
    ∀ (c : Home) (device : Dispatch Tracked) (r : DeviceRequest) (out : Outputs),
      s.devices[c.device]? = some device →
      device.registry.chain.vetoes s.world.behaviour r.command = false →
      r.rears? = some (c.family, c.parent) →
      r.clears ((Device.perform r out).run ⟨device, s.world⟩).1.1 = true →
      ∀ h, (s.act (.callDevice c.device r out)).world.wrapper.map.unwrap h
        = if h ≠ 0 ∧ (s.Lists c h ∨ h ∈ r.named.map Prod.snd) then none
          else s.world.wrapper.map.unwrap h := by
  intro start s hspares hlimit
  have hstart : start.Sound :=
    System.sound_start instanceHandle requested hwrapping table behaviour objects below
  have hreared : s.Reared (start.history actions) :=
    (System.reared_start instanceHandle requested settings table behaviour objects below).run
      hstart hspares (Nat.le_of_lt hlimit)
  refine ⟨fun c h hb => ?_, fun c h hzero hl => (hreared.listed c h hzero hl).1,
    fun c device r out hdevice hveto hr hclears h => ?_⟩
  · have honly : ∀ c', s.Lists c' h → c' = c := fun c' hl =>
      hreared.home c' c h (hreared.listed c' h (ne_zero_of_brought hb) hl).1 hb
    refine ⟨⟨fun hlive => ⟨c, hreared.live c h hb hlive, honly⟩, ?_⟩, honly⟩
    rintro ⟨c', hl, -⟩
    exact (hreared.listed c' h (ne_zero_of_brought hb) hl).2
  · have hunwrap := Device.unwrap_perform_of_clears (s := ⟨device, s.world⟩) hr
      (hstart.run actions).world.wrapping hveto hclears h
    have hlists : s.Lists c h ↔ h ∈ device.own.children c.family c.parent := by
      unfold System.Lists
      rw [System.kept_of_device hdevice]
    rw [System.act_of_device hdevice]
    simp only [hlists]
    exact hunwrap

/-- Of three sets one is freed; a second pool is not touched when the first one is reset. -/
theorem sets_of_two_pools :
    let actions : List (Action Scripted) :=
      [.createDevice 0xd000 0xe000 ⟨[.createDescriptorPool, .allocateDescriptorSets,
          .freeDescriptorSets, .resetDescriptorPool]⟩ [],
        .callDevice 0 (.create .descriptorPool) { slots := some [0] },
        .callDevice 0 (.create .descriptorPool) { slots := some [0] },
        .callDevice 0 (.allocateSets (idAt 0) (.elems [0, 0])) { slots := some [0, 0] },
        .callDevice 0 (.allocateSets (idAt 1) (.elems [0])) { slots := some [0] },
        .callDevice 0 (.freeSets (idAt 0) (.elems [idAt 2])) {}]
    let start := System.start 0xa000 0 .default .empty default [] ({} : Scripted)
    let s := start.run actions
    let s' := s.act (.callDevice 0 (.resetDescriptorPool (idAt 0) 0) {})
    (Settings.default.handleWrapping = true ∧
        start.abides Action.sparesChildren [] actions = true ∧
        s.world.wrapper.map.drawn < drawLimit) ∧
      brought (start.history actions) = [(⟨0, .sets, idAt 0⟩, idAt 2),
        (⟨0, .sets, idAt 0⟩, idAt 3), (⟨0, .sets, idAt 1⟩, idAt 4)] ∧
      (¬ s.world.Live (idAt 2) ∧ s.world.Live (idAt 3) ∧ s.world.Live (idAt 4)) ∧
      ¬ s'.world.Live (idAt 3) ∧ s'.world.Live (idAt 4) := by
  intro actions start s s'
  let one : Home := ⟨0, .sets, idAt 0⟩
  let two : Home := ⟨0, .sets, idAt 1⟩
  have hwrapping : Settings.default.handleWrapping = true := by decide +kernel
  have hspares : start.abides Action.sparesChildren [] actions = true := by decide +kernel
  have hlimit : s.world.wrapper.map.drawn < drawLimit := by decide +kernel
  have hbrought : brought (start.history actions)
      = [(one, idAt 2), (one, idAt 3), (two, idAt 4)] := by decide +kernel
  have hlists : ¬ s.Lists one (idAt 2) ∧ s.Lists one (idAt 3) ∧ s.Lists two (idAt 4) := by
    decide +kernel
  have hapart : idAt 3 ≠ 0 ∧ ¬ s.Lists one (idAt 4) := by decide +kernel
  have hcall : (s.devices[0]?).map (fun d =>
      (d.registry.chain.vetoes s.world.behaviour .resetDescriptorPool,
        ((Device.perform (.resetDescriptorPool (idAt 0) 0) {}).run ⟨d, s.world⟩).1.1))
      = some (false, .success) := by decide +kernel
  -- the run is not looked into any more
  clear_value actions
  obtain ⟨hlive, -, hclears⟩ := children_live_as_listed 0xa000 0 .default hwrapping .empty
    default [] ({} : Scripted) actions hspares hlimit
  have hmem : (one, idAt 2) ∈ brought (start.history actions) ∧
      (one, idAt 3) ∈ brought (start.history actions) ∧
      (two, idAt 4) ∈ brought (start.history actions) := by
    rw [hbrought]
    simp
  have hfreed : ¬ s.world.Live (idAt 2) := by
    intro h
    obtain ⟨c, hl, -⟩ := (hlive one (idAt 2) hmem.1).1.1 h
    obtain rfl := (hlive one (idAt 2) hmem.1).2 c hl
    exact hlists.1 hl
  have hthird : s.world.Live (idAt 3) :=
    (hlive one (idAt 3) hmem.2.1).1.2 ⟨one, hlists.2.1, (hlive one (idAt 3) hmem.2.1).2⟩
  have hfourth : s.world.Live (idAt 4) :=
    (hlive two (idAt 4) hmem.2.2).1.2 ⟨two, hlists.2.2, (hlive two (idAt 4) hmem.2.2).2⟩
  obtain ⟨device, hdevice, hcall⟩ := Option.map_eq_some_iff.1 hcall
  have hreset := hclears one device (.resetDescriptorPool (idAt 0) 0) {} hdevice
    (Prod.mk.inj hcall).1 rfl (beq_iff_eq.2 (Prod.mk.inj hcall).2)
  refine ⟨⟨hwrapping, hspares, hlimit⟩, hbrought, ⟨hfreed, hthird, hfourth⟩, ?_, ?_⟩
  · have hgone := hreset (idAt 3)
    rw [if_pos ⟨hapart.1, .inl hlists.2.1⟩] at hgone
    intro h
    unfold World.Live at h
    rw [hgone] at h
    cases h
  · have hstays := hreset (idAt 4)
    rw [if_neg fun h => h.2.elim hapart.2 List.not_mem_nil] at hstays
    unfold World.Live
    rw [hstays]
    exact hfourth

/-- An image of a swapchain that the application destroys itself is gone, and yet the
swapchain, and no other parent, goes on listing it. -/
theorem destroyed_image_stays_listed :
    let actions : List (Action Scripted) :=
      [.createDevice 0xd000 0xe000
          ⟨[.createSwapchainKhr, .getSwapchainImagesKhr, .destroyImage]⟩ [],
        .callDevice 0 (.create (.swapchain 0 0)) { slots := some [0] },
        .moveBelow fun s => { s with script := { handles := some [some 7] } },
        .callDevice 0 (.getSwapchainImages (idAt 0)) { slots := some [0], count := 1 }]
    let start := System.start 0xa000 0 .default .empty default [] ({} : Scripted)
    let s := (start.run actions).act (.callDevice 0 (.destroy .image (idAt 1)) {})
    brought (start.history actions) = [(⟨0, .images, idAt 0⟩, idAt 1)] ∧
      ¬ s.world.Live (idAt 1) ∧
      ∃ c, s.Lists c (idAt 1) ∧ ∀ c', s.Lists c' (idAt 1) → c' = c := by
  intro actions start s
  let home : Home := ⟨0, .images, idAt 0⟩
  have hwrapping : Settings.default.handleWrapping = true := by decide +kernel
  have hspares : start.abides Action.sparesChildren [] actions = true := by decide +kernel
  have hlimit : (start.run actions).world.wrapper.map.drawn ≤ drawLimit := by decide +kernel
  have hbrought : brought (start.history actions) = [(home, idAt 1)] := by decide +kernel
  have hgone : ¬ ((s.world.wrapper.map.unwrap (idAt 1)).isSome = true) := by decide +kernel
  have hlisted : s.Lists home (idAt 1) := by decide +kernel
  refine ⟨hbrought, hgone, home, hlisted, fun c hc => ?_⟩
  clear_value actions
  -- the call is about no parent, so every parent lists what it listed before
  have hsame : (s.kept c.device).children c.family c.parent
      = ((start.run actions).kept c.device).children c.family c.parent :=
    System.children_act fun x hx _ hcalls => by
      obtain ⟨device, out, heq, -⟩ := System.exists_of_happening? hx
      have hr : DeviceRequest.destroy .image (idAt 1) = x.request := by
        injection heq
      rw [← hr] at hcalls
      cases hcalls
  have hstart : start.Sound := System.sound_start 0xa000 0 hwrapping .empty default [] _
  have hreared := (System.reared_start 0xa000 0 .default .empty default []
    ({} : Scripted)).run hstart hspares hlimit
  have hold : (start.run actions).Lists c (idAt 1) := by
    unfold System.Lists at hc ⊢
    rwa [hsame] at hc
  have hfrom := (hreared.listed c (idAt 1) (ne_zero_of_brought (hbrought ▸ List.mem_cons_self))
    hold).1
  rw [List.nil_append] at hfrom
  have hone : (c, idAt 1) ∈ [(home, idAt 1)] := hbrought ▸ hfrom
  exact (Prod.mk.inj (List.mem_singleton.1 hone)).1

end HandleLayer
