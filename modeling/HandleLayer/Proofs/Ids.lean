import Mathlib.Algebra.Group.Nat.Defs
import Mathlib.Data.List.Forall2
import HandleLayer.Wrapper

/-!
# Ids in the order in which they are drawn

Every surrogate is the id of some counter value, and the counter values are drawn one
after the other.  As long as the counter has not come round, the number of a draw and its
id determine each other; everything about the freshness of surrogates rests on that.

## Main definitions

* `idAt` — the id of a draw, by its number.
* `SurrogateMap.Drawn` — the ids drawn for a map so far.
* `Wrapper.Mints` — surrogates that are new, one for each of the handles.
* `Wrapper.Fares` — surrogates that live, before and after something.

## Main results

* `idAt_injective` — ids determine their draws before the counter comes round.
* `SurrogateMap.exists_mint_eq` — what minting does, and that three draws suffice.
* `SurrogateMap.exists_wrap_eq`, `Wrapper.exists_wrapNew_eq`,
  `Wrapper.exists_wrapNewMany` — what wrapping does.
* `Wrapper.mints_wrapNewMany` — handles other than null all get new surrogates.
* `Wrapper.unwrap_eraseMany` — what removing does.
-/

namespace HandleLayer

/-- The number of draws after which the counter comes round. -/
def drawLimit : Nat := 2 ^ 64 - 1

/-- The id that belongs to a draw; the first draw has the number zero. -/
def idAt (n : Nat) : Handle := spread (n + 1).toUInt64

/-- **Before the counter comes round, ids determine their draws.** -/
theorem idAt_injective {a b : Nat} (ha : a < drawLimit) (hb : b < drawLimit)
    (h : idAt a = idAt b) : a = b := by
  have hs : (a + 1).toUInt64 = (b + 1).toUInt64 := spread_injective h
  have hn := congrArg UInt64.toNat hs
  simp only [Nat.toUInt64_eq, UInt64.toNat_ofNat'] at hn
  unfold drawLimit at ha hb
  omega

/-- The ids of different draws are different. -/
theorem nodup_map_idAt {ns : List Nat} (hnodup : ns.Nodup)
    (hlt : ∀ n ∈ ns, n < drawLimit) : (ns.map idAt).Nodup := by
  rw [List.Nodup, List.pairwise_map]
  refine hnodup.imp_of_mem fun {a b} ha hb hab heq => ?_
  exact hab (idAt_injective (hlt a ha) (hlt b hb) heq)

/-- What is found by trying the counter values that follow the first `n` draws. -/
theorem exists_of_drawId {real id : Handle} {draws n k : Nat}
    (h : drawId real draws (n + 1).toUInt64 = some (id, k)) :
    ∃ j < draws, k = j + 1 ∧ id = idAt (n + j) ∧ id ≠ 0 ∧ id ≠ real := by
  induction draws generalizing n k with
  | zero => simp [drawId] at h
  | succ draws ih =>
    rw [drawId] at h
    split at h
    · next hok =>
      obtain ⟨rfl, rfl⟩ := Prod.mk.inj (Option.some.inj h)
      exact ⟨0, by omega, rfl, rfl, hok⟩
    · obtain ⟨⟨id', k'⟩, hrest, heq⟩ := Option.map_eq_some_iff.1 h
      obtain ⟨rfl, rfl⟩ := Prod.mk.inj heq
      have hnext : (n + 1).toUInt64 + 1 = (n + 1 + 1).toUInt64 := by
        simp [Nat.toUInt64_eq]
      rw [hnext] at hrest
      obtain ⟨j, hj, rfl, rfl, hok⟩ := ih hrest
      exact ⟨j + 1, by omega, rfl, by rw [Nat.add_right_comm, Nat.add_assoc], hok⟩

namespace SurrogateMap

/-- Whether an id was drawn for the map already, be it live, removed or skipped. -/
def Drawn (m : SurrogateMap) (h : Handle) : Prop := ∃ n < m.drawn, h = idAt n

/-- Ids stay drawn. -/
theorem Drawn.mono {m m' : SurrogateMap} {h : Handle} (hh : m.Drawn h)
    (hle : m.drawn ≤ m'.drawn) : m'.Drawn h := by
  obtain ⟨n, hn, rfl⟩ := hh
  exact ⟨n, Nat.lt_of_lt_of_le hn hle, rfl⟩

/-- The id of a later draw is none of those drawn before. -/
theorem Drawn.ne_later {m : SurrogateMap} {h : Handle} (hh : m.Drawn h) {n : Nat}
    (hn : m.drawn ≤ n) (hlimit : n < drawLimit) : h ≠ idAt n := by
  rintro rfl
  obtain ⟨k, hk, heq⟩ := hh
  have hsame := idAt_injective hlimit (by omega) heq
  omega

/-- Minting draws at most three ids and takes the last of them. -/
theorem exists_mint_eq (m : SurrogateMap) (real : Handle) :
    ∃ k < 3, m.mint real = (idAt (m.drawn + k), { m with drawn := m.drawn + k + 1 }) ∧
      idAt (m.drawn + k) ≠ 0 ∧ idAt (m.drawn + k) ≠ real := by
  obtain ⟨⟨id, draws⟩, hfound⟩ := Option.isSome_iff_exists.1 (isSome_drawId real m.counter)
  obtain ⟨k, hk, rfl, rfl, hok⟩ := exists_of_drawId hfound
  refine ⟨k, hk, ?_, hok⟩
  simp only [mint, hfound, Option.get_some]
  rfl

/-- The map after the id of the draw `n` came to stand for `real`. -/
def enter (n : Nat) (real : Handle) (m : SurrogateMap) : SurrogateMap :=
  { m with drawn := n + 1, forward := m.forward.insert (idAt n) real }

@[simp] theorem drawn_enter (n : Nat) (real : Handle) (m : SurrogateMap) :
    (m.enter n real).drawn = n + 1 := rfl

theorem unwrap_enter (n : Nat) (real h : Handle) (m : SurrogateMap) :
    (m.enter n real).unwrap h = if idAt n = h then some real else m.unwrap h :=
  Table.get?_insert m.forward (idAt n) h real

/-- Wrapping mints an id that was not drawn before and lets it stand for `real`. -/
theorem exists_wrap_eq (m : SurrogateMap) (real : Handle) :
    ∃ n, m.drawn ≤ n ∧ idAt n ≠ 0 ∧ idAt n ≠ real ∧
      m.wrap real = (idAt n, m.enter n real) := by
  obtain ⟨k, -, hmint, hzero, hreal⟩ := m.exists_mint_eq real
  refine ⟨m.drawn + k, by omega, hzero, hreal, ?_⟩
  simp only [wrap, hmint, enter]

@[simp] theorem drawn_pop (m : SurrogateMap) (s : Handle) : (m.pop s).2.drawn = m.drawn := by
  unfold pop
  split <;> rfl

end SurrogateMap

namespace Wrapper

/-- A handle other than null gets an id that was not drawn before. -/
theorem exists_wrapNew_eq {w : Wrapper} (hw : w.enabled = true) {real : Handle}
    (hreal : real ≠ 0) :
    ∃ n, w.map.drawn ≤ n ∧ idAt n ≠ 0 ∧
      w.wrapNew real = (idAt n, { w with map := w.map.enter n real }) := by
  obtain ⟨n, hn, hzero, -, hwrap⟩ := w.map.exists_wrap_eq real
  refine ⟨n, hn, hzero, ?_⟩
  simp [wrapNew, passes, hw, hreal, hwrap]

/-- A surrogate that stands for a handle is replaced by it. -/
theorem unwrap_of_resolves {w : Wrapper} (hw : w.enabled = true) {h real : Handle} (hzero : h ≠ 0)
    (hresolves : w.map.unwrap h = some real) : w.unwrap h = real := by
  simp [unwrap, passes, hw, hzero, hresolves]

/-- Fresh surrogates for many handles: those that are not null are the ids of draws later
than all before, in order, and exactly they come to stand for something. -/
theorem exists_wrapNewMany {w : Wrapper} (hw : w.enabled = true) (reals : List Handle) :
    ∃ ns : List Nat, (w.wrapNewMany reals).1.filter (· ≠ 0) = ns.map idAt ∧
      ns.Pairwise (· < ·) ∧
      (∀ n ∈ ns, (w.map.drawn ≤ n ∧ n < (w.wrapNewMany reals).2.map.drawn) ∧ idAt n ≠ 0) ∧
      w.map.drawn ≤ (w.wrapNewMany reals).2.map.drawn ∧
      (w.wrapNewMany reals).2.enabled = true ∧
      ∀ h, ((w.wrapNewMany reals).2.map.unwrap h).isSome = true ↔
        (w.map.unwrap h).isSome = true ∨ ∃ n ∈ ns, h = idAt n := by
  induction reals generalizing w with
  | nil => exact ⟨[], rfl, .nil, by simp, Nat.le_refl _, hw, by simp [wrapNewMany]⟩
  | cons real reals ih =>
    rw [wrapNewMany]
    dsimp only
    -- null draws nothing; any other handle takes one draw in front of those for the rest
    by_cases hreal : real = 0
    · obtain ⟨ns, hids, hrest⟩ := ih hw
      subst hreal
      rw [wrapNew_zero]
      exact ⟨ns, by rw [List.filter_cons_of_neg (by simp), hids], hrest⟩
    · obtain ⟨n, hn, hzero, hwrap⟩ := exists_wrapNew_eq hw hreal
      rw [hwrap]
      dsimp only
      obtain ⟨ns, hids, hsorted, hbound, hdrawn, henabled, hlive⟩ :=
        ih (w := { w with map := w.map.enter n real }) hw
      rw [SurrogateMap.drawn_enter] at hdrawn
      have hlater : ∀ k ∈ ns, n < k := fun k hk => (hbound k hk).1.1
      refine ⟨n :: ns, ?_, List.pairwise_cons.2 ⟨hlater, hsorted⟩, fun k hk => ?_, by omega,
        henabled, fun h => ?_⟩
      · rw [List.filter_cons_of_pos (by simp [hzero]), hids, List.map_cons]
      · rcases List.mem_cons.1 hk with rfl | hk
        · exact ⟨⟨hn, hdrawn⟩, hzero⟩
        · have hlow := hlater k hk
          exact ⟨⟨by omega, (hbound k hk).1.2⟩, (hbound k hk).2⟩
      · have henter : ((w.map.enter n real).unwrap h).isSome = true
            ↔ idAt n = h ∨ (w.map.unwrap h).isSome = true := by
          rw [SurrogateMap.unwrap_enter]
          split
          · next heq => simp [heq]
          · next hne => simp [hne]
        rw [hlive, henter]
        constructor
        · rintro ((heq | hold) | ⟨k, hk, heq⟩)
          · exact .inr ⟨n, List.mem_cons_self, heq.symm⟩
          · exact .inl hold
          · exact .inr ⟨k, List.mem_cons_of_mem _ hk, heq⟩
        · rintro (hold | ⟨k, hk, heq⟩)
          · exact .inl (.inr hold)
          · rcases List.mem_cons.1 hk with rfl | hk
            · exact .inl (.inl heq.symm)
            · exact .inr ⟨k, hk, heq⟩

/-! ### Minting many -/

@[simp] theorem enabled_wrapNew (w : Wrapper) (real : Handle) :
    (w.wrapNew real).2.enabled = w.enabled := by
  unfold wrapNew
  split <;> rfl

theorem length_wrapNewMany (w : Wrapper) (reals : List Handle) :
    (w.wrapNewMany reals).1.length = reals.length := by
  induction reals generalizing w with
  | nil => rfl
  | cons real reals ih => exact congrArg (· + 1) (ih (w.wrapNew real).2)

/-- Surrogates may be minted in two goes. -/
theorem wrapNewMany_append (w : Wrapper) (reals reals' : List Handle) :
    w.wrapNewMany (reals ++ reals')
      = ((w.wrapNewMany reals).1 ++ ((w.wrapNewMany reals).2.wrapNewMany reals').1,
          ((w.wrapNewMany reals).2.wrapNewMany reals').2) := by
  induction reals generalizing w with
  | nil => rfl
  | cons real reals ih =>
    have hrest := ih (w.wrapNew real).2
    rw [List.cons_append, wrapNewMany, wrapNewMany]
    dsimp only
    rw [hrest]
    rfl

/-- Null handles stay null, and no others become null. -/
theorem forall₂_wrapNewMany {w : Wrapper} (hw : w.enabled = true) (reals : List Handle) :
    List.Forall₂ (fun h real => h = 0 ↔ real = 0) (w.wrapNewMany reals).1 reals := by
  induction reals generalizing w with
  | nil => exact .nil
  | cons real reals ih =>
    have henabled : (w.wrapNew real).2.enabled = true := by rw [enabled_wrapNew, hw]
    have hfirst : (w.wrapNew real).1 = 0 ↔ real = 0 := by
      by_cases hreal : real = 0
      · rw [hreal, wrapNew_zero]
      · obtain ⟨n, -, hzero, hwrap⟩ := exists_wrapNew_eq hw hreal
        rw [hwrap]
        exact iff_of_false hzero hreal
    exact .cons hfirst (ih henabled)

/-- Null handles might as well have been left out. -/
theorem wrapNewMany_filter {w : Wrapper} (hw : w.enabled = true) (reals : List Handle) :
    w.wrapNewMany (reals.filter (· ≠ 0))
      = ((w.wrapNewMany reals).1.filter (· ≠ 0), (w.wrapNewMany reals).2) := by
  induction reals generalizing w with
  | nil => rfl
  | cons real reals ih =>
    have hrest := ih (w := (w.wrapNew real).2) (by rw [enabled_wrapNew, hw])
    by_cases hreal : real = 0
    · subst hreal
      rw [List.filter_cons_of_neg (by simp), wrapNewMany]
      rw [wrapNew_zero] at hrest ⊢
      rw [hrest, List.filter_cons_of_neg (by simp)]
    · obtain ⟨n, -, hzero, hwrap⟩ := exists_wrapNew_eq hw hreal
      rw [List.filter_cons_of_pos (by simpa using hreal), wrapNewMany, wrapNewMany]
      rw [hwrap] at hrest ⊢
      dsimp only at hrest ⊢
      rw [hrest, List.filter_cons_of_pos (by simpa using hzero)]

/-- The surrogates `hs` are new in `w'` and stand for the handles `reals`, each for the one
at its place. -/
structure Mints (w : Wrapper) (reals hs : List Handle) (w' : Wrapper) : Prop where
  enabled : w'.enabled = true
  drawn_le : w.map.drawn ≤ w'.map.drawn
  nodup : hs.Nodup
  ne_zero : ∀ h ∈ hs, h ≠ 0
  drawn : ∀ h ∈ hs, w'.map.Drawn h
  fresh : ∀ h ∈ hs, ¬ w.map.Drawn h
  unwrap : hs.map w'.map.unwrap = reals.map some
  others : ∀ h, h ∉ hs → w'.map.unwrap h = w.map.unwrap h

/-- **Handles other than null all get new surrogates**, before the counter comes round. -/
theorem mints_wrapNewMany {w : Wrapper} (hw : w.enabled = true) {reals : List Handle}
    (hreals : 0 ∉ reals) (hlimit : (w.wrapNewMany reals).2.map.drawn ≤ drawLimit) :
    w.Mints reals (w.wrapNewMany reals).1 (w.wrapNewMany reals).2 := by
  induction reals generalizing w with
  | nil =>
    exact ⟨hw, Nat.le_refl _, .nil, fun h hh => absurd hh List.not_mem_nil,
      fun h hh => absurd hh List.not_mem_nil, fun h hh => absurd hh List.not_mem_nil, rfl,
      fun h _ => rfl⟩
  | cons real reals ih =>
    have hreal : real ≠ 0 := fun hzero => hreals (hzero ▸ List.mem_cons_self)
    obtain ⟨n, hn, hzero, hwrap⟩ := exists_wrapNew_eq hw hreal
    rw [wrapNewMany, hwrap] at hlimit ⊢
    dsimp only at hlimit ⊢
    have hrest := ih (w := { w with map := w.map.enter n real }) hw
      (fun hmem => hreals (List.mem_cons_of_mem _ hmem)) hlimit
    have hle : n + 1 ≤ _ := hrest.drawn_le
    -- the first surrogate counts as drawn for all that follow
    have hfirst : ({ w with map := w.map.enter n real } : Wrapper).map.Drawn (idAt n) :=
      ⟨n, Nat.lt_succ_self n, rfl⟩
    have hnew : idAt n ∉ _ := fun hmem => hrest.fresh _ hmem hfirst
    refine ⟨hrest.enabled, by omega, List.nodup_cons.2 ⟨hnew, hrest.nodup⟩, fun h hh => ?ne_zero,
      fun h hh => ?drawn, fun h hh => ?fresh, ?unwrap, fun h hh => ?others⟩
    case ne_zero =>
      rcases List.mem_cons.1 hh with rfl | hh
      · exact hzero
      · exact hrest.ne_zero h hh
    case drawn =>
      rcases List.mem_cons.1 hh with rfl | hh
      · exact ⟨n, by omega, rfl⟩
      · exact hrest.drawn h hh
    case fresh =>
      rintro ⟨k, hk, rfl⟩
      rcases List.mem_cons.1 hh with heq | hh
      · have hkn := idAt_injective (by omega) (by omega) heq
        omega
      · exact hrest.fresh _ hh ⟨k, by show k < n + 1; omega, rfl⟩
    case unwrap =>
      have hentered := hrest.others (idAt n) hnew
      rw [SurrogateMap.unwrap_enter, if_pos rfl] at hentered
      rw [List.map_cons, List.map_cons, hentered, hrest.unwrap]
    case others =>
      have hne : idAt n ≠ h := fun heq => hh (heq ▸ List.mem_cons_self)
      rw [hrest.others h fun hmem => hh (List.mem_cons_of_mem _ hmem),
        SurrogateMap.unwrap_enter, if_neg hne]

/-! ### Removing many -/

theorem eraseMany_cons (w : Wrapper) (h : Handle) (hs : List Handle) :
    w.eraseMany (h :: hs) = (w.erase h).eraseMany hs := rfl

@[simp] theorem enabled_erase (w : Wrapper) (h : Handle) :
    (w.erase h).enabled = w.enabled := by
  unfold erase
  split <;> rfl

@[simp] theorem drawn_erase (w : Wrapper) (h : Handle) :
    (w.erase h).map.drawn = w.map.drawn := by
  unfold erase
  split
  · rfl
  · exact w.map.drawn_pop h

theorem enabled_eraseMany (w : Wrapper) (hs : List Handle) :
    (w.eraseMany hs).enabled = w.enabled := by
  induction hs generalizing w with
  | nil => rfl
  | cons h hs ih => rw [eraseMany_cons, ih, enabled_erase]

theorem drawn_eraseMany (w : Wrapper) (hs : List Handle) :
    (w.eraseMany hs).map.drawn = w.map.drawn := by
  induction hs generalizing w with
  | nil => rfl
  | cons h hs ih => rw [eraseMany_cons, ih, drawn_erase]

theorem unwrap_erase {w : Wrapper} (hw : w.enabled = true) (h k : Handle) :
    (w.erase h).map.unwrap k = if k = h ∧ h ≠ 0 then none else w.map.unwrap k := by
  unfold erase passes
  by_cases hzero : h = 0
  · simp [hzero]
  · have hpop : (w.map.erase h).2.unwrap k = if h = k then none else w.map.unwrap k :=
      w.map.unwrap_erase h k
    simp only [hw, hzero, Bool.not_true, Bool.false_or, beq_iff_eq, if_false, hpop]
    by_cases hk : k = h
    · simp [hk, hzero]
    · simp [hk, Ne.symm hk]

/-- Exactly the handles removed stop to stand for something; the null handle never is. -/
theorem unwrap_eraseMany {w : Wrapper} (hw : w.enabled = true) (hs : List Handle)
    (k : Handle) :
    (w.eraseMany hs).map.unwrap k = if k ∈ hs ∧ k ≠ 0 then none else w.map.unwrap k := by
  induction hs generalizing w with
  | nil => simp [eraseMany]
  | cons h hs ih =>
    rw [eraseMany_cons, ih (by rw [enabled_erase, hw]), unwrap_erase hw]
    by_cases hk : k = h
    · subst hk
      by_cases hzero : k = 0 <;> simp [hzero]
    · simp [hk]

/-! ### What becomes of surrogates -/

/-- More surrogates live, which are later draws, and none of those that lived are gone
except some of `lost`. -/
structure Fares (lost : List Handle) (w w' : Wrapper) : Prop where
  enabled_eq : w'.enabled = w.enabled
  drawn_le : w.map.drawn ≤ w'.map.drawn
  new : ∀ h, (w'.map.unwrap h).isSome = true → (w.map.unwrap h).isSome = true ∨
    ∃ n, w.map.drawn ≤ n ∧ n < w'.map.drawn ∧ h = idAt n
  kept : ∀ h, (w.map.unwrap h).isSome = true → h ∉ lost → (w'.map.unwrap h).isSome = true

namespace Fares

variable {lost : List Handle} {w w' w'' : Wrapper}

theorem refl (w : Wrapper) : w.Fares lost w :=
  ⟨rfl, Nat.le_refl _, fun _ h => .inl h, fun _ h _ => h⟩

theorem trans (h : w.Fares lost w') (h' : w'.Fares lost w'') : w.Fares lost w'' := by
  refine ⟨h'.enabled_eq.trans h.enabled_eq, Nat.le_trans h.drawn_le h'.drawn_le, fun k hk => ?_,
    fun k hk hlost => h'.kept k (h.kept k hk hlost) hlost⟩
  have hle := h.drawn_le
  have hle' := h'.drawn_le
  rcases h'.new k hk with hold | ⟨n, hlow, hhigh, heq⟩
  · rcases h.new k hold with hold | ⟨n, hlow, hhigh, heq⟩
    · exact .inl hold
    · exact .inr ⟨n, hlow, by omega, heq⟩
  · exact .inr ⟨n, by omega, hhigh, heq⟩

theorem mono {lost' : List Handle} (h : w.Fares lost w') (hsub : ∀ x ∈ lost, x ∈ lost') :
    w.Fares lost' w' :=
  ⟨h.enabled_eq, h.drawn_le, h.new, fun k hk hlost => h.kept k hk fun hmem => hlost (hsub k hmem)⟩

/-- Removing surrogates. -/
theorem eraseMany {w : Wrapper} (hw : w.enabled = true) (hs : List Handle) :
    w.Fares hs (w.eraseMany hs) := by
  refine ⟨w.enabled_eraseMany hs, Nat.le_of_eq (w.drawn_eraseMany hs).symm, fun h hh => ?_,
    fun h hh hlost => ?_⟩
  · rw [unwrap_eraseMany hw] at hh
    split at hh
    · cases hh
    · exact .inl hh
  · rw [unwrap_eraseMany hw, if_neg fun hmem => hlost hmem.1]
    exact hh

/-- Entering the id of a later draw, whatever becomes of the kept surrogates. -/
theorem enter {n : Nat} (real : Handle) (hn : w.map.drawn ≤ n)
    (henabled : w'.enabled = w.enabled) (hdrawn : w'.map.drawn = n + 1)
    (hunwrap : ∀ h, w'.map.unwrap h = (w.map.enter n real).unwrap h) : w.Fares [] w' := by
  refine ⟨henabled, by omega, fun h hh => ?_, fun h hh _ => ?_⟩
  · rw [hunwrap, SurrogateMap.unwrap_enter] at hh
    split at hh
    · next heq => exact .inr ⟨n, hn, by omega, heq.symm⟩
    · exact .inl hh
  · rw [hunwrap, SurrogateMap.unwrap_enter]
    split
    · rfl
    · exact hh

theorem wrapNewMany {w : Wrapper} (hw : w.enabled = true) (reals : List Handle) :
    w.Fares [] (w.wrapNewMany reals).2 := by
  obtain ⟨ns, -, -, hbound, hdrawn, henabled, hlive⟩ := exists_wrapNewMany hw reals
  refine ⟨henabled.trans hw.symm, hdrawn, fun h hh => ?_, fun h hh _ => (hlive h).2 (.inl hh)⟩
  rcases (hlive h).1 hh with hold | ⟨n, hn, heq⟩
  · exact .inl hold
  · exact .inr ⟨n, (hbound n hn).1.1, (hbound n hn).1.2, heq⟩

/-- A display has its surrogate already, or it gets the id of a later draw. -/
theorem wrapDisplay (w : Wrapper) (real : Handle) : w.Fares [] (w.wrapDisplay real).2 := by
  unfold Wrapper.wrapDisplay
  split
  · exact .refl w
  · obtain ⟨n, hn, -, -, hwrap⟩ := w.map.exists_wrap_eq real
    cases hkept : w.map.reverse.get? real with
    | some s =>
      have hunique : w.map.wrapUnique real = (s, w.map) := by
        simp [SurrogateMap.wrapUnique, hkept]
      rw [hunique]
      exact .refl w
    | none =>
      have hunique : w.map.wrapUnique real = (idAt n,
          { w.map.enter n real with reverse := w.map.reverse.insert real (idAt n) }) := by
        simp only [SurrogateMap.wrapUnique, hkept, hwrap]
        rfl
      rw [hunique]
      exact enter real hn rfl rfl fun _ => rfl

theorem wrapDisplayMany (w : Wrapper) (reals : List Handle) :
    w.Fares [] (w.wrapDisplayMany reals).2 := by
  induction reals generalizing w with
  | nil => exact .refl w
  | cons real reals ih => exact (wrapDisplay w real).trans (ih _)

end Fares

end Wrapper

end HandleLayer
