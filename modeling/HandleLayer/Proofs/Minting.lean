import HandleLayer.Proofs.MapRuns

/-!
# How long minting takes

Minting is a loop: counter values are drawn one after the other until the id of one is neither
zero nor the real handle.  Nothing in the loop counts its rounds.  It ends because different
counter values have different ids, so that each of the two forbidden ids costs one round at
most.

Over a whole run the real handles may be chosen so that each minting has to skip its own one.
The id zero, however, belongs to a single draw before the counter comes round, and whatever
minting comes across it pays for all.

## Main definitions

* `Draws` — the loop: the counter values that it draws from a counter on, and the id it ends
  with.
* `zeroDraw`, `drawAllowance` — the draw whose id is zero, and how many draws are paid for.

## Main results

* `exists_draws`, `Draws.unique` — the loop ends, and in one way only.
* `Draws.length_le` — it draws three values at most.
* `SurrogateMap.mint_of_draws` — minting is this loop.
* `drawn_mint_le`, `drawn_runMapFrom_le` — what one minting costs, and what a run costs.
* `minting_ends_quickly` — **minting draws three values at most, and n mintings on a new map
  draw 2n + 1 at most.**
-/

namespace HandleLayer

/-! ### The loop -/

/-- The loop that draws counter values, from `counter` on, until the id of one can be used for
`real`: the values that it draws in turn, and the id with which it ends. -/
inductive Draws (real : Handle) : (counter : UInt64) → List UInt64 → Handle → Prop
  | taken {counter : UInt64} (hzero : spread counter ≠ 0) (hreal : spread counter ≠ real) :
    Draws real counter [counter] (spread counter)
  | skipped {counter : UInt64} {values : List UInt64} {id : Handle}
      (hskip : spread counter = 0 ∨ spread counter = real)
      (rest : Draws real (counter + 1) values id) : Draws real counter (counter :: values) id

namespace Draws

variable {real id id' : Handle} {counter : UInt64} {values values' : List UInt64}

/-- **The loop ends in one way only.** -/
theorem unique (h : Draws real counter values id) (h' : Draws real counter values' id') :
    values' = values ∧ id' = id := by
  induction h generalizing values' with
  | taken hzero hreal =>
    cases h' with
    | taken => exact ⟨rfl, rfl⟩
    | skipped hskip => exact absurd hskip (not_or.2 ⟨hzero, hreal⟩)
  | skipped hskip rest ih =>
    cases h' with
    | taken hzero hreal => exact absurd hskip (not_or.2 ⟨hzero, hreal⟩)
    | skipped hskip' rest' =>
      obtain ⟨rfl, rfl⟩ := ih rest'
      exact ⟨rfl, rfl⟩

/-- The id can be used. -/
theorem usable (h : Draws real counter values id) : id ≠ 0 ∧ id ≠ real := by
  induction h with
  | taken hzero hreal => exact ⟨hzero, hreal⟩
  | skipped hskip rest ih => exact ih

/-- The values are drawn one after the other, modulo the size of a word. -/
theorem consecutive (h : Draws real counter values id) :
    values = (List.range values.length).map fun i => counter + i.toUInt64 := by
  induction h with
  | taken hzero hreal => simp
  | @skipped counter values id hskip rest ih =>
    rw [List.length_cons, List.range_succ_eq_map, List.map_cons, List.map_map]
    have hnext : ∀ i : Nat, counter + 1 + i.toUInt64 = counter + (i + 1).toUInt64 := by
      intro i
      have hsucc : (i + 1).toUInt64 = 1 + i.toUInt64 := by
        rw [Nat.add_comm]
        simp [Nat.toUInt64_eq]
      rw [hsucc, UInt64.add_assoc]
    refine congrArg₂ List.cons (by simp) (ih.trans ?_)
    exact List.map_congr_left fun i _ => hnext i

end Draws

/-- What is found by trying some values is what the loop ends with. -/
theorem draws_of_drawId {real id : Handle} {draws : Nat} {counter : UInt64} {k : Nat}
    (h : drawId real draws counter = some (id, k)) :
    ∃ values, Draws real counter values id ∧ values.length = k ∧ k ≤ draws := by
  induction draws generalizing counter k with
  | zero => cases h
  | succ draws ih =>
    rw [drawId] at h
    split at h
    · next hok =>
      obtain ⟨rfl, rfl⟩ := Prod.mk.inj (Option.some.inj h)
      exact ⟨[counter], .taken hok.1 hok.2, rfl, by omega⟩
    · next hno =>
      obtain ⟨⟨id', k'⟩, hrest, heq⟩ := Option.map_eq_some_iff.1 h
      obtain ⟨rfl, rfl⟩ := Prod.mk.inj heq
      obtain ⟨values, hvalues, rfl, hle⟩ := ih hrest
      have hskip : spread counter = 0 ∨ spread counter = real := by
        simpa only [ne_eq, not_and_or, not_not] using hno
      exact ⟨counter :: values, .skipped hskip hvalues, rfl, by omega⟩

/-- **The loop ends**, whatever the counter and the real handle are. -/
theorem exists_draws (real : Handle) (counter : UInt64) :
    ∃ values id, Draws real counter values id ∧ values.length ≤ 3 := by
  obtain ⟨⟨id, k⟩, hfound⟩ := Option.isSome_iff_exists.1 (isSome_drawId real counter)
  obtain ⟨values, hvalues, rfl, hle⟩ := draws_of_drawId hfound
  exact ⟨values, id, hvalues, hle⟩

/-- Only the id zero costs a third value. -/
theorem Draws.length_le_two {real id : Handle} {counter : UInt64} {values : List UInt64}
    (h : Draws real counter values id) (hnonzero : ∀ v ∈ values, spread v ≠ 0) :
    values.length ≤ 2 := by
  cases h with
  | taken => exact Nat.le_succ 1
  | skipped hskip rest =>
    cases rest with
    | taken => exact Nat.le_refl 2
    | skipped hskip' rest' =>
      -- both values would have the id of the real handle
      have hfirst := hskip.resolve_left (hnonzero _ List.mem_cons_self)
      have hsecond := hskip'.resolve_left
        (hnonzero _ (List.mem_cons_of_mem _ List.mem_cons_self))
      have hsame : counter = counter + 1 := spread_injective (hfirst.trans hsecond.symm)
      simp at hsame

/-- **Minting is this loop**, and the counter is advanced past the values drawn. -/
theorem SurrogateMap.mint_of_draws {m : SurrogateMap} {real id : Handle} {values : List UInt64}
    (h : Draws real m.counter values id) :
    m.mint real = (id, { m with drawn := m.drawn + values.length }) := by
  obtain ⟨⟨id', k⟩, hfound⟩ := Option.isSome_iff_exists.1 (isSome_drawId real m.counter)
  obtain ⟨values', h', rfl, -⟩ := draws_of_drawId hfound
  obtain ⟨rfl, rfl⟩ := h.unique h'
  simp only [mint, hfound, Option.get_some]

/-! ### What minting costs -/

/-- The draw whose id is zero, which is the only one before the counter comes round. -/
def zeroDraw : Nat := 0x52564b

theorem idAt_zeroDraw : idAt zeroDraw = 0 := by decide +kernel

/-- The draws that are paid for once in a run, after so many draws: the one with the id zero. -/
def drawAllowance (drawn : Nat) : Nat := if zeroDraw < drawn then 1 else 0

theorem drawAllowance_le_one (drawn : Nat) : drawAllowance drawn ≤ 1 := by
  unfold drawAllowance
  split <;> omega

theorem drawAllowance_mono {drawn drawn' : Nat} (h : drawn ≤ drawn') :
    drawAllowance drawn ≤ drawAllowance drawn' := by
  unfold drawAllowance
  split <;> split <;> omega

/-- **One minting costs two draws at most**, but for the one draw that is paid for. -/
theorem drawn_mint_le {m : SurrogateMap} {real : Handle}
    (hlimit : (m.mint real).2.drawn ≤ drawLimit) :
    (m.mint real).2.drawn + drawAllowance m.drawn
      ≤ m.drawn + 2 + drawAllowance (m.mint real).2.drawn := by
  obtain ⟨values, id, hdraws, hthree⟩ := exists_draws real m.counter
  rw [SurrogateMap.mint_of_draws hdraws] at hlimit ⊢
  dsimp only at hlimit ⊢
  have hmono := drawAllowance_mono (Nat.le_add_right m.drawn values.length)
  by_cases hzero : ∃ v ∈ values, spread v = 0
  · -- the draw with the id zero is among these, so that it is paid for from now on
    obtain ⟨v, hv, hspread⟩ := hzero
    rw [hdraws.consecutive] at hv
    obtain ⟨i, hi, rfl⟩ := List.mem_map.1 hv
    have hlt : i < values.length := List.mem_range.1 hi
    have hcounter : m.counter + i.toUInt64 = (m.drawn + i + 1).toUInt64 := by
      rw [SurrogateMap.counter, Nat.add_right_comm]
      simp [Nat.toUInt64_eq]
    have hid : idAt (m.drawn + i) = idAt zeroDraw := by
      rw [idAt_zeroDraw, idAt, ← hcounter, hspread]
    have hdraw : m.drawn + i = zeroDraw :=
      idAt_injective (by omega) (by unfold drawLimit zeroDraw; omega) hid
    have hbefore : drawAllowance m.drawn = 0 := if_neg (by omega)
    have hafter : drawAllowance (m.drawn + values.length) = 1 := if_pos (by omega)
    omega
  · have htwo := hdraws.length_le_two fun v hv hspread => hzero ⟨v, hv, hspread⟩
    omega

/-! ### What a run costs -/

/-- An operation mints a surrogate or draws nothing. -/
theorem MapOp.mints_or_idles (m : SurrogateMap) (op : MapOp) :
    (∃ p real, (op.perform m).1.minted? = some p ∧
      (op.perform m).2.drawn = (m.mint real).2.drawn) ∨
    ((op.perform m).1.minted? = none ∧ (op.perform m).2.drawn = m.drawn) := by
  cases op with
  | wrap real => exact .inl ⟨_, real, rfl, rfl⟩
  | wrapUnique real =>
    cases hkept : m.reverse.get? real with
    | some s =>
      have hwrap : m.wrapUnique real = (s, m) := by simp [SurrogateMap.wrapUnique, hkept]
      right
      simp [perform, hwrap, MapEvent.minted?]
    | none =>
      obtain ⟨n, hn, -, -, hwrap⟩ := m.exists_wrap_eq real
      have hmint : (m.mint real).2.drawn = n + 1 := congrArg (fun p => p.2.drawn) hwrap
      have hdrawn : (m.wrapUnique real).2.drawn = n + 1 := by
        simp [SurrogateMap.wrapUnique, hkept, hwrap]
      have hnew : m.drawn < n + 1 := by omega
      refine .inl ⟨((m.wrapUnique real).1, real), real, ?_, hdrawn.trans hmint.symm⟩
      simp only [perform, hdrawn, decide_eq_true hnew]
      rfl
  | unwrap s => exact .inr ⟨rfl, rfl⟩
  | pop s => exact .inr ⟨rfl, m.drawn_pop s⟩
  | erase s => exact .inr ⟨rfl, m.drawn_pop s⟩
  | clear => exact .inr ⟨rfl, rfl⟩

/-- Whatever is minted stays within two draws each and the one that is paid for. -/
theorem drawn_perform_le {h : List MapEvent} {m : SurrogateMap} (op : MapOp)
    (hm : m.drawn ≤ 2 * (minted h).length + drawAllowance m.drawn)
    (hlimit : (op.perform m).2.drawn ≤ drawLimit) :
    (op.perform m).2.drawn
      ≤ 2 * (minted ((op.perform m).1 :: h)).length + drawAllowance (op.perform m).2.drawn := by
  rw [minted, List.filterMap_cons]
  rcases op.mints_or_idles m with ⟨p, real, hminted, hdrawn⟩ | ⟨hminted, hdrawn⟩
  · have hcost := drawn_mint_le (hdrawn ▸ hlimit)
    rw [hminted, hdrawn, List.length_cons]
    rw [minted] at hm
    omega
  · rw [hminted, hdrawn]
    exact hm

theorem drawn_runMapFrom_le {h : List MapEvent} {m : SurrogateMap} (ops : List MapOp)
    (hm : m.drawn ≤ 2 * (minted h).length + drawAllowance m.drawn)
    (hlimit : (runMapFrom h m ops).2.drawn ≤ drawLimit) :
    (runMapFrom h m ops).2.drawn ≤ 2 * (minted (runMapFrom h m ops).1).length
      + drawAllowance (runMapFrom h m ops).2.drawn := by
  induction ops generalizing h m with
  | nil => exact hm
  | cons op ops ih =>
    have hop : (op.perform m).2.drawn ≤ drawLimit :=
      Nat.le_trans (drawn_le_runMapFrom _ _ ops) hlimit
    exact ih (drawn_perform_le op hm hop) hlimit

/-- **Minting ends quickly.**  From every value of the counter and for every real handle the
loop ends, in one way only.  It draws three values at most, one after the other modulo the size
of a word, and ends with an id other than zero and the real handle; minting does just this, and
leaves the counter past the values drawn.

In every run on a new map, before the counter comes round, twice as many values are drawn as
surrogates are minted, and one more at most. -/
theorem minting_ends_quickly :
    (∀ (real : Handle) (counter : UInt64), ∃ values id, Draws real counter values id ∧
      (∀ values' id', Draws real counter values' id' → values' = values ∧ id' = id) ∧
      values.length ≤ 3 ∧
      values = ((List.range values.length).map fun i => counter + i.toUInt64) ∧
      id ≠ 0 ∧ id ≠ real ∧
      ∀ m : SurrogateMap, m.counter = counter →
        m.mint real = (id, { m with drawn := m.drawn + values.length }) ∧
          (m.mint real).2.counter = counter + values.length.toUInt64) ∧
    ∀ (ops : List MapOp) (history : List MapEvent) (m : SurrogateMap),
      runMap ops = (history, m) → m.drawn ≤ drawLimit →
        m.drawn ≤ 2 * (minted history).length + 1 := by
  refine ⟨fun real counter => ?_, fun ops history m hrun hlimit => ?_⟩
  · obtain ⟨values, id, hdraws, hthree⟩ := exists_draws real counter
    refine ⟨values, id, hdraws, fun values' id' => hdraws.unique, hthree, hdraws.consecutive,
      hdraws.usable.1, hdraws.usable.2, fun m hm => ?_⟩
    have hmint := SurrogateMap.mint_of_draws (m := m) (hm ▸ hdraws)
    refine ⟨hmint, ?_⟩
    rw [hmint, ← hm, SurrogateMap.counter, SurrogateMap.counter]
    dsimp only
    rw [Nat.add_right_comm]
    simp [Nat.toUInt64_eq]
  · have hcost := drawn_runMapFrom_le (h := []) (m := .empty) ops (Nat.zero_le _)
    rw [← runMap, hrun] at hcost
    have hone := drawAllowance_le_one m.drawn
    have hm := hcost hlimit
    dsimp only at hm
    omega

/-- Three values are drawn where the id zero is in the way and the next one is the real handle.
A minting may take the last value of the counter and go on with the first one.  Three mintings
for real handles that are in the way cost two draws each. -/
theorem minting_with_ids_in_the_way :
    Draws (spread 0x52564d) 0x52564c [0x52564c, 0x52564d, 0x52564e] (spread 0x52564e) ∧
      (let m : SurrogateMap := { SurrogateMap.empty with drawn := 2 ^ 64 - 2 }
      m.counter = 0xffffffffffffffff ∧ (m.mint (spread 0xffffffffffffffff)).1 = spread 0 ∧
        (m.mint (spread 0xffffffffffffffff)).2.counter = 1) ∧
      let ops : List MapOp := [.wrap (idAt 0), .wrapUnique (idAt 2), .wrap (idAt 4)]
      (runMap ops).2.drawn ≤ drawLimit ∧ (runMap ops).2.drawn = 6 ∧
        (runMap ops).2.drawn ≤ 2 * (minted (runMap ops).1).length + 1 := by
  have hthree : Draws (spread 0x52564d) 0x52564c [0x52564c, 0x52564d, 0x52564e]
      (spread 0x52564e) := by
    refine .skipped (.inl (by decide +kernel)) (.skipped (.inr rfl) (.taken ?_ ?_))
    · decide +kernel
    · decide +kernel
  have htwo : Draws (spread 0xffffffffffffffff) 0xffffffffffffffff [0xffffffffffffffff, 0]
      (spread 0) := by
    refine .skipped (.inr rfl) (.taken ?_ ?_)
    · decide +kernel
    · decide +kernel
  obtain ⟨hloop, hruns⟩ := minting_ends_quickly
  refine ⟨hthree, ?_, ?_⟩
  · intro m
    have hcounter : m.counter = 0xffffffffffffffff := by decide +kernel
    obtain ⟨values, id, -, hunique, -, -, -, -, hmint⟩ :=
      hloop (spread 0xffffffffffffffff) 0xffffffffffffffff
    obtain ⟨rfl, rfl⟩ := hunique _ _ htwo
    obtain ⟨hid, hnext⟩ := hmint m hcounter
    exact ⟨hcounter, congrArg Prod.fst hid, hnext.trans (by decide +kernel)⟩
  · intro ops
    have hlimit : (runMap ops).2.drawn ≤ drawLimit := by decide +kernel
    exact ⟨hlimit, by decide +kernel, hruns ops _ _ rfl hlimit⟩

end HandleLayer
