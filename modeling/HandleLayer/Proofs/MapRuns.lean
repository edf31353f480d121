import HandleLayer.Proofs.Ids

/-!
# Runs of the surrogate map

A surrogate map is used for a long time and by everyone, so what counts is what it does
over a whole run.  The history of a run — the operations with their answers — determines
which surrogates were minted, what each of them stands for, and which one is kept for a
real handle; the two tables of the map never say anything else.

## Main definitions

* `MapOp`, `MapEvent`, `runMap` — operations, operations with their answers, and runs.
* `StandsFor`, `KeptFor` — what a history says of a surrogate.
* `Faithful` — the invariant: the tables say what the history says.

## Main results

* `faithful_runMap` — the invariant holds after every run.
* `surrogates_of_run` — **surrogates are fresh, resolve until they are removed and never
  again, and a kept surrogate stays the same until it is removed itself.**
-/

namespace HandleLayer

/-! ### Operations and histories -/

/-- The operations on a surrogate map. -/
inductive MapOp
  | wrap (real : Handle)
  | wrapUnique (real : Handle)
  | unwrap (surrogate : Handle)
  | pop (surrogate : Handle)
  | erase (surrogate : Handle)
  | clear
  deriving DecidableEq, Repr

/-- An operation with its answer. -/
inductive MapEvent
  | wrapped (real surrogate : Handle)
  /-- The surrogate may have been kept from before, or minted now. -/
  | wrappedUnique (real surrogate : Handle) (minted : Bool)
  | unwrapped (surrogate : Handle) (real : Option Handle)
  | popped (surrogate : Handle) (real : Option Handle)
  | erased (surrogate : Handle) (present : Bool)
  | cleared
  deriving DecidableEq, Repr

/-- What an operation answers, and the map after it.  A surrogate was minted if values
were drawn for it. -/
def MapOp.perform (m : SurrogateMap) : MapOp → MapEvent × SurrogateMap
  | wrap real => (.wrapped real (m.wrap real).1, (m.wrap real).2)
  | wrapUnique real =>
    (.wrappedUnique real (m.wrapUnique real).1 (m.drawn < (m.wrapUnique real).2.drawn),
      (m.wrapUnique real).2)
  | unwrap surrogate => (.unwrapped surrogate (m.unwrap surrogate), m)
  | pop surrogate => (.popped surrogate (m.pop surrogate).1, (m.pop surrogate).2)
  | erase surrogate => (.erased surrogate (m.erase surrogate).1, (m.erase surrogate).2)
  | clear => (.cleared, m.clear)

/-- The operations carried out in turn; the newest event of a history comes first. -/
def runMapFrom (h : List MapEvent) (m : SurrogateMap) :
    List MapOp → List MapEvent × SurrogateMap
  | [] => (h, m)
  | op :: ops => runMapFrom ((op.perform m).1 :: h) (op.perform m).2 ops

/-- A run of operations on a new map. -/
def runMap (ops : List MapOp) : List MapEvent × SurrogateMap := runMapFrom [] .empty ops

/-! ### What a history says -/

namespace MapEvent

/-- The surrogate that an event mints, with its real handle. -/
def minted? : MapEvent → Option (Handle × Handle)
  | wrapped real s | wrappedUnique real s true => some (s, real)
  | wrappedUnique _ _ false | unwrapped .. | popped .. | erased .. | cleared => none

/-- Whether an event removes a surrogate. -/
def removes (s : Handle) : MapEvent → Bool
  | popped s' _ | erased s' _ => s' == s
  | cleared => true
  | wrapped .. | wrappedUnique .. | unwrapped .. => false

/-- Whether an event gives out a surrogate that is kept for a real handle. -/
def keeps (real s : Handle) : MapEvent → Bool
  | wrappedUnique real' s' _ => real' == real && s' == s
  | wrapped .. | unwrapped .. | popped .. | erased .. | cleared => false

/-- Whether an event is the removal of a surrogate with its real handle as the answer. -/
def isPopOf (s : Handle) : MapEvent → Bool
  | popped s' (some _) => s' == s
  | popped _ none | wrapped .. | wrappedUnique .. | unwrapped .. | erased .. | cleared => false

end MapEvent

/-- All surrogates minted in a history with their real handles, the newest first. -/
def minted (h : List MapEvent) : List (Handle × Handle) := h.filterMap MapEvent.minted?

/-- The number of times that a surrogate was popped with success. -/
def popsOf (s : Handle) (h : List MapEvent) : Nat := h.countP (MapEvent.isPopOf s)

/-- Whether an event with `p` has happened and none with `q` has happened after it. -/
def Since (p q : MapEvent → Prop) (h : List MapEvent) : Prop :=
  ∃ newer e older, h = newer ++ e :: older ∧ p e ∧ ∀ e' ∈ newer, ¬ q e'

@[simp] theorem not_since_nil (p q : MapEvent → Prop) : ¬ Since p q [] := by
  rintro ⟨newer, e, older, heq, -⟩
  exact List.append_ne_nil_of_right_ne_nil newer (List.cons_ne_nil e older) heq.symm

/-- What has been so since some event is decided by the newest event and by what was so
before it. -/
theorem since_cons {p q : MapEvent → Prop} {e : MapEvent} {h : List MapEvent} :
    Since p q (e :: h) ↔ p e ∨ ¬ q e ∧ Since p q h := by
  constructor
  · rintro ⟨newer, e', older, heq, hp, hq⟩
    cases newer with
    | nil =>
      obtain ⟨rfl, rfl⟩ := List.cons.inj heq
      exact .inl hp
    | cons e'' newer =>
      obtain ⟨rfl, rfl⟩ := List.cons.inj heq
      exact .inr ⟨hq e (by simp), newer, e', older, rfl, hp,
        fun x hx => hq x (List.mem_cons_of_mem _ hx)⟩
  · rintro (hp | ⟨hq, newer, e', older, rfl, hp, hnewer⟩)
    · exact ⟨[], e, h, rfl, hp, by simp⟩
    · refine ⟨e :: newer, e', older, rfl, hp, fun x hx => ?_⟩
      rcases List.mem_cons.1 hx with rfl | hx
      · exact hq
      · exact hnewer x hx

/-- A surrogate stands for the real handle that it was minted for until it is removed. -/
def StandsFor (s real : Handle) : List MapEvent → Prop :=
  Since (fun e => e.minted? = some (s, real)) (fun e => e.removes s)

/-- A surrogate is kept for a real handle from when it was given out for it until it is
removed. -/
def KeptFor (real s : Handle) : List MapEvent → Prop :=
  Since (fun e => e.keeps real s) (fun e => e.removes s)

theorem standsFor_cons {s real : Handle} {e : MapEvent} {h : List MapEvent} :
    StandsFor s real (e :: h)
      ↔ e.minted? = some (s, real) ∨ ¬ e.removes s ∧ StandsFor s real h :=
  since_cons

theorem keptFor_cons {real s : Handle} {e : MapEvent} {h : List MapEvent} :
    KeptFor real s (e :: h) ↔ e.keeps real s ∨ ¬ e.removes s ∧ KeptFor real s h :=
  since_cons

theorem mem_minted_of_standsFor {h : List MapEvent} {s real : Handle}
    (hs : StandsFor s real h) : (s, real) ∈ minted h := by
  obtain ⟨newer, e, older, rfl, hp, -⟩ := hs
  exact List.mem_filterMap.2 ⟨e, by simp, hp⟩

/-! ### The invariant -/

/-- The tables of a map say what the history says. -/
structure Faithful (h : List MapEvent) (m : SurrogateMap) : Prop where
  unwrap_iff : ∀ s real, m.unwrap s = some real ↔ StandsFor s real h
  reverse_iff : ∀ real s, m.reverse.get? real = some s ↔ KeptFor real s h
  /-- Kept surrogates resolve. -/
  unwrap_of_reverse : ∀ real s, m.reverse.get? real = some s → m.unwrap s = some real
  /-- Surrogates are the ids of draws, in the order of the draws. -/
  ids : ∃ ns : List Nat, (minted h).map Prod.fst = ns.map idAt ∧ ns.Pairwise (· > ·) ∧
    ∀ n ∈ ns, n < m.drawn
  proper : ∀ p ∈ minted h, p.1 ≠ 0 ∧ p.1 ≠ p.2
  /-- Only a surrogate that is gone was popped, and only once. -/
  pops : ∀ s, popsOf s h = 0 ∨
    popsOf s h = 1 ∧ s ∈ (minted h).map Prod.fst ∧ m.unwrap s = none

/-- Nothing is minted and nothing is kept for the first time: events that remove some
surrogates, or none. -/
theorem Faithful.remove {h : List MapEvent} {m m' : SurrogateMap} {e : MapEvent}
    (hf : Faithful h m) (hmint : e.minted? = none) (hkeeps : ∀ r s, e.keeps r s = false)
    (hdrawn : m'.drawn = m.drawn)
    (hforward : ∀ s, m'.unwrap s = if e.removes s then none else m.unwrap s)
    (hreverse : ∀ r, m'.reverse.get? r = (m.reverse.get? r).filter fun s => !e.removes s)
    (hpop : ∀ s, e.isPopOf s = true → e.removes s = true ∧ (m.unwrap s).isSome = true) :
    Faithful (e :: h) m' := by
  have hminted : minted (e :: h) = minted h := by simp [minted, hmint]
  refine ⟨fun s r => ?unwrap_iff, fun r s => ?reverse_iff, fun r s hr => ?unwrap_of_reverse, ?ids,
    ?proper, fun s => ?pops⟩
  case unwrap_iff =>
    rw [standsFor_cons, hforward, ← hf.unwrap_iff, hmint]
    by_cases hs : e.removes s <;> simp [hs]
  case reverse_iff =>
    rw [keptFor_cons, hreverse, Option.filter_eq_some_iff, hf.reverse_iff, hkeeps]
    simp [and_comm]
  case unwrap_of_reverse =>
    rw [hreverse, Option.filter_eq_some_iff] at hr
    rw [hforward, hf.unwrap_of_reverse r s hr.1]
    simpa using hr.2
  case ids =>
    rw [hminted, hdrawn]
    exact hf.ids
  case proper =>
    rw [hminted]
    exact hf.proper
  case pops =>
    rw [hminted, popsOf, List.countP_cons, hforward]
    by_cases hs : e.isPopOf s
    · -- the surrogate was live, so that it was not popped before
      obtain ⟨hremoves, hlive⟩ := hpop s hs
      obtain ⟨r, hr⟩ := Option.isSome_iff_exists.1 hlive
      rcases hf.pops s with hzero | ⟨-, -, hgone⟩
      · have hmem : s ∈ (minted h).map Prod.fst :=
          List.mem_map.2 ⟨_, mem_minted_of_standsFor ((hf.unwrap_iff s r).1 hr), rfl⟩
        exact .inr ⟨by rw [popsOf] at hzero; simp [hzero, hs], hmem, by simp [hremoves]⟩
      · rw [hgone] at hr
        cases hr
    · rcases hf.pops s with hzero | ⟨hone, hmem, hgone⟩
      · exact .inl (by rw [popsOf] at hzero; simp [hzero, hs])
      · exact .inr ⟨by rw [popsOf] at hone; simp [hone, hs], hmem, by simp [hgone]⟩

/-- A surrogate is minted, and kept or not. -/
theorem Faithful.mint {h : List MapEvent} {m m' : SurrogateMap} {e : MapEvent}
    {real : Handle} {n : Nat} (hf : Faithful h m) (hn : m.drawn ≤ n) (hlt : n < drawLimit)
    (hzero : idAt n ≠ 0) (hreal : idAt n ≠ real)
    (hmint : e.minted? = some (idAt n, real)) (hremoves : ∀ s, e.removes s = false)
    (hpop : ∀ s, e.isPopOf s = false) (hdrawn : m'.drawn = n + 1)
    (hforward : ∀ s, m'.unwrap s = if idAt n = s then some real else m.unwrap s)
    (hreverse : ∀ r s, m'.reverse.get? r = some s ↔
      e.keeps r s = true ∨ m.reverse.get? r = some s)
    (hkeeps : ∀ r s, e.keeps r s = true → r = real ∧ s = idAt n) :
    Faithful (e :: h) m' := by
  have hminted : minted (e :: h) = (idAt n, real) :: minted h := by simp [minted, hmint]
  obtain ⟨ns, hids, hsorted, hbound⟩ := hf.ids
  -- the new surrogate belongs to a later draw than all others
  have hfresh : idAt n ∉ (minted h).map Prod.fst := by
    rw [hids]
    rintro hmem
    obtain ⟨k, hk, heq⟩ := List.mem_map.1 hmem
    have hkn := hbound k hk
    have := idAt_injective (by omega) hlt heq
    omega
  have hdead : m.unwrap (idAt n) = none := by
    rw [Option.eq_none_iff_forall_ne_some]
    intro r hr
    exact hfresh (List.mem_map.2 ⟨_, mem_minted_of_standsFor ((hf.unwrap_iff _ r).1 hr), rfl⟩)
  refine ⟨fun s r => ?unwrap_iff, fun r s => ?reverse_iff, fun r s hr => ?unwrap_of_reverse, ?ids,
    ?proper, fun s => ?pops⟩
  case unwrap_iff =>
    rw [standsFor_cons, hforward, ← hf.unwrap_iff, hmint, hremoves]
    by_cases hs : idAt n = s
    · subst hs
      simp [hdead]
    · simp [hs]
  case reverse_iff =>
    rw [keptFor_cons, hreverse, hf.reverse_iff, hremoves]
    simp
  case unwrap_of_reverse =>
    rw [hforward]
    rcases (hreverse r s).1 hr with hnew | hold
    · obtain ⟨rfl, rfl⟩ := hkeeps r s hnew
      simp
    · have hlive := hf.unwrap_of_reverse r s hold
      have hne : idAt n ≠ s := by
        rintro rfl
        rw [hdead] at hlive
        cases hlive
      rw [if_neg hne, hlive]
  case ids =>
    refine ⟨n :: ns, by rw [hminted, List.map_cons, hids, List.map_cons], ?_, ?_⟩
    · exact List.pairwise_cons.2 ⟨fun k hk => Nat.lt_of_lt_of_le (hbound k hk) hn, hsorted⟩
    · intro k hk
      rcases List.mem_cons.1 hk with rfl | hk
      · omega
      · have := hbound k hk
        omega
  case proper =>
    rw [hminted]
    intro p hp
    rcases List.mem_cons.1 hp with rfl | hp
    · exact ⟨hzero, hreal⟩
    · exact hf.proper p hp
  case pops =>
    rw [hminted, popsOf, List.countP_cons, hpop, hforward]
    rcases hf.pops s with hnone | ⟨hone, hmem, hgone⟩
    · exact .inl hnone
    · have hne : idAt n ≠ s := fun heq => hfresh (heq ▸ hmem)
      exact .inr ⟨hone, List.mem_cons_of_mem _ hmem, by rw [if_neg hne, hgone]⟩

/-- A surrogate that is kept already is given out again. -/
theorem Faithful.reuse {h : List MapEvent} {m : SurrogateMap} {real s : Handle}
    (hf : Faithful h m) (hs : m.reverse.get? real = some s) :
    Faithful (.wrappedUnique real s false :: h) m := by
  refine ⟨fun s' r => ?_, fun r s' => ?_, hf.unwrap_of_reverse, hf.ids, hf.proper, hf.pops⟩
  · rw [standsFor_cons, hf.unwrap_iff]
    simp [MapEvent.minted?, MapEvent.removes]
  · rw [keptFor_cons, hf.reverse_iff]
    refine ⟨fun hkept => .inr ⟨by simp [MapEvent.removes], hkept⟩, ?_⟩
    rintro (hkeeps | ⟨-, hkept⟩)
    · simp only [MapEvent.keeps, Bool.and_eq_true, beq_iff_eq] at hkeeps
      obtain ⟨rfl, rfl⟩ := hkeeps
      exact (hf.reverse_iff real s).1 hs
    · exact hkept

/-! ### Single operations -/

namespace SurrogateMap

/-- Removing a surrogate that resolves as the tables say takes it out of both of them. -/
theorem reverse_pop {m : SurrogateMap}
    (hm : ∀ real s, m.reverse.get? real = some s → m.unwrap s = some real)
    (s real : Handle) :
    (m.pop s).2.reverse.get? real = (m.reverse.get? real).filter fun s' => !(s == s') := by
  have hstays : m.reverse.get? real ≠ some s →
      m.reverse.get? real = (m.reverse.get? real).filter fun s' => !(s == s') := by
    intro hne
    cases hr : m.reverse.get? real with
    | none => rfl
    | some s' =>
      have hother : s ≠ s' := fun heq => hne (heq ▸ hr)
      rw [Option.filter_some, if_pos (by simp [hother])]
  unfold pop
  cases hs : m.forward.get? s with
  | none =>
    refine hstays fun hr => ?_
    have := hm real s hr
    rw [unwrap, hs] at this
    cases this
  | some real' =>
    dsimp only
    by_cases hr : m.reverse.get? real = some s
    · -- the surrogate is kept for the real handle behind it and for no other
      have hsame := hm real s hr
      rw [unwrap, hs] at hsame
      obtain rfl := Option.some.inj hsame
      rw [if_pos hr, Table.get?_erase_self, hr, Option.filter_some, if_neg (by simp)]
    · rw [← hstays hr]
      split
      · next hr' =>
        have hne : real' ≠ real := fun heq => hr (heq ▸ hr')
        rw [Table.get?_erase, if_neg hne]
      · rfl

end SurrogateMap

/-- Wrapping keeps the invariant. -/
theorem Faithful.wrap {h : List MapEvent} {m : SurrogateMap} (hf : Faithful h m)
    (real : Handle) (hlt : (m.wrap real).2.drawn < drawLimit) :
    Faithful (.wrapped real (m.wrap real).1 :: h) (m.wrap real).2 := by
  obtain ⟨n, hn, hzero, hreal, hwrap⟩ := m.exists_wrap_eq real
  rw [hwrap] at hlt ⊢
  rw [SurrogateMap.drawn_enter] at hlt
  refine hf.mint hn (by omega) hzero hreal rfl (fun _ => rfl) (fun _ => rfl) rfl ?_ ?_ ?_
  · intro s
    exact m.unwrap_enter n real s
  · intro r s
    simp [MapEvent.keeps, SurrogateMap.enter]
  · intro r s hkeeps
    simp [MapEvent.keeps] at hkeeps

/-- Asking for the kept surrogate keeps the invariant, whether one is kept or not. -/
theorem Faithful.wrapUnique {h : List MapEvent} {m : SurrogateMap} (hf : Faithful h m)
    (real : Handle) (hlt : (m.wrapUnique real).2.drawn < drawLimit) :
    Faithful
      (.wrappedUnique real (m.wrapUnique real).1 (m.drawn < (m.wrapUnique real).2.drawn) :: h)
      (m.wrapUnique real).2 := by
  cases hr : m.reverse.get? real with
  | some s =>
    have hwrap : m.wrapUnique real = (s, m) := by simp [SurrogateMap.wrapUnique, hr]
    simp only [hwrap, Nat.lt_irrefl, decide_false]
    exact hf.reuse hr
  | none =>
    obtain ⟨n, hn, hzero, hreal, hwrap⟩ := m.exists_wrap_eq real
    have hunique : m.wrapUnique real = (idAt n,
        { m.enter n real with reverse := m.reverse.insert real (idAt n) }) := by
      simp only [SurrogateMap.wrapUnique, hr, hwrap]
      rfl
    have hmints : m.drawn < n + 1 := by omega
    rw [hunique] at hlt ⊢
    dsimp only at hlt ⊢
    rw [SurrogateMap.drawn_enter] at hlt ⊢
    rw [decide_eq_true hmints]
    refine hf.mint hn (by omega) hzero hreal rfl (fun _ => rfl) (fun _ => rfl) rfl ?_ ?_ ?_
    · intro s
      exact m.unwrap_enter n real s
    · intro r s
      dsimp only
      rw [Table.get?_insert]
      by_cases heq : real = r
      · subst heq
        simp [MapEvent.keeps, hr]
      · simp [MapEvent.keeps, heq]
    · intro r s hkeeps
      simp only [MapEvent.keeps, Bool.and_eq_true, beq_iff_eq] at hkeeps
      exact ⟨hkeeps.1.symm, hkeeps.2.symm⟩

/-- **Every operation keeps the invariant**, unless the counter comes round. -/
theorem Faithful.perform {h : List MapEvent} {m : SurrogateMap} (hf : Faithful h m)
    (op : MapOp) (hlt : (op.perform m).2.drawn < drawLimit) :
    Faithful ((op.perform m).1 :: h) (op.perform m).2 := by
  cases op with
  | wrap real => exact hf.wrap real hlt
  | wrapUnique real => exact hf.wrapUnique real hlt
  | unwrap s =>
    refine hf.remove rfl (fun _ _ => rfl) rfl (fun _ => rfl) (fun r => ?_) fun s' hpop => ?_
    · cases hr : m.reverse.get? r <;>
        simp [MapOp.perform, MapEvent.removes, hr, Option.filter_some]
    · cases hpop
  | pop s =>
    refine hf.remove rfl (fun _ _ => rfl) (m.drawn_pop s) (fun s' => ?_) ?_ fun s' hpop => ?_
    · simp [MapOp.perform, MapEvent.removes]
    · exact SurrogateMap.reverse_pop hf.unwrap_of_reverse s
    · simp only [MapOp.perform, SurrogateMap.pop_fst] at hpop ⊢
      cases hs : m.unwrap s with
      | none => simp [hs, MapEvent.isPopOf] at hpop
      | some r =>
        simp only [hs, MapEvent.isPopOf, beq_iff_eq] at hpop
        subst hpop
        simp [MapEvent.removes, hs]
  | erase s =>
    refine hf.remove rfl (fun _ _ => rfl) (m.drawn_pop s) (fun s' => ?_) ?_ fun s' hpop => ?_
    · simp [MapOp.perform, MapEvent.removes]
    · exact SurrogateMap.reverse_pop hf.unwrap_of_reverse s
    · cases hpop
  | clear =>
    refine hf.remove rfl (fun _ _ => rfl) rfl (fun _ => rfl) (fun r => ?_) fun s hpop => ?_
    · simp [MapOp.perform, MapEvent.removes, SurrogateMap.clear]
    · cases hpop

/-! ### Whole runs -/

/-- The counter only advances. -/
theorem drawn_le_perform (m : SurrogateMap) (op : MapOp) :
    m.drawn ≤ (op.perform m).2.drawn := by
  have hwrap : ∀ real, m.drawn ≤ (m.wrap real).2.drawn := by
    intro real
    obtain ⟨n, hn, -, -, heq⟩ := m.exists_wrap_eq real
    rw [heq]
    exact Nat.le_succ_of_le hn
  cases op with
  | wrap real => exact hwrap real
  | wrapUnique real =>
    simp only [MapOp.perform, SurrogateMap.wrapUnique]
    split
    · exact Nat.le_refl _
    · exact hwrap real
  | unwrap s => exact Nat.le_refl _
  | pop s => exact Nat.le_of_eq (m.drawn_pop s).symm
  | erase s => exact Nat.le_of_eq (m.drawn_pop s).symm
  | clear => exact Nat.le_refl _

theorem drawn_le_runMapFrom (h : List MapEvent) (m : SurrogateMap) (ops : List MapOp) :
    m.drawn ≤ (runMapFrom h m ops).2.drawn := by
  induction ops generalizing h m with
  | nil => exact Nat.le_refl _
  | cons op ops ih => exact Nat.le_trans (drawn_le_perform m op) (ih _ _)

theorem Faithful.runMapFrom {h : List MapEvent} {m : SurrogateMap} (hf : Faithful h m)
    (ops : List MapOp) (hlt : (runMapFrom h m ops).2.drawn < drawLimit) :
    Faithful (runMapFrom h m ops).1 (runMapFrom h m ops).2 := by
  induction ops generalizing h m with
  | nil => exact hf
  | cons op ops ih =>
    have hop : (op.perform m).2.drawn < drawLimit :=
      Nat.lt_of_le_of_lt (drawn_le_runMapFrom _ _ ops) hlt
    exact ih (hf.perform op hop) hlt

/-- **The tables say what the history says**, after every run. -/
theorem faithful_runMap {ops : List MapOp} {h : List MapEvent} {m : SurrogateMap}
    (hrun : runMap ops = (h, m)) (hlt : m.drawn < drawLimit) : Faithful h m := by
  have hempty : Faithful [] SurrogateMap.empty := by
    refine ⟨by simp [StandsFor], by simp [KeptFor, SurrogateMap.empty],
      by simp [SurrogateMap.empty], ⟨[], by simp [minted]⟩, by simp [minted],
      fun s => .inl rfl⟩
  have hfinal := hempty.runMapFrom ops
  rw [runMap] at hrun
  rw [hrun] at hfinal
  exact hfinal hlt

/-! ### The theorem -/

/-- No surrogate is minted twice. -/
theorem Faithful.nodup {h : List MapEvent} {m : SurrogateMap} (hf : Faithful h m)
    (hlt : m.drawn < drawLimit) : ((minted h).map Prod.fst).Nodup := by
  obtain ⟨ns, hids, hsorted, hbound⟩ := hf.ids
  rw [hids]
  refine nodup_map_idAt (hsorted.imp fun hgt => Nat.ne_of_gt hgt) fun n hn => ?_
  exact Nat.lt_trans (hbound n hn) hlt

/-- A surrogate that was minted and removed does not stand for anything again, because it
is not minted again. -/
theorem not_standsFor_of_removed {newer older : List MapEvent} {s real : Handle}
    (hnodup : ((minted (newer ++ older)).map Prod.fst).Nodup)
    (hmem : s ∈ (minted older).map Prod.fst) (hgone : ¬ StandsFor s real older) :
    ¬ StandsFor s real (newer ++ older) := by
  induction newer with
  | nil => exact hgone
  | cons e newer ih =>
    rw [List.cons_append, minted, List.filterMap_cons] at hnodup
    rw [List.cons_append, standsFor_cons]
    rintro (hmint | ⟨-, hstands⟩)
    · have hagain : s ∈ (minted (newer ++ older)).map Prod.fst := by
        rw [minted, List.filterMap_append, List.map_append]
        exact List.mem_append_right _ hmem
      rw [hmint] at hnodup
      exact (List.nodup_cons.1 hnodup).1 hagain
    · refine ih ?_ hstands
      split at hnodup
      · exact hnodup
      · exact (List.nodup_cons.1 hnodup).2

/-- An event that removes a surrogate mints none. -/
theorem minted?_of_removes {e : MapEvent} {s : Handle} (he : e.removes s = true) :
    e.minted? = none := by
  cases e with
  | wrapped | wrappedUnique => cases he
  | _ => rfl

/-- **Surrogates over a whole run.**  As long as the counter has not come round:

* each minted surrogate is no null handle, differs from its real handle and from all
  others ever minted;
* a surrogate resolves to the real handle that it was minted for exactly until it is
  removed, so that it is popped at most once, and once removed it never resolves again;
* a kept surrogate resolves to its real handle and stays the same until it is removed
  itself, and only then is a fresh one minted. -/
theorem surrogates_of_run {ops : List MapOp} {history : List MapEvent} {m : SurrogateMap}
    (hrun : runMap ops = (history, m)) (hdrawn : m.drawn < drawLimit) :
    (((minted history).map Prod.fst).Nodup ∧ ∀ p ∈ minted history, p.1 ≠ 0 ∧ p.1 ≠ p.2) ∧
    ((∀ s real, m.unwrap s = some real ↔ StandsFor s real history) ∧
      (∀ s, popsOf s history ≤ 1) ∧
      ∀ newer e older s, history = newer ++ e :: older → e.removes s = true →
        s ∈ (minted older).map Prod.fst → m.unwrap s = none) ∧
    (∀ real s, m.reverse.get? real = some s → m.unwrap s = some real) ∧
    (∀ real s, KeptFor real s history → m.wrapUnique real = (s, m)) ∧
    ∀ real, (∀ s, ¬ KeptFor real s history) → (m.wrapUnique real).2.drawn < drawLimit →
      (m.wrapUnique real).1 ∉ (minted history).map Prod.fst ∧
        (m.wrapUnique real).1 ≠ 0 ∧ (m.wrapUnique real).1 ≠ real ∧
        (m.wrapUnique real).2.unwrap (m.wrapUnique real).1 = some real := by
  have hf := faithful_runMap hrun hdrawn
  refine ⟨⟨hf.nodup hdrawn, hf.proper⟩, ⟨hf.unwrap_iff, fun s => ?_, ?_⟩,
    hf.unwrap_of_reverse, fun real s hkept => ?_, fun real hnone hlt => ?_⟩
  · rcases hf.pops s with hzero | ⟨hone, -⟩ <;> omega
  · rintro newer e older s rfl hremoves hmem
    have hmint := minted?_of_removes hremoves
    rw [Option.eq_none_iff_forall_ne_some]
    intro real hreal
    refine not_standsFor_of_removed (hf.nodup hdrawn) ?_ ?_ ((hf.unwrap_iff s real).1 hreal)
    · rw [minted, List.filterMap_cons, hmint]
      exact hmem
    · rw [standsFor_cons, hmint]
      simp [hremoves]
  · have hreverse := (hf.reverse_iff real s).2 hkept
    simp [SurrogateMap.wrapUnique, hreverse]
  · have hreverse : m.reverse.get? real = none := by
      rw [Option.eq_none_iff_forall_ne_some]
      exact fun s hs => hnone s ((hf.reverse_iff real s).1 hs)
    have hwrap : (m.wrapUnique real).1 = (m.wrap real).1 ∧
        (m.wrapUnique real).2.drawn = (m.wrap real).2.drawn ∧
        (m.wrapUnique real).2.unwrap = (m.wrap real).2.unwrap := by
      unfold SurrogateMap.wrapUnique
      rw [hreverse]
      exact ⟨rfl, rfl, rfl⟩
    obtain ⟨hfst, hlast, hunwrap⟩ := hwrap
    -- the surrogate is what one more wrapping mints
    have hnext := hf.wrap real (hlast ▸ hlt)
    have hminted : minted (.wrapped real (m.wrap real).1 :: history)
        = ((m.wrap real).1, real) :: minted history := rfl
    have hnodup := hnext.nodup (hlast ▸ hlt)
    have hproper := hnext.proper
    rw [hminted] at hnodup hproper
    obtain ⟨hzero, hreal⟩ := hproper _ List.mem_cons_self
    rw [hfst, hunwrap]
    exact ⟨(List.nodup_cons.1 hnodup).1, hzero, hreal, m.unwrap_wrap real⟩

/-- A real handle with three surrogates: popping one leaves the kept one alone, which is
minted afresh after its own removal, and clearing the map forgets them all for good. -/
theorem surrogates_of_aliased_run :
    let ops : List MapOp := [.wrapUnique 7, .wrap 7, .pop (idAt 1), .wrapUnique 7,
      .erase (idAt 0), .wrapUnique 7, .clear, .wrap 7]
    (runMap ops).2.drawn < drawLimit ∧
      (minted (runMap ops).1).map Prod.fst = [idAt 3, idAt 2, idAt 1, idAt 0] ∧
      ((minted (runMap ops).1).map Prod.fst).Nodup ∧
      (runMap ops).2.unwrap (idAt 3) = some 7 ∧
      ∀ s ∈ [idAt 2, idAt 1, idAt 0], (runMap ops).2.unwrap s = none := by
  intro ops
  have hrun : runMap ops = ((runMap ops).1, (runMap ops).2) := rfl
  have hdrawn : (runMap ops).2.drawn < drawLimit := by decide +kernel
  obtain ⟨⟨hnodup, -⟩, ⟨-, -, hgone⟩, -⟩ := surrogates_of_run hrun hdrawn
  refine ⟨hdrawn, by decide +kernel, hnodup, by decide +kernel, fun s hs => ?_⟩
  have hminted :
      (minted ((runMap ops).1.drop 2)).map Prod.fst = [idAt 2, idAt 1, idAt 0] := by
    decide +kernel
  exact hgone [.wrapped 7 (idAt 3)] .cleared _ s (by decide +kernel) rfl (hminted ▸ hs)

end HandleLayer
