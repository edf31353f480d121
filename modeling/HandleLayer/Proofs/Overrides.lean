import Mathlib.Data.List.Basic
import HandleLayer.Settings.Environment

/-!
# Overriding settings

Two lists of names override the settings: the features of the first are switched off, those of
the second are switched on.  What a list says is told by its pieces, which are the texts between
its commas, and a piece is told by what is left of it without white space and in lower case.

Whether lists are accepted does not depend on the settings, and neither does what they say
about a feature; the lists that the settings keep may hold a feature twice or be at odds with
each other.  Several overrides in a row therefore come down to the last one that names the
feature.

## Main definitions

* `Text.IsPiece` — the pieces of a list, told by joining them again.
* `Settings.PieceNames`, `Settings.PieceUnknown` — what a piece says.
* `Settings.ListNames`, `Settings.FirstUnknown` — what a list says.
* `Settings.Overridden` — what two lists do to the features.
* `Settings.overrideInPlace`, `Settings.overrideAll` — the settings after one override and
  after several.

## Main results

* `Text.isPiece_iff` — the pieces are those that splitting finds.
* `Settings.isActive_foldl_switchOn`, `Settings.isActive_foldl_switchOff` — what switching
  many features does to one.
* `Settings.applyOverrides_cases` — lists are refused, or they take effect.
* `Settings.isActive_overrideAll` — what many overrides do to one feature.
* `Settings.overrides_decide_activity` — **the last override that names a feature decides about
  it, and a refused one does nothing.**
-/

namespace HandleLayer

/-! ### The pieces of a list -/

namespace Text

variable {s p : String} {pieces : List String}

/-- The texts between the commas of `s`: joined with commas they are `s`, and no comma is left
in them. -/
structure ArePieces (s : String) (pieces : List String) : Prop where
  /-- There is one piece more than commas. -/
  nonempty : pieces ≠ []
  /-- The pieces end at commas. -/
  no_comma : ∀ p ∈ pieces, ',' ∉ p.toList
  /-- Nothing else is lost. -/
  joined : ",".intercalate pieces = s

/-- One of the texts between the commas of `s`. -/
def IsPiece (s p : String) : Prop := ∃ pieces, ArePieces s pieces ∧ p ∈ pieces

theorem splitCommaChars_eq_splitOn (cs : List Char) : splitCommaChars cs = cs.splitOn ',' := by
  induction cs with
  | nil => rfl
  | cons c cs ih =>
    rw [splitCommaChars, ih, List.splitOn_cons_eq_if_modifyHead]
    by_cases hc : c = ','
    · simp [hc]
    · cases hrest : cs.splitOn ',' with
      | nil => exact absurd hrest (List.splitOn_ne_nil ',' cs)
      | cons piece pieces => simp [hc]

theorem comma_notMem_of_mem_splitCommaChars {cs piece : List Char}
    (h : piece ∈ splitCommaChars cs) : ',' ∉ piece := by
  induction cs generalizing piece with
  | nil => simp_all [splitCommaChars]
  | cons c cs ih =>
    rw [splitCommaChars] at h
    by_cases hc : c = ','
    · rw [if_pos hc, List.mem_cons] at h
      rcases h with rfl | h
      · exact List.not_mem_nil
      · exact ih h
    · rw [if_neg hc] at h
      split at h
      · rw [List.mem_singleton.1 h, List.mem_singleton]
        exact Ne.symm hc
      · next first rest hrest =>
        rw [hrest] at ih
        rcases List.mem_cons.1 h with rfl | h
        · exact fun hmem => ih List.mem_cons_self ((List.mem_cons.1 hmem).resolve_left (Ne.symm hc))
        · exact ih (List.mem_cons_of_mem _ h)

theorem map_toList_splitCommas (s : String) :
    (splitCommas s).map String.toList = s.toList.splitOn ',' := by
  rw [splitCommas, List.map_map, ← splitCommaChars_eq_splitOn]
  exact List.map_id'' (fun _ => String.toList_ofList) _

/-- Splitting finds pieces. -/
theorem arePieces_splitCommas (s : String) : ArePieces s (splitCommas s) where
  nonempty := by
    intro hnil
    have hchars := map_toList_splitCommas s
    rw [hnil] at hchars
    exact List.splitOn_ne_nil _ _ hchars.symm
  no_comma := by
    intro p hp
    obtain ⟨piece, hpiece, rfl⟩ := List.mem_map.1 hp
    rw [String.toList_ofList]
    exact comma_notMem_of_mem_splitCommaChars hpiece
  joined := by
    refine String.toList_injective ?_
    rw [String.toList_intercalate, map_toList_splitCommas]
    exact List.intercalate_splitOn ','

/-- **A text has its pieces in one way only.** -/
theorem ArePieces.eq_splitCommas (h : ArePieces s pieces) : pieces = splitCommas s := by
  have hchars : s.toList.splitOn ',' = pieces.map String.toList := by
    rw [← h.joined, String.toList_intercalate]
    refine List.splitOn_intercalate ',' ?_ (by simpa using h.nonempty)
    simpa using h.no_comma
  rw [← map_toList_splitCommas] at hchars
  exact (List.map_injective_iff.2 (fun _ _ => String.toList_injective) hchars).symm

theorem isPiece_iff : IsPiece s p ↔ p ∈ splitCommas s := by
  constructor
  · rintro ⟨pieces, hpieces, hp⟩
    exact hpieces.eq_splitCommas ▸ hp
  · exact fun hp => ⟨_, arePieces_splitCommas s, hp⟩

end Text

namespace Feature

variable {s : String} {f : Feature}

theorem ofName?_eq_some_iff : ofName? s = some f ↔ s = f.name := by
  constructor
  · intro h
    have hname := List.find?_some h
    exact (eq_of_beq hname).symm
  · rintro rfl
    cases f <;> decide

theorem ofName?_eq_none_iff : ofName? s = none ↔ ∀ f : Feature, s ≠ f.name := by
  rw [Option.eq_none_iff_forall_ne_some]
  exact forall_congr' fun f => not_congr ofName?_eq_some_iff

end Feature

namespace Settings

variable {s s' : Settings} {f : Feature} {p d e list : String}

/-! ### What a list says -/

/-- The piece `p` names `f`: without the white space around it and in lower case it is the name
of `f`. -/
def PieceNames (p : String) (f : Feature) : Prop := Text.lowerAscii (Text.trim p) = f.name

/-- The piece `p` is not blank and names no feature. -/
def PieceUnknown (p : String) : Prop := Text.trim p ≠ "" ∧ ∀ f, ¬ PieceNames p f

/-- Some piece of the list names `f`. -/
def ListNames (list : String) (f : Feature) : Prop := ∃ p, Text.IsPiece list p ∧ PieceNames p f

/-- Every piece of the list is blank or names a feature. -/
def ListKnown (list : String) : Prop := ∀ p, Text.IsPiece list p → ¬ PieceUnknown p

/-- The first piece of the list that is not blank and names no feature is `p`. -/
def FirstUnknown (list p : String) : Prop :=
  ∃ before after, Text.ArePieces list (before ++ p :: after) ∧ PieceUnknown p ∧
    ∀ q ∈ before, ¬ PieceUnknown q

theorem listNames_iff : ListNames list f ↔ ∃ p ∈ Text.splitCommas list, PieceNames p f :=
  exists_congr fun _ => and_congr_left fun _ => Text.isPiece_iff

theorem listKnown_iff : ListKnown list ↔ ∀ p ∈ Text.splitCommas list, ¬ PieceUnknown p :=
  forall_congr' fun _ => imp_congr_left Text.isPiece_iff

/-- A list with an unknown piece is not known. -/
theorem FirstUnknown.not_listKnown (h : FirstUnknown list p) : ¬ ListKnown list := by
  obtain ⟨before, after, hpieces, hunknown, -⟩ := h
  exact fun hknown => hknown p ⟨_, hpieces, by simp⟩ hunknown

/-- Only one piece is the first unknown one. -/
theorem FirstUnknown.unique {p' : String} (h : FirstUnknown list p) (h' : FirstUnknown list p') :
    p' = p := by
  obtain ⟨before, after, hpieces, hunknown, hbefore⟩ := h
  obtain ⟨before', after', hpieces', hunknown', hbefore'⟩ := h'
  have hsame := hpieces.eq_splitCommas.trans hpieces'.eq_splitCommas.symm
  rcases List.append_eq_append_iff.1 hsame with ⟨more, rfl, hrest⟩ | ⟨more, rfl, hrest⟩
  · cases more with
    | nil => exact (List.cons.inj hrest).1.symm
    | cons q more =>
      obtain ⟨rfl, -⟩ := List.cons.inj hrest
      exact absurd hunknown (hbefore' p (by simp))
  · cases more with
    | nil => exact (List.cons.inj hrest).1
    | cons q more =>
      obtain ⟨rfl, -⟩ := List.cons.inj hrest
      exact absurd hunknown' (hbefore p' (by simp))

/-- The first unknown piece of the first list is `p`, or of the second one if the first one has
none. -/
def FirstUnknownOf (d e p : String) : Prop :=
  FirstUnknown d p ∨ ListKnown d ∧ FirstUnknown e p

theorem FirstUnknownOf.not_listKnown (h : FirstUnknownOf d e p) : ¬ (ListKnown d ∧ ListKnown e) :=
  fun ⟨hd, he⟩ => h.elim (fun hp => hp.not_listKnown hd) fun hp => hp.2.not_listKnown he

theorem FirstUnknownOf.unique {p' : String} (h : FirstUnknownOf d e p)
    (h' : FirstUnknownOf d e p') : p' = p := by
  rcases h with hp | ⟨hd, hp⟩
  · rcases h' with hp' | ⟨hd', -⟩
    · exact hp.unique hp'
    · exact absurd hd' hp.not_listKnown
  · rcases h' with hp' | ⟨-, hp'⟩
    · exact absurd hd hp'.not_listKnown
    · exact hp.unique hp'

theorem not_pieceNames_of_blank (h : Text.trim p = "") : ¬ PieceNames p f := by
  rw [PieceNames, h]
  cases f <;> decide

/-- The feature that a piece stands for, or the error for it. -/
theorem parseFeature_cases (p : String) :
    (∃ f, PieceNames p f ∧ parseFeature p = .ok f) ∨
    ((∀ f, ¬ PieceNames p f) ∧ parseFeature p = .error (.unknownSetting (Text.trim p))) := by
  cases hparse : Feature.parse? p with
  | some f => exact .inl ⟨f, Feature.ofName?_eq_some_iff.1 hparse, by rw [parseFeature, hparse]⟩
  | none => exact .inr ⟨Feature.ofName?_eq_none_iff.1 hparse, by rw [parseFeature, hparse]⟩

theorem PieceNames.unique {f' : Feature} (h : PieceNames p f) (h' : PieceNames p f') : f' = f := by
  have hname := Feature.ofName?_eq_some_iff.2 h
  exact Option.some.inj ((Feature.ofName?_eq_some_iff.2 h').symm.trans hname)

/-- **Reading the pieces of a list** stops at the first unknown one, or finds the features that
they name. -/
theorem parseList_go_cases (pieces : List String) :
    (∃ fs, parseList.go pieces = .ok fs ∧ (∀ p ∈ pieces, ¬ PieceUnknown p) ∧
      ∀ f, f ∈ fs ↔ ∃ p ∈ pieces, PieceNames p f) ∨
    ∃ before p after, pieces = before ++ p :: after ∧ PieceUnknown p ∧
      (∀ q ∈ before, ¬ PieceUnknown q) ∧
      parseList.go pieces = .error (.unknownSetting (Text.trim p)) := by
  induction pieces with
  | nil => exact .inl ⟨[], rfl, by simp, by simp⟩
  | cons piece pieces ih =>
    by_cases hblank : Text.trim piece = ""
    · have hgo : parseList.go (piece :: pieces) = parseList.go pieces := by
        rw [parseList.go, if_pos hblank]
      have hknown : ¬ PieceUnknown piece := fun h => h.1 hblank
      rw [hgo]
      rcases ih with ⟨fs, hok, hall, hfs⟩ | ⟨before, p, after, rfl, hp, hbefore, herr⟩
      · refine .inl ⟨fs, hok, by simpa [hknown] using hall, fun f => ?_⟩
        simpa [not_pieceNames_of_blank hblank] using hfs f
      · exact .inr ⟨piece :: before, p, after, rfl, hp, by simpa [hknown] using hbefore, herr⟩
    · rcases parseFeature_cases piece with ⟨f, hf, hparse⟩ | ⟨hnone, hparse⟩
      · have hknown : ¬ PieceUnknown piece := fun h => h.2 f hf
        rcases ih with ⟨fs, hok, hall, hfs⟩ | ⟨before, p, after, rfl, hp, hbefore, herr⟩
        · refine .inl ⟨f :: fs, ?_, by simpa [hknown] using hall, fun f' => ?_⟩
          · simp only [parseList.go, if_neg hblank, hparse, hok]
          · have hpiece : PieceNames piece f' ↔ f' = f := ⟨hf.unique, fun h => h ▸ hf⟩
            simp [hfs, hpiece]
        · refine .inr ⟨piece :: before, p, after, rfl, hp, by simpa [hknown] using hbefore, ?_⟩
          simp only [parseList.go, if_neg hblank, hparse, herr]
      · refine .inr ⟨[], piece, pieces, rfl, ⟨hblank, hnone⟩, by simp, ?_⟩
        simp only [parseList.go, if_neg hblank, hparse]

/-- **Reading a list** ends with the first unknown piece, or with the features that it names. -/
theorem parseList_cases (list : String) :
    (∃ fs, parseList list = .ok fs ∧ ListKnown list ∧ ∀ f, f ∈ fs ↔ ListNames list f) ∨
    ∃ p, FirstUnknown list p ∧ parseList list = .error (.unknownSetting (Text.trim p)) := by
  have hpieces := Text.arePieces_splitCommas list
  rcases parseList_go_cases (Text.splitCommas list) with
    ⟨fs, hok, hall, hfs⟩ | ⟨before, p, after, hsplit, hp, hbefore, herr⟩
  · exact .inl ⟨fs, hok, listKnown_iff.2 hall, fun f => (hfs f).trans listNames_iff.symm⟩
  · exact .inr ⟨p, ⟨before, after, hsplit ▸ hpieces, hp, hbefore⟩, herr⟩

/-! ### Switching features -/

theorem isActive_switchOn (s : Settings) (g f : Feature) :
    (s.switchOn g).isActive f = (f == g || s.isActive f) := by
  by_cases hfg : f = g
  · subst hfg
    by_cases hon : s.enables.contains f <;> simp_all [isActive, switchOn, addOnce]
  · by_cases hon : s.enables.contains g <;> simp_all [isActive, switchOn, addOnce]

theorem isActive_switchOff (s : Settings) (g f : Feature) :
    (s.switchOff g).isActive f = (f != g && s.isActive f) := by
  by_cases hfg : f = g
  · subst hfg
    by_cases hoff : s.disables.contains f <;> simp_all [isActive, switchOff, addOnce]
  · by_cases hoff : s.disables.contains g <;> simp_all [isActive, switchOff, addOnce]

/-- **Switching features on** changes no other feature, in whatever order and how often. -/
theorem isActive_foldl_switchOn (s : Settings) (gs : List Feature) (f : Feature) :
    (gs.foldl switchOn s).isActive f = (gs.contains f || s.isActive f) := by
  induction gs generalizing s with
  | nil => simp
  | cons g gs ih =>
    rw [List.foldl_cons, ih, isActive_switchOn, List.contains_cons]
    cases f == g <;> cases gs.contains f <;> rfl

/-- **Switching features off** changes no other feature, in whatever order and how often. -/
theorem isActive_foldl_switchOff (s : Settings) (gs : List Feature) (f : Feature) :
    (gs.foldl switchOff s).isActive f = (!gs.contains f && s.isActive f) := by
  induction gs generalizing s with
  | nil => simp
  | cons g gs ih =>
    rw [List.foldl_cons, ih, isActive_switchOff, List.contains_cons, bne]
    cases f == g <;> cases gs.contains f <;> rfl

theorem logFilter_foldl_switchOn (s : Settings) (gs : List Feature) :
    (gs.foldl switchOn s).logFilter = s.logFilter :=
  List.foldlRecOn (motive := fun s' : Settings => s'.logFilter = s.logFilter) gs switchOn rfl
    fun _ h _ _ => h

theorem logFilter_foldl_switchOff (s : Settings) (gs : List Feature) :
    (gs.foldl switchOff s).logFilter = s.logFilter :=
  List.foldlRecOn (motive := fun s' : Settings => s'.logFilter = s.logFilter) gs switchOff rfl
    fun _ h _ _ => h

/-- A loop over features that changes the settings at each of them. -/
theorem run_forM_modify (change : Settings → Feature → Settings) (gs : List Feature)
    (s : Settings) :
    (gs.forM fun g =>
        (modify (change · g) : ExceptT SettingsError (StateM Settings) Unit)).run.run s
      = (.ok (), gs.foldl change s) := by
  induction gs generalizing s with
  | nil => rfl
  | cons g gs ih => exact ih (change s g)

/-! ### One override -/

/-- What two lists do to the activity of the features: the first switches off, the second
switches on, the first wins, and features that neither names stay as they are. -/
structure Overridden (s : Settings) (d e : String) (s' : Settings) : Prop where
  /-- A feature that the first list names is off. -/
  off : ∀ f, ListNames d f → s'.isActive f = false
  /-- A feature that only the second list names is on. -/
  on : ∀ f, ListNames e f → ¬ ListNames d f → s'.isActive f = true
  /-- Any other feature is as before. -/
  kept : ∀ f, ¬ ListNames d f → ¬ ListNames e f → s'.isActive f = s.isActive f
  /-- The log is filtered as before. -/
  logFilter : s'.logFilter = s.logFilter

/-- Lists that can be read are applied one after the other. -/
theorem run_applyOverrides {off on : List Feature} (hoff : parseList d = .ok off)
    (hon : parseList e = .ok on) (s : Settings) :
    (applyOverrides d e).run.run s = (.ok (), off.foldl switchOff (on.foldl switchOn s)) := by
  have happly : (applyOverrides d e).run.run s = (do
      on.forM fun g => modify (switchOn · g)
      off.forM fun g => modify (switchOff · g) :
        ExceptT SettingsError (StateM Settings) Unit).run.run s := by
    unfold applyOverrides
    rw [hoff, hon]
    rfl
  rw [happly, ExceptT.run_bind, StateT.run_bind, run_forM_modify]
  exact run_forM_modify switchOff off _

/-- **An override is refused or takes effect**, and which of the two does not depend on the
settings.  One that is refused leaves them alone. -/
theorem applyOverrides_cases (s : Settings) (d e : String) :
    (∃ s', (applyOverrides d e).run.run s = (.ok (), s') ∧ ListKnown d ∧ ListKnown e ∧
      s.Overridden d e s') ∨
    ∃ p, (applyOverrides d e).run.run s = (.error (.unknownSetting (Text.trim p)), s) ∧
      FirstUnknownOf d e p := by
  rcases parseList_cases d with ⟨off, hoff, hknownOff, hoffNames⟩ | ⟨p, hp, herr⟩
  · rcases parseList_cases e with ⟨on, hon, hknownOn, honNames⟩ | ⟨p, hp, herr⟩
    · refine .inl ⟨_, run_applyOverrides hoff hon s, hknownOff, hknownOn, ?_⟩
      · have hactive : ∀ f, (off.foldl switchOff (on.foldl switchOn s)).isActive f
            = (!off.contains f && (on.contains f || s.isActive f)) := fun f => by
          rw [isActive_foldl_switchOff, isActive_foldl_switchOn]
        have hoffIff : ∀ f, off.contains f = true ↔ ListNames d f := fun f =>
          List.contains_iff_mem.trans (hoffNames f)
        have honIff : ∀ f, on.contains f = true ↔ ListNames e f := fun f =>
          List.contains_iff_mem.trans (honNames f)
        refine ⟨fun f hf => ?_, fun f hf hnot => ?_, fun f hnot hnot' => ?_, ?_⟩
        · rw [hactive, (hoffIff f).2 hf]
          rfl
        · rw [← hoffIff, Bool.not_eq_true] at hnot
          rw [hactive, hnot, (honIff f).2 hf]
          rfl
        · rw [← hoffIff, Bool.not_eq_true] at hnot
          rw [← honIff, Bool.not_eq_true] at hnot'
          rw [hactive, hnot, hnot']
          rfl
        · rw [logFilter_foldl_switchOff, logFilter_foldl_switchOn]
    · exact .inr ⟨p, by unfold applyOverrides; rw [hoff, herr]; rfl, .inr ⟨hknownOff, hp⟩⟩
  · exact .inr ⟨p, by unfold applyOverrides; rw [herr]; rfl, .inl hp⟩

/-- Settings that lists have overridden are changed in no feature by the same lists. -/
theorem Overridden.again {s'' : Settings} (h : s.Overridden d e s')
    (h' : s'.Overridden d e s'') (f : Feature) : s''.isActive f = s'.isActive f := by
  by_cases hoff : ListNames d f
  · rw [h.off f hoff, h'.off f hoff]
  · by_cases hon : ListNames e f
    · rw [h.on f hon hoff, h'.on f hon hoff]
    · exact h'.kept f hoff hon

/-! ### Overrides in a row -/

/-- The settings after an override, whatever its result is. -/
def overrideInPlace (s : Settings) (lists : String × String) : Settings :=
  ((applyOverrides lists.1 lists.2).run.run s).2

/-- The settings after several overrides. -/
def overrideAll (s : Settings) (overrides : List (String × String)) : Settings :=
  overrides.foldl overrideInPlace s

/-- This is how the settings of an instance are overridden. -/
theorem settings_eq_overrideInPlace (env : Environment) :
    env.settings.1 = (env.loadOrDefault env.configPath).1.overrideInPlace
      ((env.value? disablesVariable).getD "", (env.value? enablesVariable).getD "") := by
  unfold Environment.settings overrideInPlace
  dsimp only
  generalize (applyOverrides _ _).run.run (env.loadOrDefault env.configPath).1 = u
  obtain ⟨result, after⟩ := u
  cases result <;> rfl

/-- The lists of an override are accepted, and one of them names `f`. -/
def Decides (lists : String × String) (f : Feature) : Prop :=
  ListKnown lists.1 ∧ ListKnown lists.2 ∧ (ListNames lists.1 f ∨ ListNames lists.2 f)

/-- The last override that is accepted and names `f` is `lists`. -/
def DecidesLast (overrides : List (String × String)) (lists : String × String) (f : Feature) :
    Prop :=
  ∃ before after, overrides = before ++ lists :: after ∧ Decides lists f ∧
    ∀ later ∈ after, ¬ Decides later f

theorem applyOverrides_of_known (s : Settings) (hd : ListKnown d) (he : ListKnown e) :
    ∃ s', (applyOverrides d e).run.run s = (.ok (), s') ∧ s.Overridden d e s' := by
  rcases s.applyOverrides_cases d e with ⟨s', hok, -, -, heffect⟩ | ⟨p, -, hp⟩
  · exact ⟨s', hok, heffect⟩
  · exact absurd ⟨hd, he⟩ hp.not_listKnown

/-- An override that decides about `f` does so whatever the settings are. -/
theorem isActive_overrideInPlace_of_decides {lists : String × String} (s : Settings)
    (h : Decides lists f) :
    (s.overrideInPlace lists).isActive f = true ↔ ¬ ListNames lists.1 f := by
  obtain ⟨hd, he, hnames⟩ := h
  obtain ⟨s', hok, heffect⟩ := s.applyOverrides_of_known hd he
  rw [overrideInPlace, hok]
  dsimp only
  by_cases hoff : ListNames lists.1 f
  · simp [heffect.off f hoff, hoff]
  · simp [heffect.on f (hnames.resolve_left hoff) hoff, hoff]

/-- Any other override leaves `f` as it is. -/
theorem isActive_overrideInPlace_of_not_decides {lists : String × String} (s : Settings)
    (h : ¬ Decides lists f) : (s.overrideInPlace lists).isActive f = s.isActive f := by
  rw [overrideInPlace]
  rcases s.applyOverrides_cases lists.1 lists.2 with ⟨s', hok, hd, he, heffect⟩ | ⟨p, herr, -⟩
  · rw [hok]
    have hnames : ¬ (ListNames lists.1 f ∨ ListNames lists.2 f) := fun hor => h ⟨hd, he, hor⟩
    exact heffect.kept f (fun hoff => hnames (.inl hoff)) fun hon => hnames (.inr hon)
  · rw [herr]

/-- **After any overrides** a feature is as the last one says that is accepted and names it, or
as it was if there is none. -/
theorem isActive_overrideAll (s : Settings) (overrides : List (String × String)) (f : Feature) :
    (∃ lists, DecidesLast overrides lists f ∧
      ((s.overrideAll overrides).isActive f = true ↔ ¬ ListNames lists.1 f)) ∨
    (∀ lists ∈ overrides, ¬ Decides lists f) ∧
      (s.overrideAll overrides).isActive f = s.isActive f := by
  induction overrides generalizing s with
  | nil => exact .inr ⟨by simp, rfl⟩
  | cons lists overrides ih =>
    rcases ih (s.overrideInPlace lists) with
      ⟨last, ⟨before, after, rfl, hlast, hafter⟩, hactive⟩ | ⟨hnone, hactive⟩
    · exact .inl ⟨last, ⟨lists :: before, after, rfl, hlast, hafter⟩, hactive⟩
    · by_cases hlists : Decides lists f
      · refine .inl ⟨lists, ⟨[], overrides, rfl, hlists, hnone⟩, ?_⟩
        rw [overrideAll, List.foldl_cons, ← overrideAll, hactive]
        exact isActive_overrideInPlace_of_decides s hlists
      · refine .inr ⟨by simpa [hlists] using hnone, hactive.trans ?_⟩
        exact isActive_overrideInPlace_of_not_decides s hlists

/-- **Overrides decide which features are active.**  Two lists are refused if and only if one of
their pieces is unknown; the error names the first unknown piece of the first list, or else of
the second one, and nothing is changed.  Otherwise the features that the first list names are
off, those that only the second one names are on, and nothing else is changed; the same lists
are accepted again and change no feature.

After any overrides a feature is as the last accepted override that names it says, or as it was
if there is none. -/
theorem overrides_decide_activity :
    (∀ (s : Settings) (d e : String),
      let u := (applyOverrides d e).run.run s
      ((∃ cause, u.1 = .error cause) ↔
        ∃ p, (Text.IsPiece d p ∨ Text.IsPiece e p) ∧ PieceUnknown p) ∧
      (∀ cause, u.1 = .error cause ↔
        ∃ p, FirstUnknownOf d e p ∧ cause = .unknownSetting (Text.trim p)) ∧
      (∀ cause, u.1 = .error cause → u.2 = s ∧ s.override d e = .error cause) ∧
      (u.1 = .ok () →
        s.override d e = .ok u.2 ∧ s.Overridden d e u.2 ∧
          let again := (applyOverrides d e).run.run u.2
          again.1 = .ok () ∧ again.2.logFilter = u.2.logFilter ∧
            ∀ f, again.2.isActive f = u.2.isActive f)) ∧
    ∀ (s : Settings) (overrides : List (String × String)) (f : Feature),
      (∃ lists, DecidesLast overrides lists f ∧
        ((s.overrideAll overrides).isActive f = true ↔ ¬ ListNames lists.1 f)) ∨
      (∀ lists ∈ overrides, ¬ Decides lists f) ∧
        (s.overrideAll overrides).isActive f = s.isActive f := by
  refine ⟨fun s d e => ?_, isActive_overrideAll⟩
  have hoverride : s.override d e
      = ((applyOverrides d e).run.run s).1.map fun _ => ((applyOverrides d e).run.run s).2 := rfl
  rw [hoverride]
  rcases s.applyOverrides_cases d e with ⟨s', hok, hd, he, heffect⟩ | ⟨p, herr, hp⟩
  · obtain ⟨s'', hok', heffect'⟩ := s'.applyOverrides_of_known hd he
    have hnone : ∀ cause, (Except.ok () : Except SettingsError Unit) ≠ .error cause :=
      fun _ h => nomatch h
    rw [hok]
    refine ⟨iff_of_false (fun ⟨cause, h⟩ => hnone cause h) ?_,
      fun cause => iff_of_false (hnone cause) ?_, fun cause h => absurd h (hnone cause),
      fun _ => ⟨rfl, heffect, ?_⟩⟩
    · rintro ⟨p, hp, hunknown⟩
      exact hp.elim (fun hp => hd p hp hunknown) fun hp => he p hp hunknown
    · rintro ⟨p, hp, -⟩
      exact hp.not_listKnown ⟨hd, he⟩
    · rw [hok']
      exact ⟨rfl, heffect'.logFilter, heffect.again heffect'⟩
  · rw [herr]
    refine ⟨iff_of_true ⟨_, rfl⟩ ?_, fun cause => ⟨fun h => ⟨p, hp, (Except.error.inj h).symm⟩, ?_⟩,
      fun cause h => ⟨rfl, congrArg (Except.map _) h⟩, fun h => nomatch h⟩
    · by_contra hnone
      refine hp.not_listKnown ⟨fun q hq hunknown => ?_, fun q hq hunknown => ?_⟩
      · exact hnone ⟨q, .inl hq, hunknown⟩
      · exact hnone ⟨q, .inr hq, hunknown⟩
    · rintro ⟨q, hq, rfl⟩
      rw [hp.unique hq]

/-- Settings at odds with themselves, first with lists that hold blank pieces and capital letters
and share a feature, then with lists of which the second one has two unknown pieces. -/
theorem overrides_of_contradictory_settings :
    let s : Settings := ⟨[.gpuAssisted, .coreChecks], [.gpuAssisted, .coreChecks], "debug"⟩
    let s' : Settings := ⟨[.gpuAssisted, .handleWrapping, .coreChecks],
      [.gpuAssisted, .bestPractices], "debug"⟩
    s.override " Handle_Wrapping ,,core_checks" "best_practices,core_checks" = .ok s' ∧
      s.Overridden " Handle_Wrapping ,,core_checks" "best_practices,core_checks" s' ∧
      s.override "core_checks" "gpu_assisted, Bogus ,nonsense" = .error (.unknownSetting "Bogus") ∧
      s.overrideInPlace ("core_checks", "gpu_assisted, Bogus ,nonsense") = s := by
  intro s s'
  have hok : (applyOverrides " Handle_Wrapping ,,core_checks"
      "best_practices,core_checks").run.run s = (.ok (), s') := by
    rfl
  have herr : ((applyOverrides "core_checks" "gpu_assisted, Bogus ,nonsense").run.run s).1
      = .error (.unknownSetting "Bogus") := by
    rfl
  obtain ⟨-, -, -, heffect⟩ :=
    overrides_decide_activity.1 s " Handle_Wrapping ,,core_checks" "best_practices,core_checks"
  obtain ⟨-, -, hkept, -⟩ :=
    overrides_decide_activity.1 s "core_checks" "gpu_assisted, Bogus ,nonsense"
  rw [hok] at heffect
  obtain ⟨hoverride, hoverridden, -⟩ := heffect rfl
  obtain ⟨hsame, hrefused⟩ := hkept _ herr
  exact ⟨hoverride, hoverridden, hrefused, hsame⟩

end Settings

end HandleLayer
