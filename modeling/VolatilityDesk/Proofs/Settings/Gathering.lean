import VolatilityDesk.Proofs.Settings.Field
import VolatilityDesk.Settings.Load
/-!
# Gathering the settings

The sources are read first (`gathered`), and the settings are taken from what they give, one after
the other. Without complaints every setting is the one that its first source gives, or stays as it
was (`Takes`), and the settings are accepted when they do not conflict: `build_eq_ok_iff`. A clock
time that ends the reading does so whatever the settings before it are, so the first one decides:
`fault?_draft`.

* `build_eq_ok_iff` — the settings that are accepted.
* `fault?_draft` — the clock time that ends the reading.
-/

namespace VolatilityDesk

namespace Fallible

variable {ε α σ : Type}

/-- Where it does not depend on the state whether a step fails, a run of steps fails as the first
step that fails. -/
theorem fault?_foldlM {step : σ → α → Except ε σ} {fails : α → Option ε} {items : List α}
    (each : ∀ a ∈ items, ∀ s, fault? (step s a) = fails a) (s : σ) :
    fault? (items.foldlM step s) = items.findSome? fails := by
  induction items generalizing s with
  | nil => rfl
  | cons a rest ih =>
    have here := each a (.head _) s
    rw [List.foldlM_cons, List.findSome?_cons, ← here]
    cases stepped : step s a with
    | error fault => rfl
    | ok next => exact ih (fun b member => each b (.tail _ member)) next

end Fallible

theorem findSome?_filter {α β : Type} (p : α → Prop) [DecidablePred p] (g : α → Option β)
    (items : List α) : (items.filter (p ·)).findSome? g =
      items.findSome? fun a => if p a then g a else none := by
  induction items with
  | nil => rfl
  | cons a rest ih =>
    by_cases holds : p a
    · simp [holds, List.findSome?_cons, ih]
    · simp [holds, ih]

namespace Settings

open Fallible

variable {given : List (String × Json)} {unknown : List String} {f : Field} {fields : List Field}
  {s s' : Settings} {d d' : Draft}

/-! ### The sources -/

/-- What the sources give, the first of a name counting, and the names that belong to no setting. -/
def gathered (keywords : List (String × Json)) (around : Surroundings) :
    Except SettingsFault (List (String × Json) × List String) := do
  let named := lowerNames (around.environment.map fun (name, value) => (name, some value))
  let assigned := lowerNames <| ((around.file.map (DotEnv.read around.environment)).getD []).map
    fun a => (a.name, a.value)
  let fromEnvironment ← allGivenBy .environment named
  let fromFile ← allGivenBy .file assigned
  return (keywords ++ fromEnvironment ++ fromFile,
    unknownNames assigned ++ (keywords.map (·.1)).filter (!Field.names.contains ·))

theorem load_eq (keywords : List (String × Json)) (around : Surroundings) :
    load keywords around =
      gathered keywords around >>= fun sources => build sources.1 sources.2 := by
  unfold load gathered
  dsimp only
  cases allGivenBy .environment _ with
  | error fault => rfl
  | ok fromEnvironment =>
    cases allGivenBy .file _ with
    | error fault => rfl
    | ok fromFile => rfl

/-! ### One setting after the other -/

/-- The settings take what is given for them, without complaints. -/
inductive Takes (given : List (String × Json)) : List Field → Settings → Settings → Prop where
  | done {s : Settings} : Takes given [] s s
  | absent {f : Field} {fields : List Field} {s s' : Settings} (absent : given.lookup f.name = none)
      (rest : Takes given fields s s') : Takes given (f :: fields) s s'
  | taken {f : Field} {fields : List Field} {value : Json} {s next s' : Settings}
      (found : given.lookup f.name = some value) (set : f.set value s = .ok next)
      (rest : Takes given fields next s') : Takes given (f :: fields) s s'

/-- A property that every setting keeps when it takes a value is kept by all of them. -/
theorem Takes.keeps {P : Settings → Prop} (takes : Takes given fields s s')
    (each : ∀ f ∈ fields, ∀ value s s', f.set value s = .ok s' → P s → P s') (start : P s) :
    P s' := by
  induction takes with
  | done => exact start
  | absent _ _ ih => exact ih (fun f member => each f (.tail _ member)) start
  | taken _ set _ ih =>
    exact ih (fun f member => each f (.tail _ member)) (each _ (.head _) _ _ _ set start)

/-- A setting that is not taken leaves a complaint, and complaints stay. -/
theorem clean_of_applyField (made : f.Made) (applied : applyField given d f = .ok d')
    (clean : d'.complaints = []) : d.complaints = [] ∧
      (given.lookup f.name = none ∧ d'.settings = d.settings ∨
        ∃ value, given.lookup f.name = some value ∧ f.set value d.settings = .ok d'.settings) := by
  unfold applyField at applied
  cases found : given.lookup f.name with
  | none =>
    rw [found] at applied
    cases applied
    exact ⟨clean, .inl ⟨rfl, rfl⟩⟩
  | some value =>
    rw [found] at applied
    dsimp only at applied
    split at applied
    · rename_i next set
      cases applied
      exact ⟨clean, .inr ⟨value, rfl, set⟩⟩
    · rename_i complaints refused
      cases applied
      obtain ⟨-, silent⟩ := List.append_eq_nil_iff.mp clean
      rw [List.map_eq_nil_iff] at silent
      exact absurd (silent ▸ refused) (made.set_ne_no_complaints value d.settings)
    · cases applied

theorem takes_of_draft (made : ∀ f ∈ fields, f.Made)
    (drafted : fields.foldlM (applyField given) d = .ok d') (clean : d'.complaints = []) :
    d.complaints = [] ∧ Takes given fields d.settings d'.settings := by
  induction fields generalizing d with
  | nil =>
    cases drafted
    exact ⟨clean, .done⟩
  | cons f rest ih =>
    rw [List.foldlM_cons] at drafted
    obtain ⟨next, applied, others⟩ := bind_eq_ok_iff.mp drafted
    obtain ⟨between, takes⟩ := ih (fun g member => made g (.tail _ member)) others
    obtain ⟨start, ⟨absent, same⟩ | ⟨value, found, set⟩⟩ :=
      clean_of_applyField (made f (.head _)) applied between
    · rw [same] at takes
      exact ⟨start, .absent absent takes⟩
    · exact ⟨start, .taken found set takes⟩

theorem draft_of_takes (takes : Takes given fields s s') :
    fields.foldlM (applyField given) ⟨s, []⟩ = .ok ⟨s', []⟩ := by
  induction takes with
  | done => rfl
  | absent absent _ ih =>
    rw [List.foldlM_cons, applyField, absent]
    exact ih
  | taken found set _ ih =>
    rw [List.foldlM_cons, applyField, found]
    dsimp only
    rw [set]
    exact ih

/-- Settings are accepted when every source's names are known, every setting takes what is given for
it, and the settings do not conflict. -/
theorem build_eq_ok_iff : build given unknown = .ok s ↔
    unknown = [] ∧ Takes given Field.all defaults s ∧ conflict? s = .ok none := by
  unfold build
  rw [bind_eq_ok_iff]
  constructor
  · rintro ⟨draft, drafted, judged⟩
    dsimp only at judged
    split at judged
    · rename_i clean
      rw [List.isEmpty_iff, List.append_eq_nil_iff, List.map_eq_nil_iff] at clean
      obtain ⟨-, takes⟩ := takes_of_draft (fun f => Field.made_of_mem) drafted clean.1
      split at judged
      · rename_i agreed
        cases judged
        exact ⟨clean.2, takes, agreed⟩
      · cases judged
      · cases judged
    · cases judged
  · rintro ⟨rfl, takes, agreed⟩
    refine ⟨_, draft_of_takes takes, ?_⟩
    dsimp only
    rw [agreed]
    rfl

/-- When both clock times can be read, the settings are judged by the order of the two bounds of the
strength, and then by that of the clock times. -/
theorem conflict?_eq {c d : Clock} (start : Clock.parse s.session.start = .ok c)
    (stop : Clock.parse s.session.stop = .ok d) :
    conflict? s = .ok (if s.rules.overbought ≤ s.rules.oversold then
        some (.strengthOrder s.rules.oversold s.rules.overbought)
      else if c.isBefore d then none
      else some (.sessionOrder s.session.start s.session.stop)) := by
  unfold conflict?
  rw [start, stop]
  split <;> rfl

/-! ### Faults -/

/-- The fault with which the first clock time that has one ends the reading. -/
def ending? (given : List (String × Json)) : Option ClockFault :=
  Field.clockNames.findSome? fun name => (given.lookup name).bind Field.overflow?

theorem fault?_applyField (made : f.Made) (d : Draft) : fault? (applyField given d f) =
    if f.name ∈ Field.clockNames then
      ((given.lookup f.name).bind Field.overflow?).map SettingsFault.clock
    else none := by
  unfold applyField
  cases found : given.lookup f.name with
  | none => simp [fault?]
  | some value =>
    have ends (fault : ClockFault) : f.set value d.settings = .error (.clock fault) ↔
        f.name ∈ Field.clockNames ∧ Field.overflow? value = some fault := made.set_eq_clock_iff
    dsimp only [Option.bind_some]
    by_cases named : f.name ∈ Field.clockNames
    · rw [if_pos named]
      cases large : Field.overflow? value with
      | some fault =>
        rw [(ends fault).mpr ⟨named, large⟩]
        rfl
      | none =>
        split
        · rfl
        · rfl
        · rename_i fault ended
          cases large.symm.trans ((ends fault).mp ended).2
    · rw [if_neg named]
      split
      · rfl
      · rfl
      · rename_i fault ended
        exact absurd ((ends fault).mp ended).1 named

/-- Whatever the other settings are, the first clock time that has a fault of its own ends the
reading. -/
theorem fault?_draft (given : List (String × Json)) (d : Draft) :
    fault? (Field.all.foldlM (applyField given) d) = (ending? given).map .clock := by
  have ends : fault? (Field.all.foldlM (applyField given) d) = Field.names.findSome? fun name =>
      if name ∈ Field.clockNames then
        ((given.lookup name).bind Field.overflow?).map SettingsFault.clock
      else none := by
    rw [fault?_foldlM fun f member d => fault?_applyField (Field.made_of_mem member) d,
      Field.names, List.findSome?_map]
    rfl
  have only : Field.names.filter (· ∈ Field.clockNames) = Field.clockNames := by decide +kernel
  rw [ends, ending?, List.map_findSome?, ← only, findSome?_filter]
  rfl

end Settings

end VolatilityDesk
