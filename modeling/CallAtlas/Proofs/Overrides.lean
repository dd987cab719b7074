import CallAtlas.Configuration.Basic
import CallAtlas.Proofs.ExactBoxes

/-!
# Overrides one after another

Overrides can be added to a configuration again and again (`overrideAll`), and some of them may
be refused. What has come of it is told by `Configuration.after`, from the patterns of all
overrides and from the overrides that were accepted: each setting is as the last of these had
it. An override that is refused adds its patterns and no more, one that is accepted adds both
(`override_eq`), and additions follow one another (`after_after`). So the configuration after
a run is known (`overrideAll_eq`), and it has a fault only if there was one before, since none
of the settings that are checked is among those that are added.
-/

namespace CallAtlas

namespace ReportFormat

/-- The names of formats, in small letters. -/
def names : List String := ["summary", "text", "json", "mermaid", "mmd"]

/-- A format is unknown just if its name, in small letters, is none of the names. -/
theorem ofName?_eq_none_iff (name : String) :
    ofName? name = none ↔ Case.toSmall name ∉ names := by
  unfold ofName?
  dsimp only
  generalize Case.toSmall name = text
  constructor
  · rintro h hmem
    simp only [names, List.mem_cons, List.not_mem_nil, or_false] at hmem
    rcases hmem with rfl | rfl | rfl | rfl | rfl <;> exact absurd h (by decide)
  · intro h
    obtain ⟨hsummary, htext, hjson, hmermaid, hmmd⟩ :
        text ≠ "summary" ∧ text ≠ "text" ∧ text ≠ "json" ∧ text ≠ "mermaid" ∧ text ≠ "mmd" := by
      simpa [names] using h
    simp [hsummary, htext, hjson, hmermaid, hmmd]

end ReportFormat

namespace Configuration

/-! ## What overrides add -/

section Added

variable {α : Type}

/-- The last of the values that overrides give. -/
def lastGiven {β : Type} (value : Overrides → Option β) (os : List Overrides) : Option β :=
  (os.filterMap value).getLast?

/-- What later overrides give counts before what earlier ones give. -/
theorem lastGiven_append {β : Type} (value : Overrides → Option β) (os os' : List Overrides) :
    lastGiven value (os ++ os') = (lastGiven value os').or (lastGiven value os) := by
  unfold lastGiven
  rw [List.filterMap_append, List.getLast?_append]

theorem lastGiven_singleton {β : Type} (value : Overrides → Option β) (o : Overrides) :
    lastGiven value [o] = value o := by
  unfold lastGiven
  cases h : value o with
  | none => rw [List.filterMap_cons_none h]; rfl
  | some x => rw [List.filterMap_cons_some h]; rfl

/-- The format that overrides ask for. -/
def Overrides.asked (o : Overrides) : Option ReportFormat := o.format.bind ReportFormat.ofName?

/-- A configuration with some patterns and the settings of some overrides added, where the last
override that gives a setting counts. -/
def after (c : Configuration α) (patterns : List String) (os : List Overrides) :
    Configuration α :=
  { c with
    analysis := { c.analysis with exclude := c.analysis.exclude ++ patterns }
    layout :=
      { c.layout with
          arrangement := (lastGiven Overrides.arrangement os).or c.layout.arrangement
          direction := (lastGiven Overrides.direction os).getD c.layout.direction }
    output :=
      ⟨(lastGiven Overrides.asked os).getD c.output.format,
        os.any Overrides.simplify || c.output.simplify⟩ }

/-- Without patterns and overrides a configuration stays as it is. -/
theorem after_nil (c : Configuration α) : c.after [] [] = c := by
  unfold after
  rw [List.append_nil]
  rfl

/-- What is added later stands behind what is added before, and counts before it. -/
theorem after_after (c : Configuration α) (patterns patterns' : List String)
    (os os' : List Overrides) :
    (c.after patterns os).after patterns' os' = c.after (patterns ++ patterns') (os ++ os') := by
  unfold after
  simp only [lastGiven_append, List.append_assoc, Option.or_assoc, Option.getD_or,
    List.any_append, Bool.or_assoc, Bool.or_left_comm]

/-- Nothing that is checked is added. -/
theorem fault?_after [Measure α] (c : Configuration α) (patterns : List String)
    (os : List Overrides) : (c.after patterns os).fault? = c.fault? := rfl

end Added

variable {α : Type} [Measure α]

/-! ## One override -/

/-- Overrides with an unknown format add their patterns and nothing else. -/
theorem override_of_unknown (c : Configuration α) {o : Overrides} {name : String}
    (hformat : o.format = some name) (hname : ReportFormat.ofName? name = none) :
    c.override o = (c.after o.exclude [], some (.unknownFormat name)) := by
  unfold override
  rw [hformat]
  dsimp only
  rw [hname]
  rfl

/-- Overrides with a known format, or with none, are accepted by a valid configuration. -/
theorem override_of_known {c : Configuration α} (hvalid : c.fault? = none) {o : Overrides}
    (hname : ∀ name, o.format = some name → ReportFormat.ofName? name ≠ none) :
    c.override o = (c.after o.exclude [o], none) := by
  have hadded : c.after o.exclude [o] =
      { c with
        analysis := { c.analysis with exclude := c.analysis.exclude ++ o.exclude }
        layout :=
          { c.layout with
              arrangement := o.arrangement.or c.layout.arrangement
              direction := o.direction.getD c.layout.direction }
        output :=
          ⟨o.asked.getD c.output.format, o.simplify || c.output.simplify⟩ } := by
    -- of one override, the last that gives a setting is itself
    unfold after
    simp only [lastGiven_singleton, List.any_cons, List.any_nil, Bool.or_false]
  -- the check at the end reads none of what was added
  have hchecked : c.fault?.map OverrideFault.invalid = none := by
    rw [hvalid]
    rfl
  unfold override
  cases hformat : o.format with
  | none =>
    have hasked : o.asked = none := by
      rw [Overrides.asked, hformat]
      rfl
    rw [hasked] at hadded
    exact Prod.ext hadded.symm hchecked
  | some name =>
    obtain ⟨format, hsome⟩ := Option.ne_none_iff_exists'.mp (hname name hformat)
    have hasked : o.asked = some format := by
      rw [Overrides.asked, hformat]
      exact hsome
    rw [hasked] at hadded
    dsimp only
    rw [hsome]
    exact Prod.ext hadded.symm hchecked

/-- An override is refused just if it names a format that is none. -/
theorem override_cases {c : Configuration α} (hvalid : c.fault? = none) (o : Overrides) :
    (∃ name, o.format = some name ∧ Case.toSmall name ∉ ReportFormat.names ∧
      c.override o = (c.after o.exclude [], some (.unknownFormat name))) ∨
    ((∀ name, o.format = some name → Case.toSmall name ∈ ReportFormat.names) ∧
      c.override o = (c.after o.exclude [o], none)) := by
  by_cases h : ∃ name, o.format = some name ∧ Case.toSmall name ∉ ReportFormat.names
  · obtain ⟨name, hformat, hname⟩ := h
    exact .inl ⟨name, hformat, hname,
      override_of_unknown c hformat ((ReportFormat.ofName?_eq_none_iff name).mpr hname)⟩
  · push Not at h
    refine .inr ⟨h, override_of_known hvalid fun name hformat hnone => ?_⟩
    exact (ReportFormat.ofName?_eq_none_iff name).mp hnone (h name hformat)

/-- The only fault that overrides of a valid configuration can have is an unknown format. -/
theorem override_snd_eq_some_iff {c : Configuration α} (hvalid : c.fault? = none) (o : Overrides)
    (fault : OverrideFault) : (c.override o).2 = some fault ↔
      ∃ name, o.format = some name ∧ Case.toSmall name ∉ ReportFormat.names ∧
        fault = .unknownFormat name := by
  rcases override_cases hvalid o with ⟨name, hformat, hname, heq⟩ | ⟨hall, heq⟩
  · rw [heq]
    constructor
    · intro h
      exact ⟨name, hformat, hname, (Option.some.inj h).symm⟩
    · rintro ⟨name', hformat', -, rfl⟩
      rw [hformat] at hformat'
      rw [Option.some.inj hformat']
  · rw [heq]
    constructor
    · intro h
      cases h
    · rintro ⟨name, hformat, hname, -⟩
      exact absurd (hall name hformat) hname

/-! ## Many overrides -/

/-- Adds overrides one after another. The second part are those that were accepted. -/
def overrideAll (c : Configuration α) : List Overrides → Configuration α × List Overrides
  | [] => (c, [])
  | o :: os =>
    let (next, fault) := c.override o
    let (last, accepted) := overrideAll next os
    (last, if fault.isNone then o :: accepted else accepted)

/-- **The configuration after a run** has the patterns of all overrides and the settings of those
that were accepted. The induction is on the overrides; a configuration stays valid with each of
them. -/
theorem overrideAll_fst {c : Configuration α} (hvalid : c.fault? = none) (os : List Overrides) :
    (c.overrideAll os).1 = c.after (os.flatMap Overrides.exclude) (c.overrideAll os).2 := by
  induction os generalizing c with
  | nil => exact (after_nil c).symm
  | cons o os ih =>
    rw [List.flatMap_cons]
    unfold overrideAll
    -- what comes next has no fault either, so that the rest follows by induction
    rcases override_cases hvalid o with ⟨name, -, -, heq⟩ | ⟨-, heq⟩
    · rw [heq]
      exact (ih ((fault?_after c o.exclude []).trans hvalid)).trans (after_after c ..)
    · rw [heq]
      exact (ih ((fault?_after c o.exclude [o]).trans hvalid)).trans (after_after c ..)

/-- **Runs of overrides.** After overrides of a configuration without a fault, accepted or refused
in any order, it has no fault; a further one is refused just if it names a format that is none;
and the configuration is the first one with the patterns of all of them and the settings of those
that were accepted. -/
theorem overrideAll_spec {c : Configuration α} (hvalid : c.fault? = none) (os : List Overrides) :
    let out := (c.overrideAll os).1
    let accepted := (c.overrideAll os).2
    out.fault? = none ∧
      (∀ o fault, (out.override o).2 = some fault ↔
        ∃ name, o.format = some name ∧ Case.toSmall name ∉ ReportFormat.names ∧
          fault = .unknownFormat name) ∧
      out = c.after (os.flatMap Overrides.exclude) accepted := by
  intro out accepted
  have hout : out = c.after (os.flatMap Overrides.exclude) accepted := overrideAll_fst hvalid os
  have hsound : out.fault? = none := by rw [hout, fault?_after, hvalid]
  exact ⟨hsound, override_snd_eq_some_iff hsound, hout⟩

/-- Overrides, the second of which ask for a format that is none. -/
def threeOverrides : List Overrides :=
  [⟨["a"], some "JSON", none, some .rightLeft, false⟩,
    ⟨["b"], some "html", some .grid, some .bottomTop, true⟩,
    ⟨["c"], none, some .circular, none, false⟩]

theorem overrideAll_spec_threeOverrides :
    let c : Configuration ℚ := .standard
    let out := (c.overrideAll threeOverrides).1
    c.fault? = none ∧ out.fault? = none ∧
      (out.override ⟨["d"], some "html", none, none, true⟩).2 = some (.unknownFormat "html") ∧
      out =
        { c with
          analysis := { c.analysis with exclude := c.analysis.exclude ++ ["a", "b", "c"] }
          layout := { c.layout with arrangement := some .circular, direction := .rightLeft }
          output := ⟨.json, false⟩ } := by
  intro c out
  have hvalid : c.fault? = none := by decide +kernel
  obtain ⟨hsound, hrefused, hout⟩ := overrideAll_spec hvalid threeOverrides
  have hhtml : Case.toSmall "html" ∉ ReportFormat.names := by decide +kernel
  have hadded : c.after (threeOverrides.flatMap Overrides.exclude)
      (c.overrideAll threeOverrides).2 =
        { c with
          analysis := { c.analysis with exclude := c.analysis.exclude ++ ["a", "b", "c"] }
          layout := { c.layout with arrangement := some .circular, direction := .rightLeft }
          output := ⟨.json, false⟩ } := by decide +kernel
  exact ⟨hvalid, hsound, (hrefused _ _).mpr ⟨"html", rfl, hhtml, rfl⟩, hout.trans hadded⟩

end Configuration

end CallAtlas
