import CallAtlas.CommandLine.Reader

/-!
# The same arguments without an output

Which arguments name the output, and that the others make the same request without it
(`read_withoutOutput`). What is read is taken in late, so two readings that have taken
in as much can stand at different drafts; they are compared by what their drafts settle
to (`Parallel`).
-/

namespace CallAtlas

/-- Two readings behind one another succeed if the first does and the second does on what it
gives. -/
theorem exists_of_bind_eq_ok {ε α β : Type} {x : Except ε α} {f : α → Except ε β} {b : β}
    (h : (x >>= f) = .ok b) : ∃ a, x = .ok a ∧ f a = .ok b := by
  cases x with
  | error e => cases h
  | ok a => exact ⟨a, rfl, h⟩

theorem exists_of_map_eq_ok {ε α β : Type} {x : Except ε α} {f : α → β} {b : β}
    (h : x.map f = .ok b) : ∃ a, x = .ok a ∧ f a = b := by
  cases x with
  | error e => cases h
  | ok a => cases h; exact ⟨a, rfl, rfl⟩

/-- The request without an output. -/
def AnalyzeRequest.withoutOutput (r : AnalyzeRequest) : AnalyzeRequest := { r with output := none }

namespace CommandLine

/-- The letters behind one stroke without the option for the output, if it is among them,
and whether its value stands behind it. -/
def lettersWithoutOutput : List Char → Option (List Char × Bool)
  | [] => none
  | c :: rest =>
    match OptionName.all.find? (·.letter? == some c) with
    | some .output => some ([], !rest.isEmpty)
    | some _ => none
    | none => (lettersWithoutOutput rest).map fun (kept, valued) => (c :: kept, valued)

/-- Some arguments without those that name the output. The first one is passed over if
it is the value of an option for the output. -/
def dropOutput (isValue : Bool) : List String → List String
  | [] => []
  | argument :: rest =>
    if isValue then dropOutput false rest
    else match shapeOf argument with
      | .stop => argument :: rest
      | .plain => argument :: dropOutput false rest
      | .long name value =>
        if name = OptionName.output.name then dropOutput value.isNone rest
        else argument :: dropOutput false rest
      | .short letters => match lettersWithoutOutput letters with
        | none => argument :: dropOutput false rest
        | some ([], valued) => dropOutput (!valued) rest
        | some (kept, valued) => String.ofList ('-' :: kept) :: dropOutput (!valued) rest

/-- A command line without the arguments that name the output. -/
def withoutOutput : List String → List String
  | [] => []
  | command :: arguments => command :: dropOutput false arguments

end CommandLine

namespace RequestDraft

variable {d d' : RequestDraft} {r r' : AnalyzeRequest} {o : OptionName} {value : String}

/-! ## Taking in -/

/-- Any other option is taken in alike whether or not an output has been: the same faults are met,
and the requests that come out differ in the output only. -/
theorem takeOption_withoutOutput (ho : o ≠ .output) (r : AnalyzeRequest) (value : String) :
    takeOption r.withoutOutput o value = (takeOption r o value).map (·.withoutOutput) := by
  have hgiven : isGiven r.withoutOutput o = isGiven r o := by
    cases o <;> first | rfl | exact absurd rfl ho
  unfold takeOption
  rw [hgiven]
  cases isGiven r o with
  | true => rfl
  | false =>
    cases o with
    | format => rfl
    | layout => cases h : checked OptionName.layout value (Arrangement.ofName? value) <;> rfl
    | direction => cases h : checked OptionName.direction value (Direction.ofName? value) <;> rfl
    | minComplexity => cases h : checked OptionName.minComplexity value (readScore value) <;> rfl
    | maxComplexity => cases h : checked OptionName.maxComplexity value (readScore value) <;> rfl
    | exclude => rfl
    | output => exact absurd rfl ho
    | config => cases h : checkedPath OptionName.config.display value <;> rfl

/-- An output that is taken in changes nothing but the output. -/
theorem takeOption_output (h : takeOption r .output value = .ok r') :
    r'.withoutOutput = r.withoutOutput := by
  unfold takeOption at h
  cases hg : isGiven r .output with
  | true => rw [hg] at h; cases h
  | false =>
    rw [hg] at h
    obtain ⟨path, -, h⟩ := exists_of_bind_eq_ok (x := checkedPath OptionName.output.display value) h
    cases h
    rfl

/-- A draft that settles to a request, so that nothing is pending any more. -/
def SettlesTo (d : RequestDraft) (r : AnalyzeRequest) : Prop := d.settle = .ok ⟨r, .nothing⟩

/-- Where nothing is pending, a request is what its draft settles to. -/
theorem SettlesTo.self (r : AnalyzeRequest) : SettlesTo ⟨r, .nothing⟩ r := rfl

theorem SettlesTo.unique (h : d.SettlesTo r) (h' : d.SettlesTo r') :
    r' = r := by
  have hd := h.symm.trans h'
  cases hd
  rfl

/-- To settle a pending option with its value is to take that value in. -/
theorem settle_option (r : AnalyzeRequest) (o : OptionName) (value : String) :
    settle ⟨r, .option o (some value)⟩ = (takeOption r o value).map fun r => ⟨r, .nothing⟩ := rfl

/-- To settle pending paths is to check them and to put them, turned round, behind the paths that
are there. -/
theorem settle_paths (r : AnalyzeRequest) (values : List String) :
    settle ⟨r, .paths values⟩ = (values.reverse.mapM (checkedPath pathsDisplay)).map fun paths =>
      ⟨{ r with paths := r.paths ++ paths }, .nothing⟩ := rfl

/-- Once something is settled, nothing is pending. -/
theorem settlesTo_of_settle (h : d.settle = .ok d') : d.SettlesTo d'.request := by
  obtain ⟨r, pending⟩ := d
  unfold SettlesTo
  cases pending with
  | nothing =>
    cases h
    rfl
  | option o value =>
    cases value with
    | none => cases h
    | some value =>
      rw [settle_option] at h ⊢
      obtain ⟨r', ht, rfl⟩ := exists_of_map_eq_ok h
      exact h
  | paths values =>
    rw [settle_paths] at h ⊢
    obtain ⟨paths, hp, rfl⟩ := exists_of_map_eq_ok h
    exact h

/-- A pending option settles to what taking in its value gives. -/
theorem settlesTo_option_iff :
    SettlesTo ⟨r, .option o (some value)⟩ r' ↔ takeOption r o value = .ok r' := by
  unfold SettlesTo
  rw [settle_option]
  constructor
  · intro h
    obtain ⟨r₁, ht, hr⟩ := exists_of_map_eq_ok h
    cases hr
    exact ht
  · intro h
    rw [h]
    rfl

theorem checkedPath_empty (argument : String) :
    checkedPath argument "" = .error (.noValue argument) := rfl

theorem checkedPath_of_ne {argument : String} (h : value ≠ "") :
    checkedPath argument value = .ok value := by
  unfold checkedPath
  rw [if_neg]
  rwa [String.isEmpty_iff]

/-- Checking paths changes none of them, and succeeds just if none is empty. -/
theorem mapM_checkedPath_eq_ok_iff {argument : String} {values paths : List String} :
    values.mapM (checkedPath argument) = .ok paths ↔ paths = values ∧ "" ∉ values := by
  induction values generalizing paths with
  | nil =>
    rw [List.mapM_nil]
    constructor
    · intro h
      cases h
      exact ⟨rfl, List.not_mem_nil⟩
    · rintro ⟨rfl, -⟩
      rfl
  | cons v values ih =>
    rw [List.mapM_cons]
    by_cases hv : v = ""
    · rw [hv, checkedPath_empty]
      constructor
      · intro h
        cases h
      · rintro ⟨-, hempty⟩
        exact absurd List.mem_cons_self hempty
    · rw [checkedPath_of_ne hv]
      constructor
      · intro h
        obtain ⟨rest, hvs, hrest⟩ :=
          exists_of_bind_eq_ok (x := values.mapM (checkedPath argument)) h
        cases hrest
        obtain ⟨rfl, hempty⟩ := ih.mp hvs
        refine ⟨rfl, ?_⟩
        rw [List.mem_cons, not_or]
        exact ⟨Ne.symm hv, hempty⟩
      · rintro ⟨rfl, hempty⟩
        rw [ih.mpr ⟨rfl, fun h => hempty (List.mem_cons_of_mem v h)⟩]
        rfl

/-- Pending paths settle just if none is empty; then they come in the order in which they were
read, the last pending one first. -/
theorem settlesTo_paths_iff {values : List String} :
    SettlesTo ⟨r, .paths values⟩ r' ↔
      "" ∉ values ∧ r' = { r with paths := r.paths ++ values.reverse } := by
  unfold SettlesTo
  rw [settle_paths]
  constructor
  · intro h
    obtain ⟨paths, hp, hr⟩ := exists_of_map_eq_ok h
    obtain ⟨rfl, hempty⟩ := mapM_checkedPath_eq_ok_iff.mp hp
    cases hr
    exact ⟨fun hv => hempty (List.mem_reverse.mpr hv), rfl⟩
  · rintro ⟨hempty, rfl⟩
    rw [mapM_checkedPath_eq_ok_iff.mpr ⟨rfl, fun hv => hempty (List.mem_reverse.mp hv)⟩]
    rfl

/-! ## One argument -/

/-- What a flag does to a draft depends only on what the draft settles to, since a flag settles it
first. -/
theorem flag_eq (h : d.SettlesTo r) (f : FlagName) : d.flag f = flag ⟨r, .nothing⟩ f := by
  unfold flag
  rw [h, SettlesTo.self r]

theorem option_eq (h : d.SettlesTo r) (o : OptionName) (value : Option String) :
    d.option o value = option ⟨r, .nothing⟩ o value := by
  unfold option
  rw [h, SettlesTo.self r]

/-- A flag reads and changes nothing of the output. -/
theorem flag_withoutOutput {f : FlagName} (h : flag ⟨r, .nothing⟩ f = .ok d) :
    ∃ r', d = ⟨r', .nothing⟩ ∧
      flag ⟨r.withoutOutput, .nothing⟩ f = .ok ⟨r'.withoutOutput, .nothing⟩ := by
  obtain ⟨paths, format, arrangement, direction, exported, async, methods, least, most, simplified,
    exclude, output, configuration, verbose⟩ := r
  cases f with
  | exportedOnly => cases exported <;> cases h; exact ⟨_, rfl, rfl⟩
  | asyncOnly => cases async <;> cases h; exact ⟨_, rfl, rfl⟩
  | methodsOnly => cases methods <;> cases h; exact ⟨_, rfl, rfl⟩
  | simplify => cases simplified <;> cases h; exact ⟨_, rfl, rfl⟩
  | verbose => cases verbose <;> cases h; exact ⟨_, rfl, rfl⟩
  | help => cases h
  | version => cases h

theorem option_attached (r : AnalyzeRequest) (o : OptionName) (value : String) :
    option ⟨r, .nothing⟩ o (some value) = (takeOption r o value).map fun r => ⟨r, .nothing⟩ := rfl

/-- An option that comes with its value leaves nothing pending. -/
theorem option_attached_eq_ok (h : option ⟨r, .nothing⟩ o (some value) = .ok d) :
    ∃ r', takeOption r o value = .ok r' ∧ d = ⟨r', .nothing⟩ := by
  rw [option_attached] at h
  obtain ⟨r', ht, rfl⟩ := exists_of_map_eq_ok h
  exact ⟨r', ht, rfl⟩

/-- The first of some paths settles what was pending before it. -/
theorem path_eq (value : String) (h : ∀ values, d.pending ≠ .paths values) :
    d.path value = d.settle.map fun d => ⟨d.request, .paths [value]⟩ := by
  obtain ⟨r, pending⟩ := d
  cases pending with
  | paths values => exact absurd rfl (h values)
  | nothing => rfl
  | option o given => cases given <;> rfl

/-- A path comes behind those that have been read, whether they are taken in or not. -/
theorem path_settlesTo (h : d.path value = .ok d') (hs : d'.SettlesTo r') :
    ∃ r, d.SettlesTo r ∧ value ≠ "" ∧ r' = { r with paths := r.paths ++ [value] } := by
  -- Paths that are pending stand with the last one first, those taken in the other way.
  by_cases hp : ∃ values, d.pending = .paths values
  · obtain ⟨values, hp⟩ := hp
    obtain ⟨r, pending⟩ := d
    subst hp
    cases h
    obtain ⟨hempty, rfl⟩ := settlesTo_paths_iff.mp hs
    refine ⟨_, settlesTo_paths_iff.mpr ⟨fun hv => hempty (List.mem_cons_of_mem value hv), rfl⟩, ?_⟩
    refine ⟨fun hv => hempty (hv ▸ List.mem_cons_self), ?_⟩
    rw [List.reverse_cons, List.append_assoc]
  · rw [path_eq value fun values hv => hp ⟨values, hv⟩] at h
    obtain ⟨d₁, hd, rfl⟩ := exists_of_map_eq_ok h
    obtain ⟨hempty, rfl⟩ := settlesTo_paths_iff.mp hs
    exact ⟨_, settlesTo_of_settle hd, fun hv => hempty (hv ▸ List.mem_cons_self), rfl⟩

/-- A path that is not empty can follow any draft that settles, and comes behind its paths. -/
theorem exists_path (h : d.SettlesTo r) (hv : value ≠ "") :
    ∃ d', d.path value = .ok d' ∧ d'.SettlesTo { r with paths := r.paths ++ [value] } := by
  by_cases hp : ∃ values, d.pending = .paths values
  · obtain ⟨values, hp⟩ := hp
    obtain ⟨r₀, pending⟩ := d
    subst hp
    obtain ⟨hempty, rfl⟩ := settlesTo_paths_iff.mp h
    refine ⟨_, rfl, settlesTo_paths_iff.mpr ⟨?_, ?_⟩⟩
    · rw [List.mem_cons, not_or]
      exact ⟨hv.symm, hempty⟩
    · rw [List.reverse_cons, List.append_assoc]
  · rw [path_eq value fun values hv => hp ⟨values, hv⟩, h]
    refine ⟨_, rfl, settlesTo_paths_iff.mpr ⟨?_, rfl⟩⟩
    rw [List.mem_singleton]
    exact hv.symm

/-! ## All letters of one argument -/

/-- Two drafts with one and the same request, of which the second has no output. If
`isValue` holds, the value of an output is awaited. -/
inductive Parallel : Bool → RequestDraft → RequestDraft → Prop
  | settled {d d' : RequestDraft} {r : AnalyzeRequest} (h : d.SettlesTo r)
    (h' : d'.SettlesTo r.withoutOutput) : Parallel false d d'
  | awaiting (r : AnalyzeRequest) {o : OptionName} (ho : o ≠ .output) :
    Parallel false ⟨r, .option o none⟩ ⟨r.withoutOutput, .option o none⟩
  | naming {d' : RequestDraft} {r : AnalyzeRequest} (h' : d'.SettlesTo r.withoutOutput) :
    Parallel true ⟨r, .option .output none⟩ d'

variable {d₁ : RequestDraft}

/-- A flag keeps two settled drafts in step. -/
theorem parallel_flag {f : FlagName} (h : d.SettlesTo r) (h' : d'.SettlesTo r.withoutOutput)
    (hf : d.flag f = .ok d₁) :
    ∃ r₁ d₁', d'.flag f = .ok d₁' ∧ d₁.SettlesTo r₁ ∧ d₁'.SettlesTo r₁.withoutOutput := by
  rw [flag_eq h] at hf
  obtain ⟨r₁, rfl, hf'⟩ := flag_withoutOutput hf
  exact ⟨r₁, _, (flag_eq h' f).trans hf', rfl, rfl⟩

/-- An option that is not the output keeps drafts in step if its value comes with it; if not, both
drafts await that value. -/
theorem parallel_option {given : Option String} (ho : o ≠ .output) (h : d.SettlesTo r)
    (h' : d'.SettlesTo r.withoutOutput) (hd : d.option o given = .ok d₁) :
    ∃ d₁', d'.option o given = .ok d₁' ∧ Parallel false d₁ d₁' := by
  rw [option_eq h] at hd
  rw [option_eq h']
  cases given with
  | none =>
    cases hd
    exact ⟨_, rfl, .awaiting r ho⟩
  | some value =>
    obtain ⟨r₁, ht, rfl⟩ := option_attached_eq_ok hd
    rw [option_attached, takeOption_withoutOutput ho, ht]
    exact ⟨_, rfl, .settled (.self r₁) (.self r₁.withoutOutput)⟩

/-- An option for the output is read by the first draft alone, which then awaits the value unless
it came along. -/
theorem parallel_output {given : Option String} (h : d.SettlesTo r)
    (h' : d'.SettlesTo r.withoutOutput) (hd : d.option .output given = .ok d₁) :
    Parallel given.isNone d₁ d' := by
  rw [option_eq h] at hd
  cases given with
  | none =>
    cases hd
    exact .naming h'
  | some value =>
    obtain ⟨r₁, ht, rfl⟩ := option_attached_eq_ok hd
    rw [← takeOption_output ht] at h'
    exact .settled (.self r₁) h'

/-- A value is attached to a letter just if something stands behind it. -/
theorem isNone_attached (rest : List Char) : (attached rest).isNone = rest.isEmpty := by
  rcases rest with _ | ⟨c, rest⟩
  · rfl
  · by_cases hc : c = '='
    · subst hc
      rfl
    · unfold attached
      split <;> first | rfl | contradiction

/-- Letters behind one stroke keep drafts in step if the second is given those that are left
without the option for the output. The induction is on the letters; it ends at the first option,
since what stands behind an option is its value. -/
theorem parallel_letters {letters : List Char} (h : d.SettlesTo r)
    (h' : d'.SettlesTo r.withoutOutput) (hd : d.letters letters = .ok d₁) :
    match CommandLine.lettersWithoutOutput letters with
    | none => ∃ d₁', d'.letters letters = .ok d₁' ∧ Parallel false d₁ d₁'
    | some (kept, valued) => ∃ d₁', d'.letters kept = .ok d₁' ∧ Parallel (!valued) d₁ d₁' := by
  induction letters generalizing d d' r with
  | nil =>
    cases hd
    exact ⟨d', rfl, .settled h h'⟩
  | cons c rest ih =>
    rw [RequestDraft.letters] at hd
    rw [CommandLine.lettersWithoutOutput]
    cases ho : OptionName.all.find? (·.letter? == some c) with
    | some o =>
      simp only [ho] at hd
      by_cases hout : o = .output
      · subst hout
        have hpar := parallel_output h h' hd
        rw [isNone_attached, ← Bool.not_not rest.isEmpty] at hpar
        exact ⟨d', rfl, hpar⟩
      · -- The letters behind those of an option are its value, whatever they are.
        obtain ⟨d₁', hd', hpar⟩ := parallel_option hout h h' hd
        have hletters : d'.letters (c :: rest) = .ok d₁' := by
          rw [RequestDraft.letters]
          simp only [ho]
          exact hd'
        cases o with
        | output => exact absurd rfl hout
        | _ => exact ⟨d₁', hletters, hpar⟩
    | none =>
      simp only [ho] at hd
      cases hf : flags.find? (·.letter? == some c) with
      | none => simp only [hf] at hd; cases hd
      | some f =>
        simp only [hf] at hd
        cases hd₂ : d.flag f with
        | error e => simp only [hd₂] at hd; cases hd
        | ok d₂ =>
          simp only [hd₂] at hd
          -- a flag settles both drafts alike, and leaves the letters behind it to the induction
          obtain ⟨r₂, d₂', hd₂', hs, hs'⟩ := parallel_flag h h' hd₂
          have hletters : ∀ kept, d'.letters (c :: kept) = d₂'.letters kept := by
            intro kept
            rw [RequestDraft.letters]
            simp only [ho, hf, hd₂']
          have hrest := ih hs hs' hd
          cases hk : CommandLine.lettersWithoutOutput rest with
          | none =>
            rw [hk] at hrest
            obtain ⟨d₁', hd₁', hpar⟩ := hrest
            exact ⟨d₁', (hletters rest).trans hd₁', hpar⟩
          | some split =>
            obtain ⟨kept, valued⟩ := split
            rw [hk] at hrest
            obtain ⟨d₁', hd₁', hpar⟩ := hrest
            exact ⟨d₁', (hletters kept).trans hd₁', hpar⟩

/-- No other option has the name of the output. -/
theorem eq_output_of_name (h : o.name = OptionName.output.name) : o = .output := by
  cases o with
  | output => rfl
  | _ => exact absurd h (by decide)

/-- A name behind two strokes keeps drafts in step too: the second passes over the name of the
output and reads any other. -/
theorem parallel_named {name : String} {given : Option String} (h : d.SettlesTo r)
    (h' : d'.SettlesTo r.withoutOutput) (hd : d.named name given = .ok d₁) :
    if name = OptionName.output.name then Parallel given.isNone d₁ d'
    else ∃ d₁', d'.named name given = .ok d₁' ∧ Parallel false d₁ d₁' := by
  unfold named at hd ⊢
  cases ho : OptionName.all.find? (·.name == name) with
  | some o =>
    have hname : o.name = name := by
      have hbeq := List.find?_some ho
      exact beq_iff_eq.mp hbeq
    simp only [ho] at hd ⊢
    by_cases hout : o = .output
    · subst hout
      rw [if_pos hname.symm]
      exact parallel_output h h' hd
    · rw [if_neg fun hn => hout (eq_output_of_name (hname.trans hn))]
      exact parallel_option hout h h' hd
  | none =>
    rw [if_neg]
    · simp only [ho] at hd ⊢
      cases hf : flags.find? (·.name == name) with
      | none => simp only [hf] at hd; cases hd
      | some f =>
        cases given with
        | some value => simp only [hf] at hd; cases hd
        | none =>
          simp only [hf] at hd ⊢
          obtain ⟨r₁, d₁', hd₁', hs, hs'⟩ := parallel_flag h h' hd
          exact ⟨d₁', hd₁', .settled hs hs'⟩
    · rintro rfl
      cases ho

end RequestDraft

/-! ## All arguments -/

namespace CommandLine

open RequestDraft

variable {d d' d₁ : RequestDraft} {r : AnalyzeRequest} {arguments : List String}

/-- A draft that settles awaits no value. -/
theorem awaits_of_settlesTo (h : d.SettlesTo r) : awaits d = none := by
  obtain ⟨r₀, pending⟩ := d
  cases pending with
  | nothing => rfl
  | paths values => rfl
  | option o given =>
    cases given with
    | none => cases h
    | some value => rfl

theorem awaits_path {value : String} (h : d.path value = .ok d₁) : awaits d₁ = none := by
  by_cases hp : ∃ values, d.pending = .paths values
  · obtain ⟨values, hp⟩ := hp
    obtain ⟨r, pending⟩ := d
    subst hp
    cases h
    rfl
  · rw [path_eq value fun values hv => hp ⟨values, hv⟩] at h
    obtain ⟨d₂, -, rfl⟩ := exists_of_map_eq_ok h
    rfl

/-! ### What has been read when more can be read -/

/-- An option is read only if what was pending before it can be settled. -/
theorem exists_settlesTo_of_option {o : OptionName} {given : Option String}
    (h : d.option o given = .ok d₁) : ∃ r, d.SettlesTo r := by
  obtain ⟨d₂, hs, -⟩ := exists_of_bind_eq_ok (x := d.settle) h
  exact ⟨_, settlesTo_of_settle hs⟩

theorem exists_settlesTo_of_flag {f : FlagName} (h : d.flag f = .ok d₁) : ∃ r, d.SettlesTo r := by
  obtain ⟨d₂, hs, -⟩ := exists_of_bind_eq_ok (x := d.settle) h
  exact ⟨_, settlesTo_of_settle hs⟩

theorem exists_settlesTo_of_named {name : String} {given : Option String}
    (h : d.named name given = .ok d₁) : ∃ r, d.SettlesTo r := by
  unfold named at h
  split at h
  · exact exists_settlesTo_of_option h
  · exact exists_settlesTo_of_flag h
  · cases h
  · cases h

theorem exists_settlesTo_of_letters {c : Char} {rest : List Char}
    (h : d.letters (c :: rest) = .ok d₁) : ∃ r, d.SettlesTo r := by
  rw [RequestDraft.letters] at h
  split at h
  · exact exists_settlesTo_of_option h
  · split at h
    · split at h
      case h_1 hf => exact exists_settlesTo_of_flag hf
      case h_2 => cases h
    · cases h

/-- If some paths are read and settle, what was pending before the first of them could be settled.
-/
theorem exists_settlesTo_of_foldlM {paths : List String} (h : paths.foldlM path d = .ok d₁)
    (h₁ : d₁.SettlesTo r) : ∃ r₀, d.SettlesTo r₀ := by
  induction paths generalizing d with
  | nil =>
    cases h
    exact ⟨r, h₁⟩
  | cons value paths ih =>
    rw [List.foldlM_cons] at h
    obtain ⟨d₂, hd, h⟩ := exists_of_bind_eq_ok h
    obtain ⟨r₂, hs⟩ := ih h
    obtain ⟨r₀, hs₀, -⟩ := path_settlesTo hd hs
    exact ⟨r₀, hs₀⟩

/-- Letters behind one stroke begin with one that is no stroke. -/
theorem shapeOf_short {argument : String} {letters : List Char}
    (h : shapeOf argument = .short letters) : ∃ c rest, letters = c :: rest ∧ c ≠ '-' := by
  unfold shapeOf at h
  split at h
  case h_1 => cases h
  case h_2 => split at h <;> cases h
  case h_3 c rest hne hlong hlist =>
    cases h
    refine ⟨c, rest, rfl, ?_⟩
    rintro rfl
    exact hlong rfl
  case h_4 => cases h

theorem shapeOf_letters {c : Char} (hc : c ≠ '-') (rest : List Char) :
    shapeOf (String.ofList ('-' :: c :: rest)) = .short (c :: rest) := by
  unfold shapeOf
  rw [String.toList_ofList]
  split
  case h_1 h => cases h; exact absurd rfl hc
  case h_2 h => cases h; exact absurd rfl hc
  case h_3 h => cases h; rfl
  case h_4 h => exact absurd rfl (h c rest)

/-- The letters that are left begin with the same letter as before, so that they are still read as
letters. -/
theorem lettersWithoutOutput_head {c k : Char} {rest kept : List Char} {valued : Bool}
    (h : lettersWithoutOutput (c :: rest) = some (k :: kept, valued)) : k = c := by
  rw [lettersWithoutOutput] at h
  split at h
  · cases h
  · cases h
  · obtain ⟨⟨kept', valued'⟩, -, hk⟩ := Option.map_eq_some_iff.mp h
    cases hk
    rfl

/-! ### One argument and the rest -/

variable {argument : String} {rest : List String}

/-- Behind two strokes all arguments are paths. -/
theorem readAnalyze_stop (hs : shapeOf argument = .stop) :
    readAnalyze d (argument :: rest) = rest.foldlM path d >>= settle := by
  rw [readAnalyze]
  simp only [hs]

theorem readAnalyze_long {name : String} {given : Option String}
    (hs : shapeOf argument = .long name given) :
    readAnalyze d (argument :: rest) = d.named name given >>= (readAnalyze · rest) := by
  rw [readAnalyze]
  simp only [hs]

theorem readAnalyze_short {letters : List Char} (hs : shapeOf argument = .short letters) :
    readAnalyze d (argument :: rest) = d.letters letters >>= (readAnalyze · rest) := by
  rw [readAnalyze]
  simp only [hs]

theorem readAnalyze_plain (hs : shapeOf argument = .plain) (ha : awaits d = none) :
    readAnalyze d (argument :: rest) = d.path argument >>= (readAnalyze · rest) := by
  rw [readAnalyze]
  simp only [hs, ha]

/-- A plain argument is the value that an option awaits. -/
theorem readAnalyze_value {o : OptionName} (hs : shapeOf argument = .plain) :
    readAnalyze ⟨r, .option o none⟩ (argument :: rest) =
      readAnalyze ⟨r, .option o (some argument)⟩ rest := by
  rw [readAnalyze]
  simp only [hs]
  rfl

/-- If all arguments can be read, what has been read at some time can be taken in, unless
a value is awaited. -/
theorem exists_settlesTo (h : readAnalyze d arguments = .ok d₁)
    (ha : awaits d = none ∨ ∀ argument ∈ arguments.head?, shapeOf argument ≠ .plain) :
    ∃ r, d.SettlesTo r := by
  induction arguments generalizing d with
  | nil => exact ⟨_, settlesTo_of_settle h⟩
  | cons argument rest ih =>
    cases hshape : shapeOf argument with
    | stop =>
      rw [readAnalyze_stop hshape] at h
      obtain ⟨d₂, hd, hs⟩ := exists_of_bind_eq_ok h
      exact exists_settlesTo_of_foldlM hd (settlesTo_of_settle hs)
    | long name given =>
      rw [readAnalyze_long hshape] at h
      obtain ⟨d₂, hd, -⟩ := exists_of_bind_eq_ok h
      exact exists_settlesTo_of_named hd
    | short letters =>
      rw [readAnalyze_short hshape] at h
      obtain ⟨c, letters, rfl, -⟩ := shapeOf_short hshape
      obtain ⟨d₂, hd, -⟩ := exists_of_bind_eq_ok h
      exact exists_settlesTo_of_letters hd
    | plain =>
      have ha : awaits d = none := by
        rcases ha with ha | hplain
        · exact ha
        · exact absurd hshape (hplain argument rfl)
      rw [readAnalyze_plain hshape ha] at h
      obtain ⟨d₂, hd, h⟩ := exists_of_bind_eq_ok h
      -- a path settles by itself only; what comes after it settles the path with what was pending
      obtain ⟨r₂, hs⟩ := ih h (.inl (awaits_path hd))
      obtain ⟨r, hr, -⟩ := path_settlesTo hd hs
      exact ⟨r, hr⟩

/-- If all arguments can be read, one that comes where a value is awaited is plain: anything else
would have to settle the option first. -/
theorem plain_of_awaiting {o : OptionName}
    (h : readAnalyze ⟨r, .option o none⟩ (argument :: rest) = .ok d₁) :
    shapeOf argument = .plain := by
  refine Decidable.byContradiction fun hshape => ?_
  obtain ⟨r₀, hr⟩ := exists_settlesTo h (.inr fun a ha => by cases ha; exact hshape)
  cases hr

/-! ### Both readings -/

/-- A path keeps drafts in step, whether or not the paths before it have been taken in. -/
theorem parallel_path {value : String} {r₁ : AnalyzeRequest} (h : d.SettlesTo r)
    (h' : d'.SettlesTo r.withoutOutput) (hd : d.path value = .ok d₁) (h₁ : d₁.SettlesTo r₁) :
    ∃ d₁', d'.path value = .ok d₁' ∧ d₁'.SettlesTo r₁.withoutOutput := by
  obtain ⟨r₀, hs₀, hv, rfl⟩ := path_settlesTo hd h₁
  cases h.unique hs₀
  exact exists_path h' hv

theorem parallel_foldlM {paths : List String} {r₁ : AnalyzeRequest} (h : d.SettlesTo r)
    (h' : d'.SettlesTo r.withoutOutput) (hd : paths.foldlM path d = .ok d₁)
    (h₁ : d₁.SettlesTo r₁) :
    ∃ d₁', paths.foldlM path d' = .ok d₁' ∧ d₁'.SettlesTo r₁.withoutOutput := by
  induction paths generalizing d d' r with
  | nil =>
    cases hd
    cases h.unique h₁
    exact ⟨d', rfl, h'⟩
  | cons value paths ih =>
    rw [List.foldlM_cons] at hd
    obtain ⟨d₂, hd₂, hd⟩ := exists_of_bind_eq_ok hd
    obtain ⟨r₂, hs₂⟩ := exists_settlesTo_of_foldlM hd h₁
    obtain ⟨d₂', hd₂', hs₂'⟩ := parallel_path h h' hd₂ hs₂
    obtain ⟨d₁', hd₁', hs₁'⟩ := ih hs₂ hs₂' hd
    refine ⟨d₁', ?_, hs₁'⟩
    rw [List.foldlM_cons, hd₂']
    exact hd₁'

/-- Both readings have taken one argument, of which the second only has what is kept, and
stand at parallel drafts in front of the rest. -/
def Stepped (isValue : Bool) (d' : RequestDraft) (argument : String) (rest : List String)
    (d₁ : RequestDraft) : Prop :=
  ∃ kept isValue₂ d₂ d₂',
    dropOutput isValue (argument :: rest) = kept ++ dropOutput isValue₂ rest ∧
      (∀ more, readAnalyze d' (kept ++ more) = readAnalyze d₂' more) ∧
      Parallel isValue₂ d₂ d₂' ∧ readAnalyze d₂ rest = .ok d₁

section

variable (hs : d.SettlesTo r) (hs' : d'.SettlesTo r.withoutOutput)
  (h : readAnalyze d (argument :: rest) = .ok d₁)
include hs hs' h

/-- A name behind two strokes is one step of both readings. -/
theorem stepped_long {name : String} {given : Option String}
    (hshape : shapeOf argument = .long name given) : Stepped false d' argument rest d₁ := by
  rw [readAnalyze_long hshape] at h
  obtain ⟨d₂, hd, h⟩ := exists_of_bind_eq_ok h
  have hnamed := parallel_named hs hs' hd
  unfold Stepped
  rw [dropOutput, if_neg Bool.false_ne_true, hshape]
  by_cases hname : name = OptionName.output.name
  · rw [if_pos hname] at hnamed
    exact ⟨[], given.isNone, d₂, d', if_pos hname, fun _ => rfl, hnamed, h⟩
  · rw [if_neg hname] at hnamed
    obtain ⟨d₂', hd', hpar⟩ := hnamed
    refine ⟨[argument], false, d₂, d₂', if_neg hname, fun more => ?_, hpar, h⟩
    rw [List.singleton_append, readAnalyze_long hshape, hd']
    rfl

/-- Letters behind one stroke are one step of both readings; the second may have fewer of them, or
none. -/
theorem stepped_short {letters : List Char} (hshape : shapeOf argument = .short letters) :
    Stepped false d' argument rest d₁ := by
  rw [readAnalyze_short hshape] at h
  obtain ⟨d₂, hd, h₂⟩ := exists_of_bind_eq_ok h
  have hletters := parallel_letters hs hs' hd
  unfold Stepped
  rw [dropOutput, if_neg Bool.false_ne_true, hshape]
  cases hkept : lettersWithoutOutput letters with
  | none =>
    rw [hkept] at hletters
    obtain ⟨d₂', hd', hpar⟩ := hletters
    refine ⟨[argument], false, d₂, d₂', by simp only [hkept]; rfl, fun more => ?_, hpar, h₂⟩
    rw [List.singleton_append, readAnalyze_short hshape, hd']
    rfl
  | some left =>
    obtain ⟨kept, valued⟩ := left
    rw [hkept] at hletters
    obtain ⟨d₂', hd', hpar⟩ := hletters
    rcases kept with _ | ⟨k, kept⟩
    · cases hd'
      exact ⟨[], !valued, d₂, d', by simp only [hkept]; rfl, fun _ => rfl, hpar, h₂⟩
    · obtain ⟨c, letters, rfl, hc⟩ := shapeOf_short hshape
      cases lettersWithoutOutput_head hkept
      refine ⟨[String.ofList ('-' :: k :: kept)], !valued, d₂, d₂', by simp only [hkept]; rfl,
        fun more => ?_, hpar, h₂⟩
      rw [List.singleton_append, readAnalyze_short (shapeOf_letters hc kept), hd']
      rfl

theorem stepped_plain (hshape : shapeOf argument = .plain) :
    Stepped false d' argument rest d₁ := by
  rw [readAnalyze_plain hshape (awaits_of_settlesTo hs)] at h
  obtain ⟨d₂, hd, h⟩ := exists_of_bind_eq_ok h
  obtain ⟨r₂, hs₂⟩ := exists_settlesTo h (.inl (awaits_path hd))
  obtain ⟨d₂', hd', hs₂'⟩ := parallel_path hs hs' hd hs₂
  unfold Stepped
  rw [dropOutput, if_neg Bool.false_ne_true, hshape]
  refine ⟨[argument], false, d₂, d₂', rfl, fun more => ?_, .settled hs₂ hs₂', h⟩
  rw [List.singleton_append, readAnalyze_plain hshape (awaits_of_settlesTo hs'), hd']
  rfl

/-- Behind the mark for it all arguments are paths, and both readings take them in. -/
theorem readAnalyze_stopped (hshape : shapeOf argument = .stop) :
    ∃ r, d₁ = ⟨r, .nothing⟩ ∧
      readAnalyze d' (argument :: rest) = .ok ⟨r.withoutOutput, .nothing⟩ := by
  rw [readAnalyze_stop hshape] at h ⊢
  obtain ⟨d₂, hd, hsettle⟩ := exists_of_bind_eq_ok h
  have hs₂ := settlesTo_of_settle hsettle
  obtain ⟨d₂', hd', hs₂'⟩ := parallel_foldlM hs hs' hd hs₂
  refine ⟨_, Except.ok.inj (hsettle.symm.trans hs₂), ?_⟩
  rw [hd']
  exact hs₂'

end

theorem stepped_value {o : OptionName} (ho : o ≠ .output)
    (h : readAnalyze ⟨r, .option o none⟩ (argument :: rest) = .ok d₁) :
    Stepped false ⟨r.withoutOutput, .option o none⟩ argument rest d₁ := by
  have hshape := plain_of_awaiting h
  rw [readAnalyze_value hshape] at h
  obtain ⟨r₂, hs₂⟩ := exists_settlesTo h (.inl rfl)
  have ht := settlesTo_option_iff.mp hs₂
  unfold Stepped
  rw [dropOutput, if_neg Bool.false_ne_true, hshape]
  refine ⟨[argument], false, _, _, rfl, fun _ => readAnalyze_value hshape,
    .settled hs₂ (settlesTo_option_iff.mpr ?_), h⟩
  rw [takeOption_withoutOutput ho, ht]
  rfl

/-- The value of the output is a step of the first reading only. -/
theorem stepped_output (hs' : d'.SettlesTo r.withoutOutput)
    (h : readAnalyze ⟨r, .option .output none⟩ (argument :: rest) = .ok d₁) :
    Stepped true d' argument rest d₁ := by
  rw [readAnalyze_value (plain_of_awaiting h)] at h
  obtain ⟨r₂, hs₂⟩ := exists_settlesTo h (.inl rfl)
  rw [← takeOption_output (settlesTo_option_iff.mp hs₂)] at hs'
  exact ⟨[], false, _, d', by rw [dropOutput, if_pos rfl]; rfl, fun _ => rfl, .settled hs₂ hs', h⟩

/-- **Reading on without the output**: from drafts that are in step, both readings come to the
end, and to requests that differ in the output only. The induction is on the arguments, with one
step lemma for each form of the first. -/
theorem readAnalyze_dropOutput {isValue : Bool} (hp : Parallel isValue d d')
    (h : readAnalyze d arguments = .ok d₁) :
    ∃ r, d₁ = ⟨r, .nothing⟩ ∧
      readAnalyze d' (dropOutput isValue arguments) = .ok ⟨r.withoutOutput, .nothing⟩ := by
  induction arguments generalizing isValue d d' with
  | nil =>
    obtain ⟨r, hr⟩ := exists_settlesTo h (.inr fun a ha => nomatch ha)
    cases hp with
    | settled hs hs' =>
      cases hs.unique hr
      exact ⟨r, Except.ok.inj (h.symm.trans hs), hs'⟩
    | awaiting r ho => cases hr
    | naming hs' => cases hr
  | cons argument rest ih =>
    -- Behind a step both readings go on by induction, from drafts that are parallel again.
    have hgo : Stepped isValue d' argument rest d₁ → ∃ r, d₁ = ⟨r, .nothing⟩ ∧
        readAnalyze d' (dropOutput isValue (argument :: rest)) =
          .ok ⟨r.withoutOutput, .nothing⟩ := by
      rintro ⟨kept, isValue₂, d₂, d₂', hdrop, hread, hpar, h₂⟩
      rw [hdrop, hread]
      exact ih hpar h₂
    cases hp with
    | settled hs hs' =>
      cases hshape : shapeOf argument with
      | stop =>
        rw [dropOutput, if_neg Bool.false_ne_true, hshape]
        exact readAnalyze_stopped hs hs' h hshape
      | long name given => exact hgo (stepped_long hs hs' h hshape)
      | short letters => exact hgo (stepped_short hs hs' h hshape)
      | plain => exact hgo (stepped_plain hs hs' h hshape)
    | awaiting r ho => exact hgo (stepped_value ho h)
    | naming hs' => exact hgo (stepped_output hs' h)

theorem read_analyze (arguments : List String) :
    CommandLine.read ("analyze" :: arguments) = analyze arguments := rfl

/-- Only the command that analyses makes a request to analyse. -/
theorem analyze_of_read {command : String}
    (h : CommandLine.read (command :: arguments) = .ok (.analyze r)) : command = "analyze" := by
  refine Decidable.byContradiction fun hc => ?_
  simp only [CommandLine.read, hc, if_false] at h
  split at h
  · unfold versionRequest at h
    split at h
    · cases h
    · split at h <;> cases h
  · split at h
    · cases h
    · split at h
      · cases h
      · split at h <;> cases h
      · cases h

/-- Arguments that have been read make a request if there is a path among them. -/
theorem analyze_of_readAnalyze (h : readAnalyze ⟨.empty, .nothing⟩ arguments = .ok d) :
    analyze arguments =
      if d.request.paths.isEmpty then .error .noPaths else .ok (.analyze d.request) := by
  unfold analyze
  rw [h]
  change (if _ then _ else _) = _
  cases d.request.paths <;> rfl

/-- Without the arguments that name the output, the same request is made without one. -/
theorem read_withoutOutput (h : CommandLine.read arguments = .ok (.analyze r)) :
    CommandLine.read (withoutOutput arguments) = .ok (.analyze r.withoutOutput) := by
  rcases arguments with _ | ⟨command, arguments⟩
  · cases h
  · cases analyze_of_read h
    rw [read_analyze] at h
    rw [withoutOutput, read_analyze]
    obtain ⟨d, hd, -⟩ := exists_of_bind_eq_ok h
    obtain ⟨r₁, rfl, hd'⟩ := readAnalyze_dropOutput (.settled (.self .empty) (.self .empty)) hd
    rw [analyze_of_readAnalyze hd] at h
    rw [analyze_of_readAnalyze hd']
    split at h
    case isTrue => cases h
    case isFalse hpaths =>
      cases h
      exact if_neg hpaths

example : withoutOutput ["analyze", "-vo", "graph.mmd", "a.ts", "-c", "o", "--", "-o"] =
    ["analyze", "-v", "a.ts", "-c", "o", "--", "-o"] := by
  decide

end CommandLine

end CallAtlas
