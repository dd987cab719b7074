import CallAtlas.Proofs.Arguments
import CallAtlas.Proofs.Saving

/-!
# How a run ends

A run reads the configuration, finds the files, analyses them and hands over the result.
The first two can stop it and leave the tree alone. The analysis cannot stop it,
whatever the parsers say and whatever is in the files: it always comes to reports. After
that only the saving of the output can (`run_exit`). What a run with an output saves is
what the same run without one prints, since nothing else depends on where the result
goes (`run_stages`).
-/

namespace CallAtlas

namespace AnalyzeRequest

variable {σ : Type} (parse : Dialect → SourceText → StateM σ SyntaxTree) (s : σ) (t : FileTree)
  (r : AnalyzeRequest)

/-! ## The stages of a run -/

/-- Whether a request comes to the analysis: its configuration can be read, and there are
files to analyse. -/
def Ready : Prop := ∃ c found, r.configurationIn t = .ok c ∧ r.filesIn t c = .ok found

/-- Whether nothing stops a request: it comes to the analysis, and its output, if it names
one, can be saved. -/
def Proceeds : Prop := r.Ready t ∧ ∀ path, r.output = some path → (t.save path "").2 = none

/-- A run is stopped before the analysis and leaves the tree alone, or it comes to a text, which
is printed without an output and handed over with one. -/
theorem run_stages :
    (¬r.Ready t ∧ ∃ said failure, ((r.run parse t).run s).1 = .failed t said failure) ∨
      r.Ready t ∧ ∃ said text, ((r.run parse t).run s).1 = r.deliver t said text ∧
        ((r.withoutOutput.run parse t).run s).1 = .printed t said text := by
  cases hc : r.configurationIn t with
  | error failure =>
    refine .inl ⟨?_, [], failure, ?_⟩
    · rintro ⟨c, found, hc', -⟩
      rw [hc] at hc'
      cases hc'
    · unfold AnalyzeRequest.run
      simp only [hc]
      rfl
  | ok c =>
    cases hf : r.filesIn t c with
    | error failure =>
      refine .inl ⟨?_, r.heading c, failure, ?_⟩
      · rintro ⟨c', found, hc', hf'⟩
        rw [hc] at hc'
        cases hc'
        rw [hf] at hf'
        cases hf'
      · unfold AnalyzeRequest.run
        simp only [hc, hf]
        rfl
    | ok found =>
      obtain ⟨analyzer, files⟩ := found
      let said := r.heading c ++ r.notes [s!"Found {files.length} source file(s)"]
      let text := analyzer.render ((analyzer.reportFiles parse t files).run s).1
      refine .inr ⟨⟨c, _, hc, hf⟩, said, text, ?_, ?_⟩
      · unfold AnalyzeRequest.run
        simp only [hc, hf]
        rfl
      · -- Up to here nothing has asked for the output.
        have hc' : r.withoutOutput.configurationIn t = .ok c := hc
        have hf' : r.withoutOutput.filesIn t c = .ok (analyzer, files) := hf
        unfold AnalyzeRequest.run
        simp only [hc', hf']
        rfl

/-- A text is printed, or it is saved, or the saving fails. -/
theorem deliver_cases (said : List String) (text : String) :
    (r.output = none ∧ r.deliver t said text = .printed t said text) ∨
      (∃ path t' messages, r.output = some path ∧ t.save path text = (t', none) ∧
        r.deliver t said text = ⟨0, "", messages, t'⟩) ∨
      ∃ path t' fault, r.output = some path ∧ t.save path text = (t', some fault) ∧
        r.deliver t said text = .failed t' said (.files fault) := by
  unfold deliver
  cases r.output with
  | none => exact .inl ⟨rfl, rfl⟩
  | some path =>
    rcases hs : t.save path text with ⟨t', _ | fault⟩
    · exact .inr (.inl ⟨path, t', Outcome.lines (said ++ r.notes ["Output written to: " ++ path]),
        rfl, hs, by simp only [hs]⟩)
    · refine .inr (.inr ⟨path, t', fault, rfl, hs, ?_⟩)
      simp only [hs]

/-! ## What stops a run -/

/-- Whether a text can be saved does not depend on the text. -/
theorem save_fault_eq (path text text' : String) :
    (t.save path text').2 = (t.save path text).2 :=
  (t.save_bare path text' "").symm.trans (t.save_bare path text "")

/-- A run ends with zero if nothing stops it, and otherwise with one. -/
theorem run_exit :
    ((r.run parse t).run s).1.exit = 0 ∧ r.Proceeds t ∨
      ((r.run parse t).run s).1.exit = 1 ∧ ¬r.Proceeds t := by
  rcases run_stages parse s t r with ⟨hready, said, failure, hrun⟩ | ⟨hready, said, text, hrun, -⟩
  · rw [hrun]
    exact .inr ⟨rfl, fun h => hready h.1⟩
  · rw [hrun]
    rcases deliver_cases t r said text with ⟨hr, hd⟩ | ⟨path, t', messages, hr, hs, hd⟩ |
      ⟨path, t', fault, hr, hs, hd⟩
    · rw [hd]
      refine .inl ⟨rfl, hready, fun path hp => ?_⟩
      rw [hr] at hp
      cases hp
    · rw [hd]
      refine .inl ⟨rfl, hready, fun p hp => ?_⟩
      rw [hr] at hp
      cases hp
      rw [save_fault_eq t path text, hs]
    · rw [hd]
      refine .inr ⟨rfl, fun h => ?_⟩
      have hnone := h.2 path hr
      rw [save_fault_eq t path text, hs] at hnone
      cases hnone

theorem filesIn_bare (c : Configuration Float) : r.filesIn t.bare c = r.filesIn t c := by
  unfold filesIn Analyzer.discover
  simp only [FileTree.discover_bare]

variable {t r} in
/-- Whether a run is stopped does not depend on what is in the files, apart from the
configuration. -/
theorem proceeds_congr {t' : FileTree} (hb : t'.bare = t.bare)
    (hc : r.configurationIn t' = r.configurationIn t) : r.Proceeds t' ↔ r.Proceeds t := by
  have hfiles : ∀ c, r.filesIn t' c = r.filesIn t c := by
    intro c
    rw [← filesIn_bare, hb, filesIn_bare]
  have hsave : ∀ path, (t'.save path "").2 = (t.save path "").2 := by
    intro path
    rw [← FileTree.save_bare t' path "" "", hb, FileTree.save_bare]
  unfold Proceeds Ready
  simp only [hc, hfiles, hsave]

/-! ## What a run leaves behind -/

variable {parse s t r}

/-- A run that is stopped prints nothing as its result, and leaves the tree alone unless
it was saving the output. -/
theorem run_stopped (h : ((r.run parse t).run s).1.exit ≠ 0) :
    ((r.run parse t).run s).1.output = "" ∧ (((r.run parse t).run s).1.tree = t ∨
      ∃ path text fault, r.output = some path ∧
        t.save path text = (((r.run parse t).run s).1.tree, some fault)) := by
  rcases run_stages parse s t r with ⟨-, said, failure, hrun⟩ | ⟨-, said, text, hrun, -⟩
  · rw [hrun]
    exact ⟨rfl, .inl rfl⟩
  · rw [hrun] at h ⊢
    rcases deliver_cases t r said text with ⟨-, hd⟩ | ⟨path, t', messages, -, -, hd⟩ |
      ⟨path, t', fault, hr, hs, hd⟩
    · rw [hd] at h
      exact absurd rfl h
    · rw [hd] at h
      exact absurd rfl h
    · rw [hd]
      exact ⟨rfl, .inr ⟨path, text, fault, hr, hs⟩⟩

/-- A run that comes to its end saves what the same request prints without an output. -/
theorem run_saved {path : String} (hr : r.output = some path)
    (h : ((r.run parse t).run s).1.exit = 0) :
    ∃ said text, ((r.withoutOutput.run parse t).run s).1 = .printed t said text ∧
      ((r.run parse t).run s).1.output = "" ∧
      t.save path text = (((r.run parse t).run s).1.tree, none) := by
  rcases run_stages parse s t r with ⟨-, said, failure, hrun⟩ | ⟨-, said, text, hrun, hprinted⟩
  · rw [hrun] at h
    cases h
  · rw [hrun] at h ⊢
    refine ⟨said, text, hprinted, ?_⟩
    rcases deliver_cases t r said text with ⟨hr', -⟩ | ⟨path', t', messages, hr', hs, hd⟩ |
      ⟨path', t', fault, -, -, hd⟩
    · rw [hr] at hr'
      cases hr'
    · rw [hr] at hr'
      cases hr'
      rw [hd]
      exact ⟨rfl, hs⟩
    · rw [hd] at h
      cases h

end AnalyzeRequest

/-- How a run ends. If it is stopped, it prints nothing as its result and has at most made
directories for an output that could not be saved. If it comes to its end with an
output, it saves exactly what it prints without one. And it comes to its end whatever
the parsers say and whatever is in the files, apart from the configuration. -/
theorem run_outcome {arguments : List String} {r : AnalyzeRequest}
    (h : CommandLine.read arguments = .ok (.analyze r)) {σ : Type}
    (parse : Dialect → SourceText → StateM σ SyntaxTree) (s : σ) (t : FileTree) :
    let o := ((CommandLine.run parse t arguments).run s).1
    (o.exit ≠ 0 → o.output = "" ∧ (o.tree = t ∨ ∃ path text fault, r.output = some path ∧
      t.save path text = (o.tree, some fault) ∧
      FileTree.Extends (Path.Upward (Path.parent path)) t o.tree)) ∧
    (∀ path, o.exit = 0 → r.output = some path →
      let printed := ((CommandLine.run parse t (CommandLine.withoutOutput arguments)).run s).1
      o.output = "" ∧ printed.exit = 0 ∧ ∃ trail text,
        o.tree.find path = .ok (trail, .file text.toUTF8) ∧ printed.output = text ++ "\n") ∧
    (o.exit = 0 ↔ r.Proceeds t) ∧
    ∀ (σ' : Type) (parse' : Dialect → SourceText → StateM σ' SyntaxTree) (s' : σ') (t' : FileTree),
      t'.bare = t.bare → r.configurationIn t' = r.configurationIn t →
        ((CommandLine.run parse' t' arguments).run s').1.exit = o.exit := by
  have hrun : ∀ {σ' : Type} (parse' : Dialect → SourceText → StateM σ' SyntaxTree) (t' : FileTree),
      CommandLine.run parse' t' arguments = r.run parse' t' := by
    intro σ' parse' t'
    unfold CommandLine.run
    rw [h]
  have hwithout : CommandLine.run parse t (CommandLine.withoutOutput arguments) =
      r.withoutOutput.run parse t := by
    unfold CommandLine.run
    rw [CommandLine.read_withoutOutput h]
  intro o
  have ho : o = ((r.run parse t).run s).1 := by
    rw [← hrun]
  refine ⟨fun hexit => ?_, fun path hexit hr => ?_, ?_, ?_⟩
  · -- a run that stops has changed the tree by a saving that failed, if at all
    rw [ho] at hexit ⊢
    obtain ⟨hout, htree⟩ := AnalyzeRequest.run_stopped hexit
    refine ⟨hout, htree.imp_right ?_⟩
    rintro ⟨path, text, fault, hr, hs⟩
    exact ⟨path, text, fault, hr, hs, FileTree.save_fault hs⟩
  · rw [ho] at hexit ⊢
    -- both runs come to the same text; one prints what the other saves
    obtain ⟨said, text, hprinted, hout, hs⟩ := AnalyzeRequest.run_saved hr hexit
    obtain ⟨trail, hf⟩ := FileTree.find_of_save hs
    intro printed
    have hp : printed = .printed t said text := by
      rw [← hprinted, ← hwithout]
    rw [hp]
    exact ⟨hout, rfl, trail, text, hf, rfl⟩
  · rw [ho]
    rcases AnalyzeRequest.run_exit parse s t r with ⟨he, hp⟩ | ⟨he, hp⟩
    · exact ⟨fun _ => hp, fun _ => he⟩
    · exact ⟨fun h0 => absurd (he.symm.trans h0) Nat.one_ne_zero, fun h => absurd h hp⟩
  · -- whether a run proceeds is told by the bare tree, which both trees have in common
    intro σ' parse' s' t' hb hc
    rw [ho, hrun]
    have hiff := AnalyzeRequest.proceeds_congr hb hc
    rcases AnalyzeRequest.run_exit parse s t r with ⟨he, hp⟩ | ⟨he, hp⟩ <;>
      rcases AnalyzeRequest.run_exit parse' s' t' r with ⟨he', hp'⟩ | ⟨he', hp'⟩
    · rw [he, he']
    · exact absurd (hiff.mpr hp) hp'
    · exact absurd (hiff.mp hp') hp
    · rw [he, he']

/-- Parsers that find nothing in any text. -/
def emptyParsers (_ : Dialect) (_ : SourceText) : StateM Unit SyntaxTree :=
  return .node ⟨"program", true, none, false, false, false, 0, 0, ⟨0, 0⟩, ⟨0, 0⟩⟩ []

/-- A tree with one file, where paths start. -/
def oneFile (content : String) : FileTree := ⟨.directory [("a.ts", .file content.toUTF8)], []⟩

/-- A request to analyse that file and to save the result beside it. -/
def savingRequest : AnalyzeRequest :=
  { AnalyzeRequest.empty with paths := ["a.ts"], output := some "graph.txt" }

theorem at?_oneFile (content : String) : (oneFile content).root.at? (oneFile content).home =
    some (.directory [("a.ts", .file content.toUTF8)]) := Entry.at?_nil _

/-- Under another name there is nothing. -/
theorem find_oneFile_of_ne (content : String) {name : String} (hname : FileTree.Plain name)
    (hother : ("a.ts" == name) = false) : (oneFile content).find name = .error .missing := by
  have hfree : Entry.member? [("a.ts", .file content.toUTF8)] name = none := by
    rw [Entry.member?, List.find?_singleton, hother]
    rfl
  rw [FileTree.find_name hname (at?_oneFile content) fun target hlink => ?_, hfree]
  rw [hfree] at hlink
  cases hlink

/-- No configuration is there, so what is standard holds. -/
theorem configurationIn_oneFile (content : String) :
    savingRequest.configurationIn (oneFile content) = .ok .standard := by
  have hplain : FileTree.Plain AnalyzeRequest.standardConfigurationPath := by decide
  have hload : Configuration.loadFile (oneFile content) AnalyzeRequest.standardConfigurationPath =
      .error (.files .missing) := by
    rw [Configuration.loadFile, FileTree.read, find_oneFile_of_ne content hplain (by decide)]
  have hfault : (Configuration.standard : Configuration Float).fault? = none := by decide +kernel
  have hkept : (Configuration.standard : Configuration Float).override savingRequest.overrides =
      (.standard, none) :=
    congrArg (fun fault => (_, fault.map Configuration.OverrideFault.invalid)) hfault
  have hunnamed : savingRequest.configuration = none := rfl
  unfold AnalyzeRequest.configurationIn
  simp only [hunnamed, hload, bind, Except.bind, hkept]

/-- The one file is what is found. -/
theorem filesIn_oneFile (content : String) :
    ∃ analyzer, savingRequest.filesIn (oneFile content) .standard = .ok (analyzer, ["a.ts"]) := by
  let standard : Configuration Float := .standard
  have hpatterns : (Selection.ofStrings standard.analysis.include_
      standard.analysis.exclude).toOption.isSome = true := by decide +kernel
  have hplain : FileTree.Plain "a.ts" := by decide
  have hfind : (oneFile content).find "a.ts" = .ok (["a.ts"], .file content.toUTF8) :=
    FileTree.find_name hplain (at?_oneFile content) fun target hlink => nomatch hlink
  cases hselection : Selection.ofStrings standard.analysis.include_ standard.analysis.exclude with
  | error fault =>
    rw [hselection] at hpatterns
    cases hpatterns
  | ok selection =>
    let analyzer : Analyzer := ⟨standard, savingRequest.filter, selection⟩
    have hread : Analyzer.ofConfiguration standard savingRequest.filter = .ok analyzer := by
      rw [Analyzer.ofConfiguration, hselection]
    have hfound : analyzer.discover (oneFile content) savingRequest.paths = .ok ["a.ts"] := by
      show analyzer.discover (oneFile content) ["a.ts"] = _
      rw [Analyzer.discover, FileTree.discover, hfind]
      rfl
    refine ⟨analyzer, ?_⟩
    rw [AnalyzeRequest.filesIn, hread]
    show (analyzer.discover (oneFile content) savingRequest.paths >>= _) = _
    rw [hfound]
    rfl

/-- Nothing stops the request, whatever is in the file. -/
theorem proceeds_oneFile (content : String) : savingRequest.Proceeds (oneFile content) := by
  obtain ⟨analyzer, hfiles⟩ := filesIn_oneFile content
  refine ⟨⟨_, _, configurationIn_oneFile content, hfiles⟩, fun path hpath => ?_⟩
  obtain rfl : "graph.txt" = path := Option.some.inj hpath
  have hplain : FileTree.Plain "graph.txt" := by decide
  rw [FileTree.save_name hplain (at?_oneFile content) rfl]

/-- A run on one file saves what it prints if it is not to save anything, and ends alike
whatever is in the file; and it is stopped if it is to read a configuration that is not there. -/
theorem run_outcome_oneFile :
    let run := fun content arguments =>
      ((CommandLine.run emptyParsers (oneFile content) arguments).run ()).1
    let saving := run "f();" ["analyze", "-o", "graph.txt", "a.ts"]
    let printing := run "f();" ["analyze", "a.ts"]
    let stopped := run "f();" ["analyze", "-c", "callmap.toml", "-o", "graph.txt", "a.ts"]
    saving.exit = 0 ∧ saving.output = "" ∧ printing.exit = 0 ∧
      (∃ trail text, saving.tree.find "graph.txt" = .ok (trail, .file text.toUTF8) ∧
        printing.output = text ++ "\n") ∧
      (run "" ["analyze", "-o", "graph.txt", "a.ts"]).exit = 0 ∧
      stopped.exit ≠ 0 ∧ stopped.output = "" := by
  intro run saving printing stopped
  have hread : CommandLine.read ["analyze", "-o", "graph.txt", "a.ts"] =
      .ok (.analyze savingRequest) := rfl
  have hconfigured : CommandLine.read
      ["analyze", "-c", "callmap.toml", "-o", "graph.txt", "a.ts"] =
      .ok (.analyze { savingRequest with configuration := some "callmap.toml" }) := rfl
  obtain ⟨-, hsaved, hexit, halike⟩ := run_outcome hread emptyParsers () (oneFile "f();")
  have hends : saving.exit = 0 := hexit.mpr (proceeds_oneFile "f();")
  obtain ⟨hsilent, hprints, htext⟩ := hsaved "graph.txt" hends rfl
  have hsame : (run "" ["analyze", "-o", "graph.txt", "a.ts"]).exit = saving.exit :=
    halike Unit emptyParsers () (oneFile "") rfl
      ((configurationIn_oneFile "").trans (configurationIn_oneFile "f();").symm)
  obtain ⟨hstopped, -, hexit', -⟩ := run_outcome hconfigured emptyParsers () (oneFile "f();")
  have hstops : stopped.exit ≠ 0 := by
    intro hzero
    obtain ⟨⟨c, found, hc, -⟩, -⟩ := hexit'.mp hzero
    have hplain : FileTree.Plain "callmap.toml" := by decide
    unfold AnalyzeRequest.configurationIn Configuration.loadFile FileTree.read at hc
    simp only [find_oneFile_of_ne "f();" hplain (by decide)] at hc
    cases hc
  exact ⟨hends, hsilent, hprints, htext, hsame.trans hends, hstops, (hstopped hstops).1⟩

end CallAtlas
