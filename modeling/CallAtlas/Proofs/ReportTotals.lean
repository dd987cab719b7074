import CallAtlas.Program.Analyzer
import CallAtlas.Proofs.CallSites
import CallAtlas.Proofs.Placement

/-!
# The totals of a report

Functions are found by a cursor and calls by a stack, but both name a function by
`Naming.name?` at a place of the tree, and both come to every place. So the caller of a
call, which is never looked up among the functions, is one of them all the same
(`known_of_mem_among`). Then no call is left out of the graph, and a layout, whose
headers do not count, leaves the totals as they are.
-/

namespace CallAtlas

/-! ## Names of functions -/

namespace FunctionInfo

/-- The cursor collects the functions at the places of the tree. -/
theorem listOf_eq_filterMap (source : SourceText) (t : SyntaxTree) :
    listOf source t = t.visits.filterMap (at? source) :=
  Cursor.walk_eq (at? source) t

/-- Every name that a place of the tree has is that of a function. -/
theorem name_mem_listOf {source : SourceText} {t : SyntaxTree} {p : Place} {name : String}
    (hp : Place.Within t p) (hname : Naming.name? source p = some name) :
    name ∈ (listOf source t).map FunctionInfo.name := by
  have hat : at? source p = some (ofPlace source name p) := by
    unfold at?
    rw [hname]
    rfl
  have hmem : ofPlace source name p ∈ listOf source t := by
    rw [listOf_eq_filterMap, List.mem_filterMap]
    exact ⟨p, SyntaxTree.mem_visits_iff.mpr hp, hat⟩
  exact List.mem_map_of_mem hmem

end FunctionInfo

namespace CallSite

/-- The caller is the name of a place of the tree. -/
theorem caller?_spec {source : SourceText} {t : SyntaxTree} {p : Place} {name : String}
    (hp : Place.Within t p) (h : caller? source p = some name) :
    ∃ q, Place.Within t q ∧ Naming.name? source q = some name := by
  obtain ⟨q, hq, hname⟩ := Option.bind_eq_some_iff.mp h
  exact ⟨q, (hp.ancestor? hq).1, hname⟩

/-- A call that is recorded has a caller around it and a callee that is known. -/
theorem siteAt?_spec {source : SourceText} {functions : List FunctionInfo} {p : Place}
    {c : CallSite} (h : siteAt? source functions p = some c) :
    caller? source p = some c.caller ∧ c.callee ∈ functions.map FunctionInfo.name := by
  unfold siteAt? at h
  split at h
  · split at h
    · next caller callee hcaller _ =>
      split at h
      · next hknown =>
        obtain rfl := Option.some.inj h
        exact ⟨hcaller, hknown⟩
      · cases h
    · cases h
  · cases h

/-- **Every call is between functions of the tree.** -/
theorem known_of_mem_among {source : SourceText} {t : SyntaxTree} {c : CallSite}
    (h : c ∈ among source (FunctionInfo.listOf source t) t) :
    c.caller ∈ (FunctionInfo.listOf source t).map FunctionInfo.name ∧
      c.callee ∈ (FunctionInfo.listOf source t).map FunctionInfo.name := by
  rw [among_eq_filterMap, List.mem_filterMap] at h
  obtain ⟨p, hp, hrecord⟩ := h
  obtain ⟨hcaller, hcallee⟩ := siteAt?_spec hrecord
  obtain ⟨q, hq, hname⟩ := caller?_spec (SyntaxTree.mem_visits_iff.mp hp) hcaller
  exact ⟨FunctionInfo.name_mem_listOf hq hname, hcallee⟩

end CallSite

/-! ## Totals -/

namespace CallGraph

variable {α : Type}

/-- A graph that has just been built has as many nodes as there are functions. -/
theorem build_stats_nodes [Measure α] (functions : List FunctionInfo) (calls : List CallSite) :
    (build functions calls : CallGraph α).stats.nodes = functions.length := by
  unfold stats functionNodes build
  rw [List.filter_eq_self.mpr fun n hn => by rw [nodesOf_not_header hn]; rfl]
  exact length_nodesOf functions

/-- Headers do not count as nodes. -/
theorem layout_stats_nodes [AngularMeasure α] (s : LayoutSettings α) (g : CallGraph α) :
    (Layout.graph s g).stats.nodes = g.stats.nodes := by
  have hlength := congrArg List.length (Layout.graph_functionNodes s g)
  rw [List.length_map, List.length_map] at hlength
  exact hlength

theorem layout_stats_totalCalls [AngularMeasure α] (s : LayoutSettings α) (g : CallGraph α) :
    (Layout.graph s g).stats.totalCalls = g.stats.totalCalls := rfl

end CallGraph

namespace Report

/-- The graph of a report that leaves nothing out is the graph of the analysis, laid
out. -/
theorem ofAnalysis_graph {α : Type} [AngularMeasure α] {filter : NodeFilter}
    (hfilter : filter.isEmpty = true) (s : LayoutSettings α) (path : String)
    (analysis : SourceAnalysis) :
    (ofAnalysis filter false s path analysis).graph =
      Layout.graph s (.build analysis.functions analysis.calls) := by
  unfold ofAnalysis
  dsimp only
  rw [if_pos hfilter]
  rfl

end Report

namespace Analyzer

/-- **The totals of a report.** Both ends of every call of a tree are functions of the
tree. So every call is counted in an edge of their graph, between the first nodes that
show these functions, and all edges together count the calls. The report of an analyzer
that leaves nothing out tells the numbers of the functions and of the calls, however the
graph is laid out. -/
theorem report_totals (source : SourceText) (t : SyntaxTree) :
    let functions := FunctionInfo.listOf source t
    let calls := CallSite.among source functions t
    let graph : CallGraph Float := .build functions calls
    (∀ c ∈ calls, c.caller ∈ functions.map FunctionInfo.name ∧
      c.callee ∈ functions.map FunctionInfo.name) ∧
    (∀ c ∈ calls, ∃ e ∈ graph.edges, ∃ caller callee : Node Float,
      graph.nodes.find? (·.label == c.caller) = some caller ∧
      graph.nodes.find? (·.label == c.callee) = some callee ∧
      e.source = caller.id ∧ e.target = callee.id ∧
      e.callCount = calls.countP fun d => d.caller == c.caller && d.callee == c.callee) ∧
    Number.total (graph.edges.map Edge.callCount) = calls.length ∧
    ∀ (a : Analyzer) (path : String), a.filter.isEmpty = true →
      a.configuration.output.simplify = false →
      (a.report path (.ofTree source t)).graph.stats.nodes = functions.length ∧
      (a.report path (.ofTree source t)).graph.stats.totalCalls = calls.length := by
  intro functions calls graph
  have hknown : ∀ c ∈ calls, c.caller ∈ functions.map FunctionInfo.name ∧
      c.callee ∈ functions.map FunctionInfo.name := fun c hc => CallSite.known_of_mem_among hc
  have htotal : Number.total (graph.edges.map Edge.callCount) = calls.length :=
    CallGraph.total_callCount hknown
  refine ⟨hknown, fun c hc => ?_, htotal, fun a path hfilter hsimplify => ?_⟩
  · obtain ⟨e, he, s, u, hs, hu, hsource, htarget, hcount⟩ :=
      CallGraph.exists_edge_of_call (α := Float) hc (hknown c hc).1 (hknown c hc).2
    refine ⟨e, he, s, u, hs, hu, hsource, htarget, hcount.trans ?_⟩
    rw [List.count, List.countP_map]
    rfl
  · -- a filter that asks for nothing is left out, and layouts change no totals
    have hgraph : (a.report path (.ofTree source t)).graph =
        Layout.graph a.configuration.layout graph := by
      unfold report
      rw [hsimplify]
      exact Report.ofAnalysis_graph hfilter _ _ _
    rw [hgraph, CallGraph.layout_stats_nodes, CallGraph.layout_stats_totalCalls]
    exact ⟨CallGraph.build_stats_nodes functions calls, htotal⟩

/-- The tree of `function f(){f()}`. -/
def selfCall : SyntaxTree :=
  .onLine "program" none 0 17 [
    .onLine "function_declaration" none 0 17 [
      .onLine "identifier" (some "name") 9 10 [],
      .onLine "formal_parameters" (some "parameters") 10 12 [],
      .onLine "statement_block" (some "body") 12 17 [
        .onLine "expression_statement" none 13 16 [
          .onLine "call_expression" none 13 16 [
            .onLine "identifier" (some "function") 13 14 [],
            .onLine "arguments" (some "arguments") 14 16 []]]]]]

theorem report_totals_selfCall :
    let source := SourceText.ofString "function f(){f()}"
    let a : Analyzer := ⟨.standard, .all, ⟨[], []⟩⟩
    (a.report "f.js" (.ofTree source selfCall)).graph.stats.nodes = 1 ∧
      (a.report "f.js" (.ofTree source selfCall)).graph.stats.totalCalls = 1 := by
  intro source a
  obtain ⟨-, -, -, htotals⟩ := report_totals source selfCall
  obtain ⟨hnodes, hcalls⟩ := htotals a "f.js" rfl rfl
  have hfunctions : (FunctionInfo.listOf source selfCall).length = 1 := by
    rw [FunctionInfo.listOf_eq_filterMap]
    decide +kernel
  have hsites :
      (CallSite.among source (FunctionInfo.listOf source selfCall) selfCall).length = 1 := by
    rw [CallSite.among_eq_filterMap, FunctionInfo.listOf_eq_filterMap]
    decide +kernel
  exact ⟨hnodes.trans hfunctions, hcalls.trans hsites⟩

end Analyzer

end CallAtlas
