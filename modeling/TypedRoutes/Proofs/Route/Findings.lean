import TypedRoutes.Proofs.Route.Additions
import TypedRoutes.Proofs.Route.Table
import TypedRoutes.Proofs.Route.Tally
import TypedRoutes.Route.Plugin

/-!
The phase that a finding names. What completion says belongs to the first phase; what is said about
an option or about the operations of the inputs belongs to the configuration or to the table; what
is said while a tree is extended belongs to the last phase, and is never an error.
-/

set_option autoImplicit false
set_option relaxedAutoImplicit false

namespace TypedRoutes.Route

open Declaration (Namespace Statement Tree)
open OpenApi (Method Operation Paths Schema)
open Options (Config PluginOption Selection)

theorem phase_of_mem_log_completeSchemas {schemas : List Schema} {finding : Diagnostic}
    (h : finding ∈ (completeSchemas schemas).log) : finding.phase = "pre-process" := by
  obtain ⟨operation, rfl⟩ := exists_of_mem_log_completeSchemas h
  rfl

theorem eq_of_mem_log_collectFrom {selection : Selection} {inputs : Inputs}
    {budget place : Nat} {collected : Paths} {finding : Diagnostic}
    (h : finding ∈ (collectFrom selection inputs budget place collected).log) :
    finding = .inputsUnfinished := by
  induction budget generalizing place collected with
  | zero =>
    unfold collectFrom at h
    split at h
    · exact List.mem_singleton.mp h
    · cases h
  | succ budget ih =>
    unfold collectFrom at h
    split at h
    · cases h
    · exact ih h

namespace Table

private theorem phase_of_mem_log_takeAll {table : Table}
    {operations : List (String × Method × Operation)} {finding : Diagnostic}
    (h : finding ∈ (table.takeAll operations).log) : finding.phase = "metadata" := by
  obtain ⟨before, operation, after, -, told⟩ := mem_log_takeAll_iff.mp h
  obtain ⟨-, rfl⟩ | ⟨record, displaced, -, -, rfl⟩ := mem_log_take_iff.mp told <;> rfl

private theorem phase_of_mem_log_ofInputs {selection : Selection} {inputs : Inputs}
    {finding : Diagnostic}
    (h : finding ∈ (ofInputs selection inputs).log) : finding.phase = "metadata" := by
  obtain collecting | taking := List.mem_append.mp h
  · rw [eq_of_mem_log_collectFrom collecting]
    rfl
  · rw [ofPaths_eq] at taking
    exact phase_of_mem_log_takeAll taking

end Table

namespace Plugin

private theorem phase_of_mem_optionFindings {option : Option PluginOption} {finding : Diagnostic}
    (h : finding ∈ optionFindings option) : finding.phase = "config" := by
  unfold optionFindings at h
  split at h
  · cases h
  · split at h
    · cases h
    · obtain rfl := List.mem_singleton.mp h
      rfl

theorem phase_of_mem_log_postProcess {option : Option PluginOption} {inputs : Inputs}
    {finding : Diagnostic} (h : finding ∈ (postProcess option inputs).log) :
    finding.phase = "config" ∨ finding.phase = "metadata" := by
  obtain found | h := List.mem_append.mp h
  · exact .inl (phase_of_mem_optionFindings found)
  · split at h
    · obtain rfl := List.mem_singleton.mp h
      exact .inl rfl
    · obtain taking | none := List.mem_append.mp h
      · exact .inr (Table.phase_of_mem_log_ofInputs taking)
      · cases none

end Plugin

private theorem exists_of_mem_log_appendToPath {container : String} {table : Table}
    {config : Config} {path : Namespace} {finding : Diagnostic}
    (h : finding ∈ (appendToPath container table config path).log) :
    additions container table config path = .error finding := by
  unfold appendToPath at h
  split at h
  case h_1 => cases h
  case h_2 reason refused =>
    obtain rfl := List.mem_singleton.mp h
    exact refused

private theorem exists_of_mem_log_appendToMember {container : String} {table : Table}
    {config : Config} {member : Statement} {finding : Diagnostic}
    (h : finding ∈ (appendToMember container table config member).log) :
    ∃ path, additions container table config path = .error finding := by
  cases member with
  | namespaceDecl path =>
    simp only [appendToMember, Logged.andThen, List.append_nil] at h
    exact ⟨path, exists_of_mem_log_appendToPath h⟩
  | _ => cases h

private theorem exists_of_mem_log_appendToStatement {table : Table} {config : Config}
    {statement : Statement} {finding : Diagnostic}
    (h : finding ∈ (appendToStatement table config statement).log) :
    ∃ container path, additions container table config path = .error finding := by
  cases statement with
  | namespaceDecl decl =>
    rw [appendToStatement] at h
    split at h
    · simp only [Logged.andThen, List.append_nil] at h
      obtain ⟨member, -, hmember⟩ := List.mem_flatMap.mp h
      exact ⟨decl.name, exists_of_mem_log_appendToMember hmember⟩
    · cases h
  | _ => cases h

private theorem exists_of_mem_log_transform {transformer : Transformer} {tree : Tree}
    {finding : Diagnostic} (h : finding ∈ (transformer.transform tree).log) :
    finding = .containerMissing ∨ ∃ container path,
      additions container transformer.table transformer.config path = .error finding := by
  obtain inside | missing := List.mem_append.mp h
  · obtain ⟨statement, -, hstatement⟩ := List.mem_flatMap.mp inside
    exact .inr (exists_of_mem_log_appendToStatement hstatement)
  · split at missing
    · cases missing
    · exact .inl (List.mem_singleton.mp missing)

theorem phase_severity_of_mem_log_transform {transformer : Transformer} {tree : Tree}
    {finding : Diagnostic} (h : finding ∈ (transformer.transform tree).log) :
    finding.phase = "rewrite" ∧ finding.severity ≠ .error := by
  obtain rfl | ⟨container, path, refused⟩ := exists_of_mem_log_transform h
  · exact ⟨rfl, nofun⟩
  · obtain rfl | rfl | rfl := reason_of_additions refused <;> exact ⟨rfl, nofun⟩

end TypedRoutes.Route
