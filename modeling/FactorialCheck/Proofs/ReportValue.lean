import FactorialCheck.Proofs.ConfigurationValue
import FactorialCheck.Proofs.Json.Texts
import FactorialCheck.Proofs.ReportText

/-!
# Reports as values

The line of a report is read as an object of its results, so that it tells any two
reports apart. The same object is a configuration with the input of the report.
-/

namespace FactorialCheck

namespace Report

theorem exact_toJson (report : Report) : report.toJson.Exact := by
  have hkeys : ["input", "recursive", "for_loop", "while_loop", "agrees"].Nodup := by decide
  refine .object hkeys ?_
  simp only [List.forall_mem_cons, List.not_mem_nil, false_implies, implies_true, and_true]
  exact ⟨.integer _, .integer _, .integer _, .integer _, .bool _⟩

theorem parse?_json (report : Report) : Json.parse? report.json = some report.toJson :=
  report.exact_toJson.parse?_compact

theorem eq_of_toJson_eq {first second : Report} (h : first.toJson = second.toJson) :
    first = second := by
  simp only [toJson, Json.object.injEq, List.cons.injEq, Prod.mk.injEq, Json.integer.injEq,
    true_and, Int.natCast_inj] at h
  obtain ⟨hinput, hrecursive, hfor, hwhile, -⟩ := h
  cases first
  cases second
  rw [mk.injEq]
  exact ⟨Int64.toInt_inj.mp hinput, UInt64.toNat_inj.mp hrecursive, UInt64.toNat_inj.mp hfor,
    UInt64.toNat_inj.mp hwhile⟩

theorem eq_of_json_eq {first second : Report} (h : first.json = second.json) : first = second :=
  eq_of_toJson_eq (first.exact_toJson.eq_of_compact_eq second.exact_toJson h)

theorem ofJson_toJson (report : Report) :
    Configuration.ofJson report.toJson = .ok ⟨report.input⟩ := by
  have hentry : Configuration.ofJson report.toJson =
      (Configuration.inputOfJson (.integer report.input.toInt)).map Configuration.mk := rfl
  rw [hentry, Configuration.inputOfJson_toInt]
  rfl

/--
The text of a report, whatever its numbers are, is one line that is read as an object
with five keys in this order: the input and the three results, each as it is, and
whether the three results are equal. No other report has the same text, and the
object is a configuration with the input of the report.
-/
theorem json_loses_nothing (report : Report) :
    '\n' ∉ report.json.toList ∧
    Json.parse? report.json = some (.object
      [("input", .integer report.input.toInt),
       ("recursive", .integer report.recursive.toNat),
       ("for_loop", .integer report.forLoop.toNat),
       ("while_loop", .integer report.whileLoop.toNat),
       ("agrees", .bool report.agrees)]) ∧
    (report.agrees = true ↔
      report.recursive = report.forLoop ∧ report.recursive = report.whileLoop) ∧
    (∀ other : Report, other.json = report.json → other = report) ∧
    ∃ value, Json.parse? report.json = some value ∧
      Configuration.ofJson value = .ok ⟨report.input⟩ :=
  ⟨report.newline_not_mem_json, report.parse?_json, report.agrees_iff, fun _ => eq_of_json_eq,
    report.toJson, report.parse?_json, report.ofJson_toJson⟩

end Report

end FactorialCheck
