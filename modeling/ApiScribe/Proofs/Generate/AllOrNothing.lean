import ApiScribe.Proofs.Dialect.Members
import ApiScribe.Proofs.Generate.Files

/-!
# Members are written whole or not at all

A member is planned before anything reaches the page, so a plan that fails leaves the page as it was
(`printMethod_eq`). A plan that succeeds is a paired layout, so all that it does is to add a text,
and a strict run of it ends on the same page: no step out is lost on the way, even on a page at
level zero.
-/

namespace ApiScribe.Job

open Model Plan Source Writing

variable (j : Job) (c : ClassDef)

theorem paired_of_methodLayout (m : Method) {layout : List Step}
    (h : j.methodLayout c m = .ok layout) : Paired layout := by
  obtain ⟨-, p, b, -, -, rfl⟩ := methodLayout_eq_ok_iff.1 h
  exact j.config.language.isPaired_dialect.method _ p _ b

theorem paired_of_propertyLayout (p : Property) {layout : List Step}
    (h : j.propertyLayout c p = .ok layout) : Paired layout := by
  rw [propertyLayout] at h
  obtain ⟨decl, -, rfl⟩ := map_eq_ok_iff.1 h
  exact j.config.language.isPaired_dialect.property decl

/-- What becomes of a page when a plan, paired if there is one, is put onto it. -/
theorem run_putPlanned {planned : Except CodeError (List Step)}
    (h : ∀ layout, planned = .ok layout → Paired layout) (level : Nat) (unit : String) :
    (∃ e, planned = .error e ∧ ∀ output,
        (putPlanned planned).run ⟨output, level, unit⟩ = .error e ⟨output, level, unit⟩) ∨
      ∃ layout text, planned = .ok layout ∧ ∀ output,
        Page.run? ⟨output, level, unit⟩ layout = some ⟨output ++ text, level, unit⟩ ∧
          (putPlanned planned).run ⟨output, level, unit⟩ =
            .ok () ⟨output ++ text, level, unit⟩ := by
  cases planned with
  | error e => exact .inl ⟨e, rfl, fun _ ↦ rfl⟩
  | ok layout =>
    obtain ⟨text, htext⟩ := (h layout rfl).exists_adds unit level
    refine .inr ⟨layout, text, rfl, fun output ↦ ⟨htext ⟨output, level, unit⟩ rfl rfl, ?_⟩⟩
    exact congrArg (EStateM.Result.ok ()) (htext.run_eq ⟨output, level, unit⟩)

/-- **A member is written whole or not at all.** Either writing fails and leaves the page as it was,
or it adds a text that depends on the level and the unit of the page only. No step out is lost on
the way. -/
theorem print_all_or_nothing (level : Nat) (unit : String) :
    (∀ m : Method,
      (∃ e, j.methodLayout c m = .error e ∧ ∀ output,
          (j.printMethod c m).run ⟨output, level, unit⟩ = .error e ⟨output, level, unit⟩) ∨
        ∃ layout text, j.methodLayout c m = .ok layout ∧ ∀ output,
          Page.run? ⟨output, level, unit⟩ layout = some ⟨output ++ text, level, unit⟩ ∧
            (j.printMethod c m).run ⟨output, level, unit⟩ =
              .ok () ⟨output ++ text, level, unit⟩) ∧
      ∀ p : Property,
        (∃ e, j.propertyLayout c p = .error e ∧ ∀ output,
            (j.printProperty c p).run ⟨output, level, unit⟩ = .error e ⟨output, level, unit⟩) ∨
          ∃ layout text, j.propertyLayout c p = .ok layout ∧ ∀ output,
            Page.run? ⟨output, level, unit⟩ layout = some ⟨output ++ text, level, unit⟩ ∧
              (j.printProperty c p).run ⟨output, level, unit⟩ =
                .ok () ⟨output ++ text, level, unit⟩ := by
  refine ⟨fun m ↦ ?_, fun p ↦ ?_⟩
  · rw [printMethod_eq]
    exact run_putPlanned (fun _ ↦ j.paired_of_methodLayout c m) level unit
  · rw [printProperty_eq]
    exact run_putPlanned (fun _ ↦ j.paired_of_propertyLayout c p) level unit

end ApiScribe.Job
