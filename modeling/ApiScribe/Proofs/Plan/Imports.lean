import ApiScribe.Plan.Declaration
import ApiScribe.Proofs.Order.Stable

/-!
# The imports of a class

An entry of a class asks for a name from outside, or for a declaration of the model, and then only
if its link leads somewhere (`Brings`). The head of a class has exactly what its entries bring
(`mem_imports_iff`).

The order of imports is linear, so the list of them depends on nothing but its members: entries can
be rearranged and repeated (`imports_eq_of_mem_iff`).
-/

namespace ApiScribe.Plan

open Model

/-! ## The order of imports -/

namespace ImportEntry

theorem le_iff {a b : ImportEntry} :
    le a b = true ↔
      a.module < b.module ∨ a.module = b.module ∧
        (a.name < b.name ∨ a.name = b.name ∧ (a.external = true → b.external = true)) := by
  cases ha : a.external <;> cases hb : b.external <;> simp [le, ha, hb]

theorem le_total (a b : ImportEntry) : le a b = true ∨ le b a = true := by
  rw [le_iff, le_iff]
  grind

theorem le_trans (a b c : ImportEntry) (hab : le a b = true) (hbc : le b c = true) :
    le a c = true := by
  rw [le_iff] at hab hbc ⊢
  grind

theorem le_antisymm (a b : ImportEntry) (hab : le a b = true) (hba : le b a = true) : a = b := by
  rw [le_iff] at hab hba
  have hmodule : a.module = b.module := by grind
  have hname : a.name = b.name := by grind
  have hexternal : a.external = b.external := by
    rw [Bool.eq_iff_iff]
    grind
  cases a
  cases b
  exact ImportEntry.mk.injEq .. ▸ ⟨hmodule, hname, hexternal⟩

end ImportEntry

/-! ## What is imported -/

variable {m : CodeModel} {config : Config}

/-- What a file has to import for an entry of a class. -/
inductive Brings (m : CodeModel) (config : Config) (u : Import) : ImportEntry → Prop
  /-- A name from outside comes from the source it gives, or else from a module of that name. -/
  | outside (hlink : u.link = none) :
      Brings m config u ⟨u.source.getD u.name, u.name, true⟩
  /-- A declaration of the model comes from its namespace. -/
  | inside {link : Link} {d : Definition} (hlink : u.link = some link)
      (hd : m.resolve? link = some d) :
      Brings m config u ⟨namespaceOf m config d.parent, Spelling.typeName d.name, false⟩

theorem importFor?_eq_some_iff {u : Import} {i : ImportEntry} :
    importFor? m config u = some i ↔ Brings m config u i := by
  constructor
  · intro h
    rw [importFor?] at h
    split at h
    · next link hlink =>
      obtain ⟨d, hd, rfl⟩ := Option.map_eq_some_iff.1 h
      exact .inside hlink hd
    · next hlink =>
      cases h
      exact .outside hlink
  · rintro (hlink | ⟨hlink, hd⟩)
    · rw [importFor?, hlink]
    · rw [importFor?, hlink]
      simp only [hd, Option.map_some]

theorem classHead_eq_ok_iff {s : Spelling} {c : ClassDef} {decl : ClassHead} :
    classHead m s config c = .ok decl ↔
      c.name ≠ "" ∧ decl =
        { definition := c
          name := Spelling.typeName c.name
          namespaceName := namespaceOf m config c.parent
          base := c.base.map fun t ↦ s.typeOf t.name
          parsable := c.methods.any (·.kind == .serializer)
          imports :=
            (sortBy ImportEntry.le (c.imports.filterMap (importFor? m config))).eraseReps } := by
  rw [classHead]
  by_cases hname : c.name = ""
  · simp [hname]
  · simp [hname, eq_comm (a := decl)]

theorem mem_imports_iff {s : Spelling} {c : ClassDef} {decl : ClassHead}
    (hdecl : classHead m s config c = .ok decl) {i : ImportEntry} :
    i ∈ decl.imports ↔ ∃ u ∈ c.imports, Brings m config u i := by
  obtain ⟨-, rfl⟩ := classHead_eq_ok_iff.1 hdecl
  simp only [mem_eraseReps, mem_sortBy, List.mem_filterMap, importFor?_eq_some_iff]

/-- Imports depend on which entries there are, and not on their order or number. -/
theorem imports_eq_of_mem_iff {l l' : List Import} (h : ∀ u, u ∈ l' ↔ u ∈ l) :
    List.eraseReps (sortBy ImportEntry.le (l'.filterMap (importFor? m config))) =
      List.eraseReps (sortBy ImportEntry.le (l.filterMap (importFor? m config))) := by
  refine eraseReps_sortBy_eq ImportEntry.le_total ImportEntry.le_trans ImportEntry.le_antisymm ?_
  intro i
  simp only [List.mem_filterMap, h]

end ApiScribe.Plan
